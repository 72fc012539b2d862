import Curator.Proofs.Lifecycle.Visibility
import Curator.Proofs.Model.Removing
import Curator.Proofs.Model.TestedRows
import Curator.Proofs.Model.Uniqueness
import Curator.Proofs.Plan.Whole
import Curator.Proofs.Timestamp
/-!
# Rows stamped before a moment

Old rows are found by comparing texts: a column is tested against the timestamp of a moment.  Where
the database compares texts by their characters, the test holds of the rows whose stamp comes before
the timestamp in the order of stamps.
-/

set_option autoImplicit false

namespace Curator

open Calendar Sql Outcome Session

/-! ## Comparing texts -/

/-- A database that compares the texts in the columns of a table by their characters; of null it is
unknown what it is less than. -/
structure Judge.ComparesTexts (j : Judge) (table : String) : Prop where
  less : ∀ (row : Row) (owner : Option String) (name text limit : String),
    owner = none ∨ owner = some table → row name = .str text →
      j.other row (columnTokens owner name ++ [.sign '<'] ++ [.value (.str limit)]) =
        if text < limit then .yes else .no
  unknown : ∀ (row : Row) (owner : Option String) (name limit : String),
    owner = none ∨ owner = some table → (row name).isNull = true →
      j.other row (columnTokens owner name ++ [.sign '<'] ++ [.value (.str limit)]) = .unknown

/-- A condition that holds of the rows with a stamp in a column exactly if `P` does, and of no row
where the column is null. -/
def Sql.Fragment.Picks (condition : Fragment) (d : Dialect) (table name stamp : String) (P : Prop) :
    Prop :=
  ∀ j : Judge, j.ComparesTexts table → ∀ row : Row,
    (row name = .str stamp → (j.holds d table condition row = true ↔ P)) ∧
      ((row name).isNull = true → j.holds d table condition row = false)

namespace Sql

variable {d : Dialect} {table name limit : String} {owner : Option String} {f : Fragment}

/-- A column as it is written, alone or behind its table. -/
def columnText (owner : Option String) (name : String) : String :=
  match owner with
  | none => quoted name
  | some table => quoted table ++ "." ++ quoted name

/-- The test that a column holds a lesser text than a given one. -/
def lessTest (d : Dialect) (column limit : String) : Fragment :=
  ⟨column ++ " < " ++ d.placeholder, [.str limit]⟩

theorem column_valid (valid : Text.isIdentifier name = true)
    (owned : ∀ table, owner = some table → Text.isIdentifier table = true) :
    Column.render d ⟨name, owner, []⟩ = .ok (columnText owner name) := by
  cases owner with
  | none =>
    simp only [Column.render, qualify, quote, valid, if_true, ok_bind]
    rfl
  | some table =>
    simp only [Column.render, qualify, quote, valid, owned table rfl, if_true, ok_bind]
    rfl

theorem predicate_lessTest (valid : Text.isIdentifier name = true)
    (owned : ∀ table, owner = some table → Text.isIdentifier table = true) :
    Plan.predicate d ⟨name, owner, []⟩ .lt (.str limit) =
      .ok (lessTest d (columnText owner name) limit) := by
  have sign : columnText owner name ++ " " ++ "<" ++ " " = columnText owner name ++ " < " := by
    rw [String.append_assoc, String.append_assoc]
    rfl
  unfold Plan.predicate
  rw [column_valid valid owned, ok_bind]
  simp only [Operator.render, compared, scalar, ok_bind, sign]
  rfl

theorem lt_tokens {operand : Value} (ok : Plan.predicate d ⟨name, owner, []⟩ .lt operand = .ok f) :
    f.tokens d = columnTokens owner name ++ [.sign '<'] ++ [.value operand] := by
  obtain ⟨expr, rendered, made⟩ := bind_ok ok
  refine tokens_of_reads rendered made ?_
  exact compared_tokens rendered (closed_of_run rfl)

/-- Whether a column is less than a value, the database tells. -/
theorem test_lt {operand : Value} (j : Judge) (row : Row)
    (own : owner = none ∨ owner = some table) :
    j.test table row (columnTokens owner name ++ [.sign '<'] ++ [.value operand]) =
      j.other row (columnTokens owner name ++ [.sign '<'] ++ [.value operand]) := by
  rcases own with rfl | rfl
  · simp [columnTokens, testedColumn?, Judge.test]
  · simp [columnTokens, testedColumn?, Judge.test]

theorem lessTest_written (column limit : String) : (lessTest d column limit).sql.isEmpty = false := by
  have sign : '<' ∈ (lessTest d column limit).sql.toList := by simp [lessTest]
  exact isEmpty_of_mem sign

/-- The test of a column picks the rows by the order of their stamps and its limit. -/
theorem lessTest_picks (valid : Text.isIdentifier name = true)
    (own : owner = none ∨ owner = some table) (owned : Text.isIdentifier table = true)
    {stamp : String} {P : Prop} (order : stamp < limit ↔ P) :
    (lessTest d (columnText owner name) limit).Picks d table name stamp P := by
  intro j compares row
  have asked : Plan.predicate d ⟨name, owner, []⟩ .lt (.str limit) =
      .ok (lessTest d (columnText owner name) limit) := by
    apply predicate_lessTest valid
    intro other same
    rcases own with none | some
    · cases none.symm.trans same
    · cases some.symm.trans same
      exact owned
  have alone := holds_of_tests table j row
    (List.forall_mem_singleton.mpr (isTest_of_predicate asked))
  rw [List.map_singleton, renderRoot_one (lessTest_written _ limit), List.forall_mem_singleton,
    lt_tokens asked, test_lt j row own] at alone
  constructor
  · intro stamped
    rw [alone, compares.less row owner name stamp limit own stamped, ← order]
    by_cases less : stamp < limit
    · simp [less]
    · simp [less]
  · intro null
    rw [compares.unknown row owner name limit own null] at alone
    cases held : j.holds d table (lessTest d (columnText owner name) limit) row with
    | false => rfl
    | true => cases alone.mp held

/-! ## Statements about the rows below a limit -/

/-- The statement that lists the keys of the rows of which a condition holds. -/
def keysText (table key : String) (condition : Fragment) : Fragment :=
  ⟨"SELECT " ++ (columnText (some table) key ++ " AS " ++ quoted key) ++
    (" FROM " ++ quoted table ++ conditioned condition), condition.params⟩

/-- The statement that deletes the rows of which a condition holds. -/
def deletedText (table : String) (condition : Fragment) : Fragment :=
  ⟨"DELETE" ++ (" FROM " ++ quoted table ++ conditioned condition), condition.params⟩

/-- A selection of a table by conditions and nothing else. -/
def Select.plain (d : Dialect) (table : String) (columns : List String) (root : List Condition) :
    Select :=
  ⟨d, some (quoted table), columns, [], root, [], [], [], none, none⟩

theorem fromClause_plain {columns : List String} (written : f.sql.isEmpty = false) :
    (Select.plain d table columns [.predicate .and f]).fromClause =
      .ok (⟨" FROM " ++ quoted table ++ conditioned f, f.params⟩, true) := by
  have clause : (Select.plain d table columns [.predicate .and f]).fromClause = .ok
      (⟨" FROM " ++ quoted table ++ conditioned (Condition.renderRoot [.predicate .and f]),
        (Condition.renderRoot [.predicate .and f]).params⟩,
        !(Condition.renderRoot [.predicate .and f]).sql.isEmpty) := fromClause_tested
  rw [renderRoot_one written, written] at clause
  exact clause

theorem toSql_plain {column : String} (written : f.sql.isEmpty = false) :
    (Select.plain d table [column] [.predicate .and f]).toSql =
      .ok ⟨"SELECT " ++ column ++ (" FROM " ++ quoted table ++ conditioned f), f.params⟩ := by
  unfold Select.toSql
  rw [fromClause_plain written]
  simp [Select.plain, Select.limitClause, Select.offsetClause, Text.join_one, ok_bind]

theorem deleteSql_plain (written : f.sql.isEmpty = false) :
    (Select.plain d table [] [.predicate .and f]).deleteSql = .ok (deletedText table f) := by
  unfold Select.deleteSql
  rw [fromClause_plain written]
  rfl

end Sql

/-! ## Clearing away -/

namespace Session

variable {d : Dialect} {α β : Type}

theorem tells_ok_bind {made : Except Failure α} {a : α} {next : α → Session β}
    {Q : Except Failure β → List Exchange → Prop} (ok : made = .ok a) (goes : Tells d (next a) Q) :
    Tells d (of made >>= next) Q := by
  subst ok
  exact tells_of_bind nofun fun b same => by
    cases same
    exact goes

end Session

namespace Model

variable {m : Model} {d : Dialect} {name limit : String} {before : Value}

/-- Work that clears away rows, one by one or at once, by a condition on which `P` holds.  One by one:
a statement lists the keys of the rows of which the condition holds, and rows are removed by the keys
it was answered with; nothing at all is sent only if the work fails before.  At once: one statement
deletes the rows of which the condition holds. -/
structure ClearsBy (m : Model) (d : Dialect) (P : Fragment → Prop)
    (removes : Value → Fragment → Prop) (oneByOne : Session Nat) (atOnce : Session Int) : Prop where
  lists : m.Quiet → Tells d oneByOne fun outcome xs => m.Clearing d removes xs ∧
    ((xs = [] ∧ ∃ failure, outcome = .error failure) ∨ ∃ x rest condition, xs = x :: rest ∧
      x.statement = keysText m.schema.table m.schema.primaryKey condition ∧ P condition)
  deletes : Tells d atOnce fun _ xs => ∃ x condition, xs = [x] ∧
    x.statement = deletedText m.schema.table condition ∧ P condition

theorem tells_rows_bind {α : Type} {next : Select → Session α}
    {Q : Except Failure α → List Exchange → Prop} (owned : Text.isIdentifier m.schema.table = true)
    (goes : Tells d (next (Select.plain d m.schema.table [] [])) Q) :
    Tells d (m.rows >>= next) Q := by
  unfold rows rowsOf
  rw [bind_assoc]
  refine tells_dialect_bind (tells_ok_bind ?_ goes)
  simp only [Select.from_, quote, owned, if_true, ok_bind]
  rfl

theorem tells_narrowed_lt_bind {α : Type} {owner : Option String} {columns : List String}
    {f : Fragment} {next : Select → Session α} {Q : Except Failure α → List Exchange → Prop}
    (asked : Plan.predicate d ⟨name, owner, []⟩ .lt (.str limit) = .ok f)
    (goes : Tells d (next (Select.plain d m.schema.table columns [.predicate .and f])) Q) :
    Tells d (narrowed (Select.plain d m.schema.table columns []) ⟨name, owner, []⟩ .lt (.str limit)
      >>= next) Q := by
  refine tells_ok_bind ?_ goes
  have speaks : (Select.plain d m.schema.table columns []).dialect = d := rfl
  rw [where_eq, speaks, asked]
  rfl

/-- The keys before a moment are listed by one statement. -/
theorem tells_keysBelow (checked : m.schema.Checked) (valid : Text.isIdentifier name = true)
    (stamped : timestamp m.engine.now before = .ok limit) :
    Tells d (m.keysBefore name before) fun _ xs => ∃ x, xs = [x] ∧
      x.statement = keysText m.schema.table m.schema.primaryKey
        (lessTest d (columnText (some m.schema.table) name) limit) := by
  have key := checked.readable _ checked.primaryKey
  have owned : ∀ table, some m.schema.table = some table → Text.isIdentifier table = true := by
    intro table same
    cases same
    exact checked.table
  have keyed : (Select.plain d m.schema.table [] []).column (m.column m.schema.primaryKey)
      (some m.schema.primaryKey) = .ok (Select.plain d m.schema.table
        [columnText (some m.schema.table) m.schema.primaryKey ++ " AS " ++
          quoted m.schema.primaryKey] []) := by
    unfold Select.column
    simp only [column_valid key owned, Model.column, ok_bind, quoteAlias,
      Text.isAlias_of_isIdentifier key, if_true]
    rfl
  -- all names can be quoted and the limit is a text, so nothing fails before the statement is sent
  unfold keysBefore
  refine tells_rows_bind checked.table (tells_ok_bind keyed (tells_ok_bind stamped ?_))
  refine tells_narrowed_lt_bind (predicate_lessTest valid owned) ?_
  refine Tells.bind (tells_fetch ?_ ?_)
  · intro failure refused
    rw [toSql_plain (lessTest_written _ _)] at refused
    cases refused
  · intro f made reply
    rw [toSql_plain (lessTest_written _ _)] at made
    cases made
    cases (Exchange.mk _ reply).answer d with
    | error failure => exact ⟨_, rfl, rfl⟩
    | ok answer => exact tells_of ⟨_, rfl, rfl⟩

/-- The rows before a moment are deleted by one statement. -/
theorem tells_removeBelow (checked : m.schema.Checked) (valid : Text.isIdentifier name = true)
    (stamped : timestamp m.engine.now before = .ok limit) :
    Tells d (m.removeBefore name before) fun _ xs => ∃ x, xs = [x] ∧
      x.statement = deletedText m.schema.table (lessTest d (columnText none name) limit) := by
  unfold removeBefore
  refine tells_rows_bind checked.table (tells_ok_bind stamped ?_)
  refine tells_narrowed_lt_bind (predicate_lessTest valid nofun) ?_
  refine tells_ok_bind (deleteSql_plain (lessTest_written _ _)) ?_
  exact tells_execute_bind (fun _ => rfl) fun reply => ⟨_, rfl, rfl⟩

/-- What is cleared away one by one before a moment is listed first. -/
theorem Quiet.lists_below (quiet : m.Quiet) {remove : Value → Session Bool}
    {R : Value → List Exchange → Prop} (message : Nat → String) (checked : m.schema.Checked)
    (valid : Text.isIdentifier name = true) (stamped : timestamp m.engine.now before = .ok limit)
    (each : ∀ key, Tells d (remove key) fun _ xs => R key xs) :
    Tells d (m.tracked do
      let keys ← m.keysBefore name before
      let removed ← removeEach remove keys
      Session.log .info (message removed)
      pure removed) fun outcome xs => (xs = [] ∧ ∃ failure, outcome = .error failure) ∨
        ∃ x rest, xs = x :: rest ∧ x.statement = keysText m.schema.table m.schema.primaryKey
          (lessTest d (columnText (some m.schema.table) name) limit) := by
  refine quiet.tracked (Q := fun _ xs => ∃ x rest, xs = x :: rest ∧
    x.statement = keysText m.schema.table m.schema.primaryKey
      (lessTest d (columnText (some m.schema.table) name) limit)) ?_ ?_ ?_ ?_
  · -- whatever the removals come to, their exchanges follow the listing
    refine Tells.bind ((tells_keysBelow checked valid stamped).mono fun outcome xs lists => ?_)
    obtain ⟨x, rfl, asked⟩ := lists
    cases outcome with
    | error failure => exact ⟨x, [], rfl, asked⟩
    | ok keys =>
      refine Tells.bind ((tells_removeEach each keys).mono fun outcome ys _ => ?_)
      cases outcome with
      | error failure => exact ⟨x, ys, rfl, asked⟩
      | ok removed => exact tells_log_bind (tells_pure ⟨x, ys ++ [], rfl, asked⟩)
  · intro failure
    exact Or.inl ⟨rfl, failure, rfl⟩
  · intro _ _ lists
    exact Or.inr lists
  · intro _ _ _ lists
    exact Or.inr lists

/-- Clearing away what a column dates before a moment, one by one and at once. -/
theorem clearsBy_of_stamp {P : Fragment → Prop} {removes : Value → Fragment → Prop}
    {remove : Value → Session Bool} {message : Nat → String} {note : Int → String}
    (checked : m.schema.Checked) (valid : Text.isIdentifier name = true)
    (stamped : timestamp m.engine.now before = .ok limit)
    (each : m.Quiet → ∀ key, Tells d (remove key) fun _ xs => m.Removal d removes key xs)
    (holds : ∀ owner, owner = none ∨ owner = some m.schema.table →
      P (lessTest d (columnText owner name) limit)) :
    m.ClearsBy d P removes
      (m.tracked do
        let keys ← m.keysBefore name before
        let removed ← removeEach remove keys
        Session.log .info (message removed)
        pure removed)
      (do
        let removed ← m.removeBefore name before
        Session.log .info (note removed)
        pure removed) where
  lists quiet := by
    have listed := quiet.lists_below message checked valid stamped (each quiet)
    refine (quiet.clearing (each quiet)).and (listed.mono fun outcome xs lists => ?_)
    rcases lists with nothing | ⟨x, rest, sent, asked⟩
    · exact Or.inl nothing
    · exact Or.inr ⟨x, rest, _, sent, asked, holds _ (Or.inr rfl)⟩
  deletes := by
    refine Tells.bind ((tells_removeBelow checked valid stamped).mono fun outcome xs deletes => ?_)
    obtain ⟨x, rfl, asked⟩ := deletes
    have deleted := holds none (Or.inl rfl)
    cases outcome with
    | error failure => exact ⟨x, _, rfl, asked, deleted⟩
    | ok removed => exact tells_log_bind (tells_pure ⟨x, _, rfl, asked, deleted⟩)

end Model

/-- Clearing away before a moment.  Two values stand for seconds, the first for the one in which a row
was stamped; their timestamps are ordered as the stamps of the seconds are, which is how the seconds
are if their years have equally many digits.  A purge and a pruning before the second value, one by
one or at once, test the rows so that the row is picked if its stamp comes before the timestamp of the
value, while a row that is not stamped is never picked. -/
theorem Model.clearing_follows_stamps {a b : Value} {second later : Int} {year other : Nat}
    (stands : StandsFor a second) (stands' : StandsFor b later) (within : InYear second year)
    (within' : InYear later other) :
    ∃ stamp limit, (∀ now, timestamp now a = .ok stamp) ∧ (∀ now, timestamp now b = .ok limit) ∧
      (stamp < limit ↔ StampOrder second later year other) ∧
      ((toString year).length = (toString other).length → (stamp < limit ↔ second < later)) ∧
      ∀ (m : Model) (d : Dialect), m.schema.Checked →
        let picks (name : String) (condition : Fragment) : Prop :=
          condition.Picks d m.schema.table name stamp (StampOrder second later year other)
        (Text.isIdentifier m.schema.deletedAtColumn = true →
          m.ClearsBy d (picks m.schema.deletedAtColumn) (fun key f => f = m.deletion d key)
            (m.purgeTrashed b) (m.purgeTrashedQuietly b)) ∧
        (Text.isIdentifier m.schema.pruneColumn = true →
          m.ClearsBy d (picks m.schema.pruneColumn) (m.Destroys d) (m.prune b) (m.pruneQuietly b)) := by
  obtain ⟨stamp, limit, first, last, order⟩ := timestamp_lt_iff stands stands' within within'
  refine ⟨stamp, limit, first, last, order, ?_, ?_⟩
  · intro digits
    rw [order, stampOrder_iff within within' digits]
  · intro m d checked picks
    have holds : ∀ name, Text.isIdentifier name = true → ∀ owner,
        owner = none ∨ owner = some m.schema.table →
          picks name (lessTest d (columnText owner name) limit) :=
      fun name valid owner own => lessTest_picks valid own checked.table order
    constructor
    · intro valid
      exact Model.clearsBy_of_stamp checked valid (last _)
        (fun quiet key => quiet.hardDelete checked key) (holds _ valid)
    · intro valid
      exact Model.clearsBy_of_stamp checked valid (last _)
        (fun quiet key => quiet.delete checked key) (holds _ valid)

namespace Sample

def textLess (v : Value) (limit : String) : Truth :=
  match v with
  | .str text => if text < limit then .yes else .no
  | _ => .unknown

theorem textLess_null {v : Value} (null : v.isNull = true) (limit : String) :
    textLess v limit = .unknown := by
  cases v with
  | null => rfl
  | _ => cases null

/-- A database that compares the texts in columns by their characters. -/
def textJudge (table : String) : Judge where
  same := scalarJudge.same
  symm := scalarJudge.symm
  trans := scalarJudge.trans
  other := fun row ts =>
    match testedColumn? table ts with
    | some (name, [.sign '<', .value (.str limit)]) => textLess (row name) limit
    | _ => .unknown

theorem textJudge_compares (table : String) : (textJudge table).ComparesTexts table where
  less := by
    rintro row owner name text limit (rfl | rfl) stamped
    · simp [textJudge, columnTokens, testedColumn?, stamped, textLess]
    · simp [textJudge, columnTokens, testedColumn?, stamped, textLess]
  unknown := by
    rintro row owner name limit (rfl | rfl) null
    · simp [textJudge, columnTokens, testedColumn?, textLess_null null]
    · simp [textJudge, columnTokens, testedColumn?, textLess_null null]

/-- The first second of 1970, on a clock two hours ahead. -/
def epochAhead : Moment := ⟨⟨1970, 1, 1⟩, 2, 0, 0, 0, some (7200 * microsPerSecond)⟩

/-- Folders trashed in the last second of 1969 are picked by what is cleared away before 1970. -/
theorem folders_of_1969_cleared :
    StandsFor (.int (-1)) (-1) ∧ StandsFor (.moment epochAhead) 0 ∧ InYear (-1) 1969 ∧ InYear 0 1970 ∧
    folderModel.schema.Checked ∧ Text.isIdentifier folderModel.schema.deletedAtColumn = true ∧
    folderModel.Quiet ∧ (textJudge "folders").ComparesTexts "folders" ∧
    (toString 1969).length = (toString 1970).length ∧ StampOrder (-1) 0 1969 1970 ∧
    (∀ now, timestamp now (.int (-1)) = .ok "1969-12-31 23:59:59") ∧
    folderModel.ClearsBy .sqlite (·.Picks .sqlite "folders" "deleted_at" "1969-12-31 23:59:59"
      (StampOrder (-1) 0 1969 1970)) (fun key f => f = folderModel.deletion .sqlite key)
      (folderModel.purgeTrashed (.moment epochAhead))
      (folderModel.purgeTrashedQuietly (.moment epochAhead)) := by
  have stands : StandsFor (.moment epochAhead) 0 := by
    refine .moment (m := epochAhead) ?_
    constructor
    all_goals decide +kernel
  have digits_same : (toString 1969).length = (toString 1970).length := by decide +kernel
  have within : InYear (-1) 1969 := by
    constructor
    all_goals decide
  have within' : InYear 0 1970 := by
    constructor
    all_goals decide
  have checked : folderModel.schema.Checked := folder_declared.checked
  have valid : Text.isIdentifier folderModel.schema.deletedAtColumn = true := by decide
  obtain ⟨stamp, limit, stamped, _, order, digits, clears⟩ :=
    Model.clearing_follows_stamps (.second (-1)) stands within within'
  have text : stamp = "1969-12-31 23:59:59" := by
    have known : (timestamp default (.int (-1))).toOption = some "1969-12-31 23:59:59" := by
      decide +kernel
    rw [stamped] at known
    exact Option.some.inj known
  subst text
  exact ⟨.second _, stands, within, within', checked, valid, folder_quiet, textJudge_compares _,
    digits_same, order.mp ((digits digits_same).mpr (by decide)), stamped,
    (clears folderModel .sqlite checked).1 valid⟩

/-- The last second of the year 999 comes before the first one of the year 1000, its timestamp does
not. -/
theorem year_999_stamped_after_1000 :
    let a : Moment := ⟨⟨999, 12, 31⟩, 23, 59, 59, 0, none⟩
    let b : Moment := ⟨⟨1000, 1, 1⟩, 0, 0, 0, 0, none⟩
    a.IsValid ∧ b.IsValid ∧ a.micros.fdiv microsPerSecond < b.micros.fdiv microsPerSecond ∧
      ∃ stamp limit, (∀ now, timestamp now (.moment a) = .ok stamp) ∧
        (∀ now, timestamp now (.moment b) = .ok limit) ∧ ¬ stamp < limit := by
  refine ⟨?_, ?_, by decide +kernel, "999-12-31 23:59:59", "1000-01-01 00:00:00", ?_, ?_, by decide⟩
  · constructor
    all_goals decide
  · constructor
    all_goals decide
  · intro now
    exact congrArg Except.ok (by decide +kernel)
  · intro now
    exact congrArg Except.ok (by decide +kernel)

end Sample

end Curator
