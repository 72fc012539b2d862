import Curator.Proofs.Database.Truthful
import Curator.Proofs.Mapping
import Curator.Proofs.Model.Phases
import Curator.Proofs.Model.TestedRows
import Curator.Proofs.Model.WriteOrder
import Curator.Proofs.Transform.Applied
/-!
# Unique values stay unique

What a create or an update leaves of a table whose unique constraints hold: on a database that counts,
returns and writes rows truly they hold again afterwards.
-/

set_option autoImplicit false

namespace Curator

open Sql Outcome Session

/-! ## Fields as rows -/

theorem Model.nodup_withDefaults {schema : Schema} {fields : Record} (distinct : fields.keys.Nodup) :
    (withDefaults schema fields).keys.Nodup := by
  unfold withDefaults
  generalize schema.defaults = defaults
  induction defaults generalizing fields with
  | nil => exact distinct
  | cons entry rest ih => exact ih (Mapping.nodup_supply distinct _ _)

/-- Fields laid over a stored record are the stored row with these fields. -/
theorem Row.ofRecord_overlay {stored fields : Record} (distinct : fields.keys.Nodup) :
    Row.ofRecord (stored.overlay fields) = (Row.ofRecord stored).with_ fields := by
  funext column
  simp only [ofRecord, with_, Mapping.value?_overlay distinct]
  cases fields.value? column with
  | none => rfl
  | some value => rfl

/-- Of work that writes once, only a write that is answered changes the rows. -/
theorem OneWrite.rows_after {α : Type} {j : Judge} {d : Dialect} {table key : String}
    {rows after : List Row} {xs : List Exchange} {outcome : Except Failure α}
    {ready : List Exchange → Record → Prop} {sends : Record → Fragment → Prop}
    (written : OneWrite ready sends outcome xs) (serves : j.Serves d table key rows xs after) :
    after = rows ∨ ∃ before row x answer,
      (∀ y ∈ before, j.Honest d table key rows y rows) ∧ ready before row ∧ sends row x.statement ∧
        x.answer d = .ok answer ∧ j.Honest d table key rows x after := by
  obtain ⟨before, back, write, rfl, selects, reached⟩ := written
  obtain ⟨honest, rfl | ⟨x, sent, own⟩⟩ := serves.one_write selects
  · exact Or.inl rfl
  · obtain ⟨row, was_ready, stated⟩ := reached (Or.inl (Option.isSome_of_mem sent))
    cases answered : x.answer d with
    | error failure => exact Or.inl (own.refused failure answered)
    | ok answer =>
      exact Or.inr ⟨before, row, x, answer, honest, was_ready, stated x sent, answered, own⟩

namespace Model

/-! ## Creates and updates -/

/-- A create or an update of a row. -/
inductive RowWrite where
  | create (fields : Record)
  | update (key : Value) (fields : Record)

namespace RowWrite

def fields : RowWrite → Record
  | .create fields => fields
  | .update _ fields => fields

/-- The write as an operation of a model. -/
def run (m : Model) : RowWrite → Session Resource
  | .create fields => m.create fields
  | .update key fields => m.update key fields

/-- The checks that the write begins with. -/
def checks (m : Model) : RowWrite → Session Unit
  | .create fields => do
    let _ ← m.checkedNew fields
    pure ()
  | .update key fields => do
    let _ ← m.checkedChange key fields
    pure ()

end RowWrite

variable {m : Model} {d : Dialect} {j : Judge} {rows : List Row} {xs : List Exchange}
  {fields values stored settled existing : Record} {key : Value} {unique : UniqueKey}

/-! ## Rows that are free -/

/-- Where a count of rows with given unique values was answered with zero, no row but the excluded
one has these values. -/
theorem free_of_counted {excluded : Value} {columns : List String}
    (counted : Counted d xs m.schema.table (m.uniqueTests values excluded columns) 0)
    (honest : ∀ x ∈ xs, j.Honest d m.schema.table m.schema.primaryKey rows x rows)
    (given : ∀ column ∈ columns, (Row.ofRecord values column).isNull = false) {row : Row}
    (member : row ∈ rows)
    (other : excluded.isNull = false → j.unequal (row m.schema.primaryKey) excluded = .yes) :
    ¬ j.Agree columns row (Row.ofRecord values) := by
  intro agree
  obtain ⟨x, inside, asked, answered⟩ := counted
  obtain ⟨condition, asks, text⟩ := counting_ok asked
  have none := (honest x inside).counted condition 0 text answered
  have compares : ∀ test ∈ m.uniqueTests values excluded columns,
      ((test.2.1 = .eq ∨ test.2.1 = .neq) ∧ test.2.2.isNull = false) ∧ Passes j row test := by
    intro test asked
    rcases List.mem_append.mp asked with asked | asked
    · obtain ⟨column, inside, rfl⟩ := List.mem_map.mp asked
      exact ⟨⟨Or.inl rfl, given column inside⟩, agree column inside⟩
    · split at asked
      · cases asked
      · rename_i known
        have known : excluded.isNull = false := by simpa using known
        rw [List.mem_singleton.mp asked]
        exact ⟨⟨Or.inr rfl, known⟩, other known⟩
  have holds := (asks.holds j row fun test asked => (compares test asked).1).mpr
    fun test asked => (compares test asked).2
  have zero : rows.countP (j.holds d m.schema.table condition) = 0 := by omega
  exact List.countP_eq_zero.mp zero row member holds

/-- A row that is inserted after the checks has unique values that no other row has. -/
theorem NewChecked.apart (checked : m.NewChecked d fields values xs) (unhooked : m.Unhooked)
    (distinct : fields.keys.Nodup)
    (honest : ∀ x ∈ xs, j.Honest d m.schema.table m.schema.primaryKey rows x rows)
    (settles : m.settledNew values = .ok settled) {row : Row}
    (stores : j.Stores m.schema.primaryKey rows settled row) (member : unique ∈ m.schema.unique)
    (some_column : unique.columns ≠ []) {other : Row} (stored : other ∈ rows) :
    ¬ j.Agree unique.columns other row := by
  intro agree
  obtain ⟨mutated, mutates, rfl⟩ := checked.mutated
  have distinct_values : (withDefaults m.schema mutated).keys.Nodup :=
    nodup_withDefaults (TransformTable.nodup_transformed distinct mutates)
  generalize withDefaults m.schema mutated = values at checked settles distinct_values
  have none_stored : Row.ofRecord (Mapping.overlay [] values) = Row.ofRecord values := by
    rw [Row.ofRecord_overlay distinct_values]
    rfl
  -- a key that the database makes up agrees with no other
  have written : ∀ column ∈ unique.columns, row column = Row.ofRecord values column := by
    intro column inside
    rcases stores column with same | ⟨rfl, _, fresh⟩
    · rw [same, Row.ofRecord, unhooked.settledNew settles member column inside]
      rfl
    · exact absurd (agree _ inside) (fresh other stored)
  have given : ∀ column ∈ unique.columns, (Row.ofRecord values column).isNull = false := by
    intro column inside
    rw [← written column inside]
    exact (Judge.equal_yes.mp (agree column inside)).2.1
  have concerned : isConcerned values (Mapping.overlay [] values) unique.columns = true := by
    obtain ⟨first, inside⟩ := List.exists_mem_of_ne_nil _ some_column
    have known : ∀ column ∈ unique.columns,
        (Row.ofRecord (Mapping.overlay [] values) column).isNull = false := by
      rw [none_stored]
      exact given
    exact isConcerned_of_given ⟨first, inside, has_of_given (given first inside)⟩ known
  refine free_of_counted (checked.cleared.unique unique member concerned) honest
    (by simpa only [none_stored] using given) stored nofun ?_
  intro column inside
  rw [none_stored, ← written column inside]
  exact agree column inside

/-- The stored row that was fetched by a key is the one with that key. -/
theorem ChangeChecked.stored_row (checked : m.ChangeChecked d key fields values existing stored xs)
    (keyed : j.Keyed m.schema.primaryKey rows)
    (honest : ∀ x ∈ xs, j.Honest d m.schema.table m.schema.primaryKey rows x rows) {row : Row}
    (member : row ∈ rows) (found : j.equal (row m.schema.primaryKey) key = .yes) :
    Row.ofRecord stored = row := by
  obtain ⟨x, inside, asked, answer, answered, same⟩ := checked.found
  obtain ⟨condition, asks, text⟩ := firstRow_ok asked
  have known := (Judge.equal_yes.mp found).2.1
  have holds : ∀ row : Row, j.holds d m.schema.table condition row = true ↔
      j.equal (row m.schema.primaryKey) key = .yes := by
    intro row
    rw [asks.holds j row (by simpa using known), List.forall_mem_singleton]
    rfl
  rcases (honest x inside).first condition answer text answered with
    ⟨_, none⟩ | ⟨record, rest, rows_eq, stored_row, matches_key⟩
  · have absent := none row member
    rw [(holds row).mpr found] at absent
    cases absent
  · rw [rows_eq] at same
    cases same
    have own := (holds _).mp matches_key
    exact keyed.eq_of_same stored_row member (Judge.equal_trans own (Judge.equal_symm found))

/-- A row that is changed after the checks has unique values that no other row has. -/
theorem ChangeChecked.apart (checked : m.ChangeChecked d key fields values existing stored xs)
    (unhooked : m.Unhooked) (distinct : fields.keys.Nodup)
    (keyed : j.Keyed m.schema.primaryKey rows)
    (honest : ∀ x ∈ xs, j.Honest d m.schema.table m.schema.primaryKey rows x rows)
    {answered : List Record} (settles : m.settledChange existing values answered = .ok settled)
    (member : unique ∈ m.schema.unique) {row other : Row} (changed : row ∈ rows)
    (found : j.equal (row m.schema.primaryKey) key = .yes) (kept : other ∈ rows)
    (different : j.equal (other m.schema.primaryKey) key ≠ .yes)
    (apart : ¬ j.Agree unique.columns row other) :
    ¬ j.Agree unique.columns (row.with_ settled) other := by
  intro agree
  have distinct_values : values.keys.Nodup :=
    TransformTable.nodup_transformed distinct checked.mutated
  have whole : Row.ofRecord (stored.overlay values) = row.with_ values := by
    rw [Row.ofRecord_overlay distinct_values, checked.stored_row keyed honest changed found]
  have written : ∀ column ∈ unique.columns, row.with_ settled column = row.with_ values column := by
    intro column inside
    rw [Row.with_, Row.with_, unhooked.settledChange settles member column inside]
  have taken : j.Agree unique.columns other (Row.ofRecord (stored.overlay values)) := by
    intro column inside
    rw [whole, ← written column inside]
    exact Judge.equal_symm (agree column inside)
  by_cases touched : ∃ column ∈ unique.columns, values.has column = true
  · have given : ∀ column ∈ unique.columns,
        (Row.ofRecord (stored.overlay values) column).isNull = false :=
      fun column inside => (Judge.equal_yes.mp (taken column inside)).2.1
    have concerned := isConcerned_of_given touched given
    refine free_of_counted (checked.cleared.unique unique member concerned) honest given kept
      (fun known => ?_) taken
    exact Judge.unequal_yes (keyed.given other kept) known different
  · -- the constraint is left alone, so it holds as it did before
    refine apart fun column inside => ?_
    have untouched : values.value? column = none := by
      cases present : values.value? column with
      | none => rfl
      | some value =>
        refine absurd ⟨column, inside, ?_⟩ touched
        unfold Mapping.has
        unfold Mapping.value? at present
        rw [present]
        rfl
    have same := agree column inside
    rw [written column inside, Row.with_, untouched] at same
    exact same

/-- The rows after an update of a row: those with its key have new values. -/
theorem apart_of_changed {columns : List String} {hit : Row → Bool} (apart : j.Apart columns rows)
    (keyed : j.Keyed m.schema.primaryKey rows) (hits : ∀ row ∈ rows,
      hit row = true ↔ j.equal (row m.schema.primaryKey) key = .yes)
    (changed : ∀ row ∈ rows, ∀ other ∈ rows, hit row = true → hit other = false →
      ¬ j.Agree columns row other → ¬ j.Agree columns (row.with_ settled) other) :
    j.Apart columns (rows.map fun row => if hit row then row.with_ settled else row) := by
  refine List.pairwise_map.mpr ((apart.and keyed.apart).imp_of_mem ?_)
  intro a b first second both
  obtain ⟨different, keys⟩ := both
  -- only one of two rows can be the one that is changed, since they have different keys
  cases own : hit a with
  | true =>
    cases other : hit b with
    | true =>
      have same := Judge.equal_trans ((hits a first).mp own)
        (Judge.equal_symm ((hits b second).mp other))
      refine absurd ?_ keys
      intro column inside
      rw [List.mem_singleton.mp inside]
      exact same
    | false =>
      simp only [if_true, Bool.false_eq_true, if_false]
      exact changed a first b second own other different
  | false =>
    cases other : hit b with
    | true =>
      simp only [if_true, Bool.false_eq_true, if_false]
      have flipped := changed b second a first other own fun agree => different agree.symm
      exact fun agree => flipped agree.symm
    | false =>
      simp only [Bool.false_eq_true, if_false]
      exact different

/-! ## Whole runs -/

variable {s : SessionState} {script : List Reply} {after : List Row}

theorem Unhooked.create_apart (unhooked : m.Unhooked) (distinct : fields.keys.Nodup)
    (opened : s.Open d script) (member : unique ∈ m.schema.unique) (some_column : unique.columns ≠ [])
    (serves : j.Serves d m.schema.table m.schema.primaryKey rows ((m.create fields s).sent script)
      after) (apart : j.Apart unique.columns rows) : j.Apart unique.columns after := by
  have written := (unhooked.quiet.create fields s script opened).2
  obtain rfl | ⟨before, row, x, answer, honest, ready, sends, answered, own⟩ :=
    written.rows_after serves
  · exact apart
  · obtain ⟨values, checked, settles⟩ := ready fun y member => (honest y member).natural
    obtain ⟨tail, _, text, valid⟩ := insertion_ok sends
    obtain ⟨stored, rfl, stores⟩ := own.inserted row tail answer valid text answered
    exact apart.append fun other inside =>
      checked.apart unhooked distinct honest settles stores member some_column inside

theorem ChangeChecked.keyTest_asked
    (checked : m.ChangeChecked d key fields values existing stored xs) :
    Plan.predicate d ⟨m.schema.primaryKey, none, []⟩ .eq key =
      .ok (keyTest d m.schema.primaryKey key) := by
  obtain ⟨x, _, asked, _⟩ := checked.found
  obtain ⟨_, ⟨fs, all, _⟩, _⟩ := firstRow_ok asked
  cases all with
  | cons own _ => exact predicate_keyTest own

theorem Unhooked.update_apart (unhooked : m.Unhooked) (distinct : fields.keys.Nodup)
    (opened : s.Open d script) (member : unique ∈ m.schema.unique)
    (keyed : j.Keyed m.schema.primaryKey rows)
    (serves : j.Serves d m.schema.table m.schema.primaryKey rows ((m.update key fields s).sent script)
      after) (apart : j.Apart unique.columns rows) : j.Apart unique.columns after := by
  have written := (unhooked.quiet.update key fields s script opened).2
  obtain rfl | ⟨before, row, x, answer, honest, ready, sends, answered, own⟩ :=
    written.rows_after serves
  · exact apart
  · obtain ⟨existing, values, stored, read, checked, _, settles⟩ :=
      ready fun y member => (honest y member).natural
    obtain ⟨text, valid⟩ := updateSql_ok sends
    rw [own.updated row _ answer valid text answered]
    have hits : ∀ row ∈ rows,
        j.holds d m.schema.table (keyTest d m.schema.primaryKey key) row = true ↔
          j.equal (row m.schema.primaryKey) key = .yes :=
      fun row inside => holds_keyTest j (keyed.given row inside) checked.keyTest_asked
    refine apart_of_changed apart keyed hits fun row changed other kept hit missed => ?_
    refine checked.apart unhooked distinct keyed honest settles member changed
      ((hits row changed).mp hit) kept fun same => ?_
    rw [(hits other kept).mpr same] at missed
    cases missed

theorem failed_of_unit {α : Type} {first : Session α} {failure : Failure}
    (failed : ((first >>= fun _ => pure ()) s).outcome = .error failure) :
    (first s).outcome = .error failure := by
  simp only [Bind.bind, andThen] at failed
  cases ended : (first s).outcome with
  | error other =>
    rw [ended] at failed
    cases failed
    rfl
  | ok a =>
    rw [ended] at failed
    cases failed

/-- An operation whose first part only selects and fails has failed likewise, and has only selected. -/
theorem Unhooked.fails_at_first (unhooked : m.Unhooked) (opened : s.Open d script) {α β : Type}
    {first : Session α} {next : α → Session β} {failure : Failure}
    (selects : Tells d first SelectsOnly)
    (failed : (first (s.inside true)).outcome = .error failure) :
    (m.tracked (first >>= next) s).outcome = .error failure ∧
      ∀ x ∈ (m.tracked (first >>= next) s).sent script, x.statement.Selects := by
  have inside : (s.inside true).Open d script := ⟨opened.dialect, opened.pending, opened.upserting⟩
  obtain ⟨outcome, entries⟩ := tracked_of_bare unhooked.hooks (first >>= next) s
  have stopped : (first >>= next) (s.inside true) =
      ⟨.error failure, (first (s.inside true)).state, (first (s.inside true)).entries⟩ := by
    simp only [Bind.bind, andThen, failed]
  rw [Ran.sent, outcome, entries, stopped]
  exact ⟨rfl, (selects _ script inside).2⟩

/-- Where the checks fail the write fails as they do, and has sent nothing but selections. -/
theorem Unhooked.fails_with_checks (unhooked : m.Unhooked) (opened : s.Open d script)
    (write : RowWrite) {failure : Failure}
    (failed : (write.checks m (s.inside true)).outcome = .error failure) :
    (write.run m s).outcome = .error failure ∧
      ∀ x ∈ (write.run m s).sent script, x.statement.Selects := by
  cases write with
  | create fields =>
    rw [RowWrite.run, Model.create, createRow_eq]
    exact unhooked.fails_at_first opened (checkedNew_reads selecting fields) (failed_of_unit failed)
  | update key fields =>
    rw [RowWrite.run, Model.update, updateRow_eq]
    exact unhooked.fails_at_first opened (checkedChange_reads selecting unhooked.quiet.steps key fields)
      (failed_of_unit failed)

/-- Unique values stay unique.  In a table whose rows have keys of their own, no two of them agree on
all columns of a unique constraint.  A create or an update on a model without hooks, run alone on a
database that counts, returns and writes its rows truly, leaves a table of which the same holds,
whatever columns the write is of; and where one of its checks fails, it fails with that failure and
has sent no write. -/
theorem uniqueness_is_preserved (declared : m.schema.Declared) (unhooked : m.Unhooked)
    (write : RowWrite) (distinct : write.fields.keys.Nodup) (opened : s.Open d script)
    (keyed : j.Keyed m.schema.primaryKey rows)
    (unique : ∀ unique ∈ m.schema.unique, j.Apart unique.columns rows)
    (serves : j.Serves d m.schema.table m.schema.primaryKey rows ((write.run m s).sent script)
      after) :
    (∀ unique ∈ m.schema.unique, j.Apart unique.columns after) ∧
    ∀ failure, (write.checks m (s.inside true)).outcome = .error failure →
      (write.run m s).outcome = .error failure ∧
        ∀ x ∈ (write.run m s).sent script, x.statement.Selects := by
  refine ⟨fun key member => ?_, fun failure failed => unhooked.fails_with_checks opened write failed⟩
  cases write with
  | create fields =>
    exact unhooked.create_apart distinct opened member (declared.unique_columns key member) serves
      (unique key member)
  | update key fields =>
    exact unhooked.update_apart distinct opened member keyed serves (unique _ member)

end Model

namespace Sample

/-- Pages without hooks. -/
def slugSchema : Schema := { pageSchema with hooks := [] }

theorem slug_declared : slugSchema.Declared := ⟨{ pageDefinition with hooks := .dict [] }, by rfl⟩

def slugModel : Model :=
  { pageModel [] with
    engine := ⟨⟨.standard, [⟨slugSchema, none⟩]⟩, [], default⟩
    schema := slugSchema }

/-- A database that takes equal texts and equal integers for the same, and nothing else. -/
def scalarJudge : Judge where
  same := fun a b => (scalar? a).isSome && decide (scalar? a = scalar? b)
  symm := by
    intro a b same
    simp only [Bool.and_eq_true, decide_eq_true_eq] at same ⊢
    exact ⟨same.2 ▸ same.1, same.2.symm⟩
  trans := by
    intro a b c first second
    simp only [Bool.and_eq_true, decide_eq_true_eq] at first second ⊢
    exact ⟨first.1, first.2.trans second.2⟩
  other := fun _ _ => .unknown

def homePage : Row := Row.ofRecord [("id", .int 3), ("slug", .str "home")]

def aboutPage : Row :=
  Row.ofRecord [("slug", .str "about-us"), ("parent_id", .int 3), ("id", .int 7)]

/-- A page that is added below another one. -/
def addition : Ran Resource :=
  slugModel.create [("slug", .str "About us"), ("parent_id", .int 3)] (pageState creationReplies)

/-- How a page is fetched by its key, behind the first quote. -/
def fetchedPage : String :=
  "pages\".\"id\" AS \"id\", \"pages\".\"slug\" AS \"slug\", \"pages\".\"parent_id\" AS \"parent_id\" " ++
    "FROM \"pages\" WHERE \"pages\".\"id\" = ? ORDER BY \"pages\".\"id\" ASC"

theorem addition_statements : statements addition.entries =
    [⟨"SELECT COUNT(*) AS \"aggregate\" FROM \"pages\" WHERE \"pages\".\"id\" = ?", [.int 3]⟩,
      ⟨"SELECT COUNT(*) AS \"aggregate\" FROM \"pages\" WHERE \"pages\".\"slug\" = ?",
        [.str "about-us"]⟩,
      ⟨"INSERT INTO \"pages\" (\"slug\", \"parent_id\") VALUES (?, ?)", [.str "about-us", .int 3]⟩,
      ⟨"SELECT \"" ++ fetchedPage, [.int 7]⟩] :=
  statements_known [
    ("SELECT COUNT(*) AS \"aggregate\" FROM \"pages\" WHERE \"pages\".\"id\" = ?", [.inr 3]),
    ("SELECT COUNT(*) AS \"aggregate\" FROM \"pages\" WHERE \"pages\".\"slug\" = ?",
      [.inl "about-us"]),
    ("INSERT INTO \"pages\" (\"slug\", \"parent_id\") VALUES (?, ?)", [.inl "about-us", .inr 3]),
    ("SELECT \"" ++ fetchedPage, [.inr 7])] (by decide +kernel)

theorem addition_served : scalarJudge.Serves .sqlite "pages" "id" [homePage]
    (addition.sent creationReplies) [homePage, aboutPage] := by
  rw [Ran.sent, addition_statements]
  -- the table is as before until the page is inserted
  refine .cons (?_ : scalarJudge.Honest .sqlite "pages" "id" [homePage] _ [homePage])
    (.cons (?_ : scalarJudge.Honest .sqlite "pages" "id" [homePage] _ [homePage])
      (.cons (?_ : scalarJudge.Honest .sqlite "pages" "id" [homePage] _ [homePage, aboutPage])
        (.cons (?_ : scalarJudge.Honest .sqlite "pages" "id" _ _ [homePage, aboutPage]) (.nil _))))
  · refine Judge.honest_of_count (f := ⟨"\"pages\".\"id\" = ?", [.int 3]⟩) rfl ?_
    have one : [homePage].countP (scalarJudge.holds .sqlite "pages"
        ⟨"\"pages\".\"id\" = ?", [.int 3]⟩) = 1 := by decide +kernel
    rw [one]
    rfl
  · refine Judge.honest_of_count (f := ⟨"\"pages\".\"slug\" = ?", [.str "about-us"]⟩) rfl ?_
    have none : [homePage].countP (scalarJudge.holds .sqlite "pages"
        ⟨"\"pages\".\"slug\" = ?", [.str "about-us"]⟩) = 0 := by decide +kernel
    rw [none]
    rfl
  · have stores : scalarJudge.Stores "id" [homePage] [("slug", .str "about-us"), ("parent_id", .int 3)]
        aboutPage := by
      intro column
      by_cases key : column = "id"
      · refine Or.inr ⟨key, rfl, fun other member => ?_⟩
        rw [List.mem_singleton.mp member]
        decide +kernel
      · refine Or.inl ?_
        simp only [aboutPage, Row.ofRecord, Mapping.value?_cons, if_neg key]
    have text : (⟨"INSERT INTO \"pages\" (\"slug\", \"parent_id\") VALUES (?, ?)",
        [.str "about-us", .int 3]⟩ : Fragment) =
        insertText .sqlite "pages" [("slug", .str "about-us"), ("parent_id", .int 3)] "" := rfl
    exact Judge.honest_of_insert (by decide +kernel) text rfl stores
  · have columns : (⟨"SELECT \"" ++ fetchedPage, [.int 7]⟩ : Fragment).sql =
      "SELECT \"" ++ fetchedPage := rfl
    exact Judge.honest_of_columns columns

/-- A page is added to a table of one, and their slugs are different. -/
theorem slugs_stay_unique : addition.outcome.isOk = true ∧
    scalarJudge.Serves .sqlite "pages" "id" [homePage] (addition.sent creationReplies)
      [homePage, aboutPage] ∧
    ∀ unique ∈ slugSchema.unique, scalarJudge.Apart unique.columns [homePage, aboutPage] := by
  have unhooked : slugModel.Unhooked := ⟨rfl, nofun⟩
  have opened : (pageState creationReplies).Open .sqlite creationReplies := ⟨rfl, rfl, rfl⟩
  have keyed : scalarJudge.Keyed "id" [homePage] := by
    refine ⟨fun row member => ?_, List.pairwise_singleton _ _⟩
    rw [List.mem_singleton.mp member]
    rfl
  have whole := Model.uniqueness_is_preserved (m := slugModel) slug_declared unhooked
    (.create [("slug", .str "About us"), ("parent_id", .int 3)]) (by decide) opened keyed
    (fun _ _ => List.pairwise_singleton _ _) addition_served
  exact ⟨by decide +kernel, addition_served, whole.1⟩

end Sample

end Curator
