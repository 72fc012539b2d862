import Curator.Proofs.Sql.Made
import Curator.Proofs.Text.Integers
import Curator.Sql.Write
/-!
# Expressions that are not written

How the text of a column and of a predicate can fail: by a name that is no identifier, by an operand
that is refused, or by one that is too long to be made a text of.  Writes fail over their names alone.
-/

set_option autoImplicit false

namespace Curator.Sql

open Outcome

variable {P : Failure → Prop}

theorem quote_fails {name : String}
    (refused : Text.isIdentifier name = false → P (.misuse (.identifier (.str name)))) :
    FailsOnly (quote name) P := by
  unfold quote
  split
  · exact failsOnly_ok _
  · rename_i invalid
    exact failsOnly_error (refused (by simpa using invalid))

theorem quote_identifier {name : String} (valid : Text.isIdentifier name = true) :
    FailsOnly (quote name) P := by
  apply quote_fails
  intro invalid
  rw [valid] at invalid
  cases invalid

theorem qualify_fails {column : String} {table : Option String}
    (own : FailsOnly (quote column) P) (owner : ∀ name, table = some name → FailsOnly (quote name) P) :
    FailsOnly (qualify column table) P := by
  cases table with
  | none => exact own
  | some table =>
    refine (owner table rfl).bind fun _ _ => ?_
    exact own.bind fun _ _ => failsOnly_pure _

theorem checkPath_of {path : List String} (keys : ∀ key ∈ path, Text.isJsonKey key = true) :
    checkPath path = .ok () := by
  induction path with
  | nil => rfl
  | cons key rest ih =>
    obtain ⟨first, others⟩ := List.forall_mem_cons.mp keys
    rw [checkPath, if_pos first]
    exact ih others

/-- With checked keys, only the names of a column and its table can be wrong. -/
theorem Column.render_fails {d : Dialect} {column : Column}
    (keys : ∀ key ∈ column.path, Text.isJsonKey key = true)
    (own : FailsOnly (quote column.name) P)
    (owner : ∀ name, column.table = some name → FailsOnly (quote name) P) :
    FailsOnly (column.render d) P := by
  unfold Column.render
  refine (qualify_fails own owner).bind fun expr _ => ?_
  split
  · exact failsOnly_pure _
  · rename_i some_key
    unfold Dialect.jsonExtract
    rw [if_neg some_key, checkPath_of keys, ok_bind]
    exact failsOnly_pure _

theorem Column.render_bare {d : Dialect} {name table : String} (own : FailsOnly (quote name) P)
    (owner : FailsOnly (quote table) P) :
    FailsOnly (Column.render d ⟨name, some table, []⟩) P := by
  refine Column.render_fails (fun _ member => nomatch member) own ?_
  intro other same
  cases same
  exact owner

theorem Select.leftJoin_fails {s : Select} {table label : String} {left right : Column}
    (named : FailsOnly (quote table) P) (aliased : FailsOnly (quote label) P)
    (owner : ∀ d, FailsOnly (left.render d) P) (key : ∀ d, FailsOnly (right.render d) P) :
    FailsOnly (s.leftJoin table left right (some label)) P := by
  have joined : ∀ target, FailsOnly (do
      let left ← left.render s.dialect
      let right ← right.render s.dialect
      pure { s with
        joins := s.joins ++ ["LEFT JOIN " ++ target ++ " ON " ++ left ++ " = " ++ right] }) P :=
    fun target => (owner _).bind fun _ _ => (key _).bind fun _ _ => failsOnly_pure _
  unfold Select.leftJoin
  refine named.bind fun target _ => ?_
  simp only
  split
  · exact joined _
  · exact aliased.bind fun _ _ => joined _

/-- An operator that makes a text of its operand, to look for it or to name it in a refusal. -/
def Operator.writes : Operator → Bool
  | .contains | .notContains | .icontains | .startsWith | .notStartsWith | .endsWith
  | .notEndsWith | .isNull | .isNotNull => true
  | _ => false

/-- A refused operand, or one that is too long to be written. -/
def Unmatched (operator : Operator) (operand : Value) (f : Failure) : Prop :=
  f.category = .request ∨
    operator.writes = true ∧ operand.isWritable = false ∧ f = .digits

section

variable {operator : Operator} {operand : Value} {expr mark : String}

theorem scalar_fails (v : Value) : FailsOnly (scalar v) fun f => f.category = .request := by
  unfold scalar
  split
  · exact failsOnly_error rfl
  · exact failsOnly_error rfl
  · exact failsOnly_ok _

theorem flag_fails (v : Value) : FailsOnly (flag v) fun f =>
    f.category = .request ∨ v.isWritable = false ∧ f = .digits := by
  have quoting : ∀ fault : Value → RequestFault,
      (Failure.quoting v fun w => .request (fault w)).category = .request ∨
        v.isWritable = false ∧ (Failure.quoting v fun w => .request (fault w)) = .digits := by
    intro fault
    unfold Failure.quoting
    cases writable : v.isWritable with
    | true => exact Or.inl rfl
    | false => exact Or.inr ⟨rfl, rfl⟩
  unfold flag
  split
  · exact failsOnly_ok _
  · exact failsOnly_ok _
  · exact failsOnly_ok _
  · exact failsOnly_ok _
  · simp only
    split
    · exact failsOnly_ok _
    · split
      · exact failsOnly_ok _
      · exact failsOnly_error (Or.inl rfl)
  · exact failsOnly_error (quoting _)

theorem scalar_unmatched (v : Value) : FailsOnly (scalar v) (Unmatched operator operand) :=
  (scalar_fails v).mono fun _ => Or.inl

theorem text_unmatched (writes : operator.writes = true) :
    FailsOnly operand.text? (Unmatched operator operand) := by
  refine (Value.text?_fails operand).mono fun f cause => ?_
  exact Or.inr ⟨writes, cause.2, cause.1⟩

theorem compared_fails (symbol : String) :
    FailsOnly (compared symbol expr operand mark) (Unmatched operator operand) :=
  (scalar_unmatched operand).bind fun _ _ => failsOnly_pure _

theorem liked_fails (writes : operator.writes = true) (place : LikePlace) (keyword : String) :
    FailsOnly (liked place keyword expr operand mark) (Unmatched operator operand) := by
  unfold liked
  refine (scalar_unmatched operand).bind fun v same => ?_
  rw [scalar_ok same]
  exact (text_unmatched writes).bind fun text _ => failsOnly_pure _

theorem likedInLowerCase_fails (writes : operator.writes = true) :
    FailsOnly (likedInLowerCase expr operand mark) (Unmatched operator operand) := by
  unfold likedInLowerCase
  refine (scalar_unmatched operand).bind fun v same => ?_
  rw [scalar_ok same]
  exact (text_unmatched writes).bind fun text _ => failsOnly_pure _

theorem listed_fails (keyword : String) :
    FailsOnly (listed keyword expr operand mark) (Unmatched operator operand) := by
  unfold listed
  split
  · refine FailsOnly.bind ?_ fun scalars _ => failsOnly_pure _
    exact failsOnly_mapM fun item _ => scalar_unmatched item
  · exact failsOnly_error (Or.inl rfl)

theorem nullCheck_fails (writes : operator.writes = true) (wantNull : Bool) :
    FailsOnly (nullCheck wantNull expr operand) (Unmatched operator operand) := by
  unfold nullCheck
  refine ((flag_fails operand).mono fun f cause => ?_).bind fun asked _ => failsOnly_pure _
  exact cause.imp_right fun long => ⟨writes, long⟩

theorem ranged_fails : FailsOnly (ranged expr operand mark) (Unmatched operator operand) := by
  unfold ranged
  split
  · refine (scalar_unmatched _).bind fun low _ => ?_
    exact (scalar_unmatched _).bind fun high _ => failsOnly_pure _
  · exact failsOnly_error (Or.inl rfl)

theorem Operator.render_fails :
    FailsOnly (operator.render expr operand mark) (Unmatched operator operand) := by
  cases operator with
  | eq | neq =>
    rw [Operator.render]
    split
    · exact failsOnly_ok _
    · exact compared_fails _
  | lt | lte | gt | gte => exact compared_fails _
  | isIn | notIn => exact listed_fails _
  | contains | notContains | startsWith | notStartsWith | endsWith | notEndsWith =>
    exact liked_fails rfl _ _
  | icontains => exact likedInLowerCase_fails rfl
  | isNull | isNotNull => exact nullCheck_fails rfl _
  | between => exact ranged_fails

end

/-! ## Statements -/

namespace Select

variable {s t : Select}

theorem renderedUntilRefused_fails {α : Type} {render : α → Except Failure String} {items : List α}
    {f : Failure} (each : ∀ item ∈ items, FailsOnly (render item) P)
    (refused : (renderedUntilRefused render items).2 = some f) : P f := by
  induction items with
  | nil => cases refused
  | cons item rest ih =>
    rw [renderedUntilRefused] at refused
    split at refused
    · rename_i fails
      cases refused
      exact each item List.mem_cons_self _ fails
    · exact ih (fun other member => each other (List.mem_cons_of_mem item member)) refused

theorem orderItem_fails {d : Dialect} {field : String}
    (named : FailsOnly
      ((Column.parse (Text.dropLeading (fun c => c == '+' || c == '-') field)).render d) P) :
    FailsOnly (orderItem d field) P :=
  named.bind fun _ _ => failsOnly_pure _

/-- A selection that has a table, and no open group. -/
def Begun (s : Select) : Prop := s.table.isSome = true ∧ s.openGroups = []

theorem begun_from {d : Dialect} {table : String} (ok : (Select.new d).from_ table = .ok s) :
    s.Begun := by
  obtain ⟨name, _, ok⟩ := bind_ok ok
  cases pure_ok ok
  exact ⟨rfl, rfl⟩

theorem Begun.column (begun : s.Begun) {column : Column} {label : Option String}
    (ok : s.column column label = .ok t) : t.Begun := by
  obtain ⟨expr, _, ok⟩ := bind_ok ok
  cases label with
  | none =>
    cases pure_ok ok
    exact begun
  | some label =>
    obtain ⟨name, _, ok⟩ := bind_ok ok
    cases pure_ok ok
    exact begun

theorem Begun.leftJoin (begun : s.Begun) {table : String} {left right : Column}
    {label : Option String} (ok : s.leftJoin table left right label = .ok t) : t.Begun := by
  obtain ⟨_, _, _, _, _, _, _, rfl⟩ := leftJoin_ok ok
  exact begun

theorem integerText_fails (n : Int) : FailsOnly (integerText n) fun f =>
    Number.withinDigitLimit n = false ∧ f = .digits := by
  unfold integerText Number.integerText?
  by_cases short : Number.withinDigitLimit n = true
  · rw [if_pos short]
    exact failsOnly_ok _
  · rw [if_neg short]
    exact failsOnly_error ⟨by simpa using short, rfl⟩

/-- Only its limits can keep a finished selection from being a statement. -/
theorem Begun.toSql_fails (begun : s.Begun) : FailsOnly s.toSql fun f => f = .digits ∧
    ∃ n, (s.limit = some n ∨ s.offset = some n) ∧ Number.withinDigitLimit n = false := by
  obtain ⟨table, named⟩ := Option.isSome_iff_exists.mp begun.1
  unfold toSql
  refine FailsOnly.bind ?_ fun source _ => FailsOnly.bind ?_ fun limit _ =>
    FailsOnly.bind ?_ fun offset _ => failsOnly_pure _
  · unfold fromClause
    rw [named, begun.2]
    exact failsOnly_ok _
  · unfold limitClause
    split
    · exact failsOnly_ok _
    · rename_i n limited
      refine ((integerText_fails n).mono fun f cause => ?_).bind fun _ _ => failsOnly_pure _
      exact ⟨cause.2, n, Or.inl limited, cause.1⟩
  · unfold offsetClause
    split
    · exact failsOnly_ok _
    · rename_i n skipped
      split
      · exact failsOnly_ok _
      · refine ((integerText_fails n).mono fun f cause => ?_).bind fun _ _ => failsOnly_pure _
        exact ⟨cause.2, n, Or.inr skipped, cause.1⟩

end Select

/-! ## Writes -/

section

variable {d : Dialect} {table : String} {fields filter : Record}

theorem quoteAll_fails {names : List String}
    (valid : ∀ name ∈ names, Text.isIdentifier name = true) : FailsOnly (quoteAll names) P :=
  failsOnly_mapM fun name member => quote_identifier (valid name member)

theorem whereEquals_fails (valid : ∀ name ∈ filter.keys, Text.isIdentifier name = true) :
    FailsOnly (whereEquals d filter) P := by
  unfold whereEquals
  split
  · exact failsOnly_ok _
  · refine FailsOnly.bind ?_ fun parts _ => failsOnly_pure _
    apply failsOnly_mapM
    intro entry member
    have named := valid entry.1 (List.mem_map_of_mem member)
    exact (quote_identifier named).bind fun _ _ => failsOnly_pure _

theorem upsertClause_fails {conflict updates : List String}
    (target : ∀ name ∈ conflict, Text.isIdentifier name = true)
    (columns : ∀ name ∈ updates, Text.isIdentifier name = true) :
    FailsOnly (upsertClause conflict updates) P := by
  unfold upsertClause
  refine (quoteAll_fails target).bind fun _ _ => ?_
  simp only
  split
  · exact failsOnly_pure _
  · exact (quoteAll_fails columns).bind fun _ _ => failsOnly_pure _

theorem insertSql_fails {onConflict : OnConflict} (owner : Text.isIdentifier table = true)
    (columns : ∀ name ∈ fields.keys, Text.isIdentifier name = true)
    (conflict : ∀ names, onConflict = .overwrite names →
      names ≠ [] ∧ ∀ name ∈ names, Text.isIdentifier name = true) :
    FailsOnly (insertSql d table fields onConflict) P := by
  unfold insertSql
  refine (quoteAll_fails columns).bind fun _ _ => ?_
  refine (quote_identifier owner).bind fun _ _ => ?_
  simp only
  split
  · exact failsOnly_pure _
  · exact absurd rfl (conflict [] rfl).1
  · rename_i names _
    refine (upsertClause_fails (conflict names rfl).2 ?_).bind fun _ _ => failsOnly_pure _
    intro name member
    exact columns name (List.mem_of_mem_filter member)

theorem updateSql_fails (owner : Text.isIdentifier table = true)
    (columns : ∀ name ∈ fields.keys, Text.isIdentifier name = true)
    (conditions : ∀ name ∈ filter.keys, Text.isIdentifier name = true) :
    FailsOnly (updateSql d table fields filter) P :=
  (quoteAll_fails columns).bind fun _ _ => (whereEquals_fails conditions).bind fun _ _ =>
    (quote_identifier owner).bind fun _ _ => failsOnly_pure _

theorem deleteSql_fails (some_condition : filter ≠ []) (owner : Text.isIdentifier table = true)
    (conditions : ∀ name ∈ filter.keys, Text.isIdentifier name = true) :
    FailsOnly (deleteSql d table filter) P := by
  unfold deleteSql
  rw [if_neg (by simpa using some_condition)]
  exact (whereEquals_fails conditions).bind fun _ _ =>
    (quote_identifier owner).bind fun _ _ => failsOnly_pure _

end

end Curator.Sql
