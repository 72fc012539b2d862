import Curator.Proofs.Database.Truthful
import Curator.Proofs.Mapping
import Curator.Proofs.Model.TestedRows
/-!
# Rows in conflict

What a table comes to when a row is inserted over the one it conflicts with, and the statement that
looks for the key of a row by its values in some columns.  A row with a null among its values conflicts
with no other one, while the look-up takes null for equal to null: where nulls are looked for, it may
come upon a row that had them before.
-/

set_option autoImplicit false

namespace Curator

open Sql Outcome Session

namespace Sql

variable {d : Dialect} {table key : String} {tests : List ColumnTest} {f : Fragment}

/-! ## Looking for a key -/

/-- The statement that fetches the key of the first row on which tests hold. -/
def keyRow (d : Dialect) (table key : String) (tests : List ColumnTest) :
    Except Failure Fragment := do
  let s ← (Select.new d).from_ table
  let s ← s.column ⟨key, some table, []⟩ (some key)
  let s ← tests.foldlM (fun s (name, operator, operand) =>
    s.where_ .and ⟨name, some table, []⟩ operator operand) s
  Select.toSql { s with limit := some 1 }

def keyText (table key : String) (condition : Fragment) : Fragment :=
  ⟨"SELECT " ++ (quoted table ++ "." ++ quoted key ++ " AS " ++ quoted key) ++
    (" FROM " ++ quoted table ++ conditioned condition) ++ " LIMIT 1", condition.params⟩

theorem keyRow_ok (ok : keyRow d table key tests = .ok f) :
    ∃ condition, Tests d table tests condition ∧ f = keyText table key condition := by
  obtain ⟨start, opened, ok⟩ := bind_ok ok
  obtain ⟨text, quotes, opened⟩ := bind_ok opened
  cases pure_ok opened
  obtain ⟨_, rfl⟩ := quote_ok quotes
  obtain ⟨asked, labelled, ok⟩ := bind_ok ok
  obtain ⟨expr, rendered, labelled⟩ := bind_ok labelled
  obtain ⟨label, named, labelled⟩ := bind_ok labelled
  cases pure_ok labelled
  obtain ⟨_, rfl⟩ := quoteAlias_ok named
  obtain ⟨s, narrowed, ok⟩ := bind_ok ok
  obtain ⟨fs, rfl, all⟩ := narrowed_ok narrowed rfl rfl
  have column : expr = quoted table ++ "." ++ quoted key := by
    obtain ⟨name, qualified, ⟨_, rfl⟩ | ⟨path, _⟩⟩ := Column.render_ok rendered
    · obtain ⟨_, ⟨none, _⟩ | ⟨owner, same, _, rfl⟩⟩ := qualify_ok qualified
      · cases none
      · cases same
        rfl
    · exact absurd rfl path
  refine ⟨_, ⟨fs, all, rfl⟩, ?_⟩
  rw [toSql_first ok, column]
  rfl

theorem keyText_alike {f g : Fragment} (same : keyText table key f = keyText table key g) : f = g := by
  obtain ⟨texts, params⟩ := Fragment.mk.inj same
  simp only [String.append_assoc] at texts
  have columns : ∀ c : String, "SELECT " ++ (quoted table ++ ("." ++ (quoted key ++ (" AS " ++
      (quoted key ++ (" FROM " ++ (quoted table ++ c))))))) = ("SELECT " ++ quoted table ++ "." ++
        quoted key ++ " AS " ++ quoted key ++ " FROM " ++ quoted table) ++ c := by
    intro c
    simp only [String.append_assoc]
  rw [columns, columns] at texts
  have clauses := congrArg String.toList (begins_alike texts rfl).2
  rw [String.toList_append, String.toList_append] at clauses
  cases f
  cases g
  cases params
  cases conditioned_alike (String.toList_inj.mp (List.append_cancel_right clauses))
  rfl

/-- The tests for the values of a record in some columns. -/
def valueTests (values : Record) (columns : List String) : List ColumnTest :=
  columns.map fun name => (name, .eq, (values.value? name).getD .null)

end Sql

/-- The key that the answer to a look-up gives. -/
def foundKey (rows : List Record) (key : String) : Except Failure (Option Value) :=
  match rows with
  | [] => .ok none
  | row :: _ => do
    let value ← columnValue row key
    pure (some value)

namespace Judge

/-- The row has the values of a record in some columns, null being equal to null. -/
def Matches (j : Judge) (columns : List String) (values : Record) (row : Row) : Prop :=
  ∀ column ∈ columns, let value := Row.ofRecord values column
    value.isNull = true ∧ (row column).isNull = true ∨ j.equal (row column) value = .yes

/-- A database looks for a key truly: it gives the key of one of the rows that its condition holds of,
and no key only where there is no such row. -/
def Finds (j : Judge) (d : Dialect) (table key : String) (rows : List Row) (x : Exchange) : Prop :=
  ∀ condition answer, x.statement = keyText table key condition → x.answer d = .ok answer →
    (answer.rows = [] ∧ ∀ row ∈ rows, j.holds d table condition row = false) ∨
      ∃ record rest, answer.rows = record :: rest ∧ ∃ row ∈ rows,
        j.holds d table condition row = true ∧ record.value? key = some (row key)

/-- What an insert over the row it conflicts with makes of the rows, and the row it wrote.  Either the
row is new to the table, stands there as it was given, and its key is told; or there is a row with
its values in the conflict columns, and this one takes over the other values.  Null is never equal to
null, so a row with a null in a conflict column is always new. -/
inductive Settles (j : Judge) (key : String) (conflict : List String) (rows : List Row)
    (values : Record) (told : Except Failure Value) : List Row → Row → Prop where
  | added {written : Row} (fresh : ∀ old ∈ rows, ¬ j.Agree conflict old (Row.ofRecord values))
      (given : ∀ column, column ≠ key → written column = Row.ofRecord values column)
      (tells : told = .ok (written key)) :
      Settles j key conflict rows values told (rows ++ [written]) written
  | yielded {front back : List Row} {old written : Row} (present : rows = front ++ old :: back)
      (meets : j.Agree conflict old (Row.ofRecord values))
      (changed : ∀ column, column ≠ key → written column =
        old.with_ (values.filter fun (name, _) => !conflict.contains name) column)
      (kept : values.value? key = none → written key = old key) :
      Settles j key conflict rows values told (front ++ written :: back) written

variable {j : Judge} {d : Dialect} {table key : String} {conflict columns : List String}
  {rows after : List Row} {values : Record} {told : Except Failure Value} {row old written : Row}

/-! ## Rows that are found -/

/-- The look-up's condition holds of the rows that match. -/
theorem holds_values {condition : Fragment}
    (asks : Tests d table (valueTests values columns) condition) :
    j.holds d table condition row = true ↔ j.Matches columns values row := by
  have meets : ∀ test ∈ valueTests values columns, ∀ f, testPredicate d table test = .ok f →
      (j.test table row (f.tokens d) = .yes ↔
        test.2.2.isNull = true ∧ (row test.1).isNull = true ∨ j.equal (row test.1) test.2.2 = .yes) := by
    intro test member f own
    obtain ⟨name, _, rfl⟩ := List.mem_map.mp member
    cases null : ((values.value? name).getD .null).isNull with
    | true =>
      rw [eq_null_tokens null own, test_null j row (Or.inr rfl)]
      simp [Judge.equal, null]
    | false =>
      rw [eq_tokens null own, test_eq j row (Or.inr rfl)]
      simp
  rw [asks.holds_each j row meets]
  exact List.forall_mem_map

theorem Matches.agree (matched : j.Matches columns values row)
    (given : ∀ column ∈ columns, (Row.ofRecord values column).isNull = false) :
    j.Agree columns row (Row.ofRecord values) := by
  intro column member
  rcases matched column member with ⟨null, _⟩ | same
  · rw [given column member] at null
    cases null
  · exact same

theorem Agree.trans {a b c : Row} (first : j.Agree columns a b) (second : j.Agree columns b c) :
    j.Agree columns a c :=
  fun column member => equal_trans (first column member) (second column member)

/-- Only rows without nulls in the columns agree with others. -/
theorem Agree.given {a b : Row} (agree : j.Agree columns a b) :
    ∀ column ∈ columns, (b column).isNull = false :=
  fun column member => (equal_yes.mp (agree column member)).2.1

theorem finds_of_key {x : Exchange} {f : Fragment} {answer : Answered} {record : Record}
    {rest : List Record} (text : x.statement = keyText table key f) (came : x.answer d = .ok answer)
    (first : answer.rows = record :: rest) (member : row ∈ rows)
    (holds : j.holds d table f row = true) (own : record.value? key = some (row key)) :
    j.Finds d table key rows x := by
  intro condition other same again
  cases keyText_alike (text.symm.trans same)
  cases came.symm.trans again
  exact Or.inr ⟨record, rest, first, row, member, holds, own⟩

theorem finds_of_other {x : Exchange} (other : ∀ f, x.statement ≠ keyText table key f) :
    j.Finds d table key rows x :=
  fun condition _ same _ => absurd same (other condition)

/-! ## The row that was written -/

/-- A row that matches is the one that was written, unless nulls are looked for and a row had them
before. -/
theorem Settles.only (settles : j.Settles key conflict rows values told after written)
    (apart : j.Apart conflict rows)
    (clear : (∀ column ∈ conflict, (Row.ofRecord values column).isNull = false) ∨
      ∀ old ∈ rows, ¬ j.Matches conflict values old)
    (member : row ∈ after) (matched : j.Matches conflict values row) : row = written := by
  cases settles with
  | added fresh given tells =>
    rcases List.mem_append.mp member with before | last
    · rcases clear with known | none
      · exact absurd (matched.agree known) (fresh row before)
      · exact absurd matched (none row before)
    · exact List.mem_singleton.mp last
  | @yielded front back old _ present meets changed kept =>
    have agree : j.Agree conflict row old := (matched.agree meets.given).trans meets.symm
    rw [present] at apart
    obtain ⟨_, behind, before⟩ := List.pairwise_append.mp apart
    rcases List.mem_append.mp member with early | late
    · exact absurd agree (before row early old List.mem_cons_self)
    · rcases List.mem_cons.mp late with same | late
      · exact same
      · exact absurd agree.symm ((List.pairwise_cons.mp behind).1 row late)

/-- The values of the record that are not written over the other row leave it as it was. -/
theorem with_unchanged {column : String} (inside : column ∈ conflict) :
    old.with_ (values.filter fun (name, _) => !conflict.contains name) column = old column := by
  have absent : Mapping.value?
      (values.filter fun (name, _) => !conflict.contains name) column = none := by
    refine Mapping.value?_eq_none fun member => ?_
    obtain ⟨entry, among, same⟩ := List.mem_map.mp member
    have other := (List.mem_filter.mp among).2
    simp [same, inside] at other
  unfold Row.with_
  rw [absent]
  rfl

/-- Where no row matches after the write, the row was new and its key was told. -/
theorem Settles.told_of_none (settles : j.Settles key conflict rows values told after written)
    (keyless : (Row.ofRecord values key).isNull = true)
    (none : ∀ row ∈ after, ¬ j.Matches conflict values row) : told = .ok (written key) := by
  cases settles with
  | added fresh given tells => exact tells
  | @yielded front back old _ present meets changed kept =>
    refine absurd ?_ (none written (by simp))
    intro column member
    by_cases own : column = key
    · -- the key is not given, so it is no conflict column on which rows agree
      have known := meets.given column member
      rw [own, keyless] at known
      cases known
    · rw [changed column own, with_unchanged member]
      exact Or.inr (meets column member)

/-- A row without a value in some conflict column was new and its key was told. -/
theorem Settles.told_of_missing (settles : j.Settles key conflict rows values told after written)
    {column : String} (member : column ∈ conflict) (missing : values.has column = false) :
    told = .ok (written key) := by
  cases settles with
  | added fresh given tells => exact tells
  | @yielded front back old _ present meets changed kept =>
    have known := meets.given column member
    have absent : values.value? column = none := Option.isNone_iff_eq_none.mp (by
      simpa [Mapping.has, Mapping.value?] using missing)
    simp [Row.ofRecord, absent, Value.isNull] at known

end Judge

end Curator
