import Curator.Proofs.Database.Sent
import Curator.Proofs.Sql.Reading
import Mathlib.Data.List.Pairwise
/-!
# A table behind a connection

A database that serves a table truly: it counts the rows that match, returns a row that is stored,
and writes the columns it is told to write and no others.  Which rows match is told by reading the
conditions of a statement row by row.
-/

set_option autoImplicit false

namespace Curator

open Sql

/-! ## Rows -/

/-- A stored row; a column without a value is null. -/
abbrev Row := String → Value

namespace Row

def ofRecord (fields : Record) : Row := fun column => (fields.value? column).getD .null

/-- The row with new values in some columns. -/
def with_ (row : Row) (fields : Record) : Row := fun column =>
  (fields.value? column).getD (row column)

end Row

/-! ## Judging rows -/

/-- How a database judges rows: which values it takes for the same, and the tests that are no
comparisons of a column with a value. -/
structure Judge where
  same : Value → Value → Bool
  symm : ∀ {a b : Value}, same a b = true → same b a = true
  trans : ∀ {a b c : Value}, same a b = true → same b c = true → same a c = true
  other : Row → List Token → Truth

/-- The column that a test of a table begins with, and the rest of the test. -/
def Sql.testedColumn? (table : String) : List Token → Option (String × List Token)
  | .quoted '"' owner :: .sign '.' :: .quoted '"' column :: rest =>
    if String.ofList owner = table then some (String.ofList column, rest) else none
  | .quoted '"' column :: rest => some (String.ofList column, rest)
  | _ => none

namespace Judge

variable (j : Judge)

/-- Whether two values are equal; of null it is unknown. -/
def equal (a b : Value) : Truth :=
  if a.isNull || b.isNull then .unknown else if j.same a b then .yes else .no

def unequal (a b : Value) : Truth :=
  if a.isNull || b.isNull then .unknown else if j.same a b then .no else .yes

/-- The truth of a test of a row. -/
def test (table : String) (row : Row) (ts : List Token) : Truth :=
  match testedColumn? table ts with
  | some (column, [.sign '=', .value v]) => j.equal (row column) v
  | some (column, [.sign '<', .sign '>', .value v]) => j.unequal (row column) v
  | some (column, [.word is, .word null]) =>
    if is = "IS".toList ∧ null = "NULL".toList then if (row column).isNull then .yes else .no
    else j.other row ts
  | _ => j.other row ts

/-- Whether a condition holds of a row. -/
def holds (d : Dialect) (table : String) (condition : Fragment) (row : Row) : Bool :=
  condition.truth d (j.test table row) == .yes

/-- Rows with equal values in all of some columns. -/
def Agree (columns : List String) (a b : Row) : Prop :=
  ∀ column ∈ columns, j.equal (a column) (b column) = .yes

/-- No two of the rows agree on all of some columns. -/
def Apart (columns : List String) (rows : List Row) : Prop :=
  rows.Pairwise fun a b => ¬ j.Agree columns a b

/-- Every row has a key, and no two have the same. -/
structure Keyed (key : String) (rows : List Row) : Prop where
  given : ∀ row ∈ rows, (row key).isNull = false
  apart : j.Apart [key] rows

end Judge

/-! ## Statements on a table -/

namespace Sql

/-- The clause of a condition; no condition at all has none. -/
def conditioned (condition : Fragment) : String :=
  if condition.sql.isEmpty then "" else " WHERE " ++ condition.sql

def countText (table : String) (condition : Fragment) : Fragment :=
  ⟨"SELECT COUNT(*) AS \"aggregate\"" ++ (" FROM " ++ quoted table ++ conditioned condition),
    condition.params⟩

def firstText (table : String) (condition : Fragment) : Fragment :=
  ⟨"SELECT *" ++ (" FROM " ++ quoted table ++ conditioned condition) ++ " LIMIT 1",
    condition.params⟩

def insertHead (d : Dialect) (table : String) (fields : Record) : String :=
  "INSERT INTO " ++ quoted table ++ " (" ++ Text.join ", " (fields.keys.map quoted) ++
    ") VALUES (" ++ Text.join ", " (fields.map fun _ => d.placeholder) ++ ")"

/-- An insert; `tail` is what it asks to be returned. -/
def insertText (d : Dialect) (table : String) (fields : Record) (tail : String) : Fragment :=
  ⟨insertHead d table fields ++ tail, fields.map (·.2)⟩

def updateText (d : Dialect) (table : String) (fields : Record) (condition : Fragment) : Fragment :=
  ⟨"UPDATE " ++ quoted table ++ " SET " ++
    Text.join ", " (fields.keys.map fun name => quoted name ++ " = " ++ d.placeholder) ++
    conditioned condition, fields.map (·.2) ++ condition.params⟩

end Sql

/-! ## Serving a table -/

namespace Judge

/-- A row as an insert leaves it: its columns are as written and null where they are not, but for a
key that is not given, which the database may make up. -/
def Stores (j : Judge) (key : String) (rows : List Row) (fields : Record) (row : Row) : Prop :=
  ∀ column, row column = Row.ofRecord fields column ∨
    column = key ∧ (Row.ofRecord fields key).isNull = true ∧
      ∀ other ∈ rows, j.equal (other key) (row key) ≠ .yes

/-- What an exchange makes of the rows of a table, where the database answers truly. -/
structure Honest (j : Judge) (d : Dialect) (table key : String) (rows : List Row) (x : Exchange)
    (after : List Row) : Prop where
  refused : ∀ failure, x.answer d = .error failure → after = rows
  selected : x.statement.Selects → after = rows
  natural : x.statement.Counts → ∀ n, x.count d = .ok n → 0 ≤ n
  counted : ∀ condition n, x.statement = countText table condition → x.count d = .ok n →
    n = rows.countP (j.holds d table condition)
  first : ∀ condition answer, x.statement = firstText table condition → x.answer d = .ok answer →
    (answer.rows = [] ∧ ∀ row ∈ rows, j.holds d table condition row = false) ∨
      ∃ record rest, answer.rows = record :: rest ∧ Row.ofRecord record ∈ rows ∧
        j.holds d table condition (Row.ofRecord record) = true
  inserted : ∀ fields tail answer, (∀ name ∈ fields.keys, Text.isIdentifier name = true) →
    x.statement = insertText d table fields tail → x.answer d = .ok answer →
      ∃ row, after = rows ++ [row] ∧ j.Stores key rows fields row
  updated : ∀ fields condition answer, (∀ name ∈ fields.keys, Text.isIdentifier name = true) →
    x.statement = updateText d table fields condition → x.answer d = .ok answer →
      after = rows.map fun row =>
        if j.holds d table condition row then row.with_ fields else row

/-- What exchanges one after the other make of the rows. -/
inductive Serves (j : Judge) (d : Dialect) (table key : String) :
    List Row → List Exchange → List Row → Prop where
  | nil (rows : List Row) : Serves j d table key rows [] rows
  | cons {rows between after : List Row} {x : Exchange} {xs : List Exchange}
      (honest : j.Honest d table key rows x between)
      (rest : Serves j d table key between xs after) : Serves j d table key rows (x :: xs) after

section

variable {j : Judge} {d : Dialect} {table key : String} {columns : List String}
  {rows after : List Row} {xs ys : List Exchange} {a b : Row}

theorem equal_yes {v w : Value} : j.equal v w = .yes ↔
    v.isNull = false ∧ w.isNull = false ∧ j.same v w = true := by
  unfold equal
  cases v.isNull <;> cases w.isNull <;> cases j.same v w <;> simp

theorem equal_symm {v w : Value} (yes : j.equal v w = .yes) : j.equal w v = .yes := by
  obtain ⟨given, other, same⟩ := equal_yes.mp yes
  exact equal_yes.mpr ⟨other, given, j.symm same⟩

theorem equal_trans {u v w : Value} (first : j.equal u v = .yes) (second : j.equal v w = .yes) :
    j.equal u w = .yes := by
  obtain ⟨given, _, same⟩ := equal_yes.mp first
  obtain ⟨_, other, alike⟩ := equal_yes.mp second
  exact equal_yes.mpr ⟨given, other, j.trans same alike⟩

theorem unequal_yes {v w : Value} (given : v.isNull = false) (other : w.isNull = false)
    (apart : j.equal v w ≠ .yes) : j.unequal v w = .yes := by
  have different : j.same v w = false := by
    cases same : j.same v w with
    | false => rfl
    | true => exact absurd (equal_yes.mpr ⟨given, other, same⟩) apart
  simp [unequal, given, other, different]

theorem Agree.symm (agree : j.Agree columns a b) : j.Agree columns b a :=
  fun column member => equal_symm (agree column member)

/-- Rows with one key are one row. -/
theorem Keyed.eq_of_same (keyed : j.Keyed key rows) (first : a ∈ rows) (second : b ∈ rows)
    (same : j.equal (a key) (b key) = .yes) : a = b := by
  by_contra different
  have symmetric : Std.Symm fun a b : Row => ¬ j.Agree [key] a b :=
    ⟨fun _ _ apart agree => apart agree.symm⟩
  refine keyed.apart.forall first second different ?_
  intro column member
  rw [List.mem_singleton.mp member]
  exact same

/-- A row that agrees with none of the others. -/
theorem Apart.append (apart : j.Apart columns rows) (new : ∀ a ∈ rows, ¬ j.Agree columns a b) :
    j.Apart columns (rows ++ [b]) := by
  refine List.pairwise_append.mpr ⟨apart, List.pairwise_singleton _ _, ?_⟩
  intro a member last same
  rw [List.mem_singleton.mp same]
  exact new a member

/-! ## Runs of exchanges -/

theorem Serves.append (serves : j.Serves d table key rows (xs ++ ys) after) :
    ∃ between, j.Serves d table key rows xs between ∧ j.Serves d table key between ys after := by
  induction xs generalizing rows with
  | nil => exact ⟨rows, .nil rows, serves⟩
  | cons x rest ih =>
    cases serves with
    | cons honest others =>
      obtain ⟨between, front, back⟩ := ih others
      exact ⟨between, .cons honest front, back⟩

/-- Selections leave the rows as they are, so each of them sees the same rows. -/
theorem Serves.selections (serves : j.Serves d table key rows xs after)
    (selects : ∀ x ∈ xs, x.statement.Selects) :
    after = rows ∧ ∀ x ∈ xs, j.Honest d table key rows x rows := by
  induction serves with
  | nil => exact ⟨rfl, nofun⟩
  | cons honest rest ih =>
    cases honest.selected (selects _ List.mem_cons_self)
    obtain ⟨rfl, others⟩ := ih fun x member => selects x (List.mem_cons_of_mem _ member)
    refine ⟨rfl, fun x member => ?_⟩
    rcases List.mem_cons.mp member with rfl | member
    · exact honest
    · exact others x member

/-- One write among selections is all that changes the rows. -/
theorem Serves.one_write {before back : List Exchange} {write : Option Exchange}
    (serves : j.Serves d table key rows (before ++ write.toList ++ back) after)
    (selects : ∀ x ∈ before ++ back, x.statement.Selects) :
    (∀ x ∈ before, j.Honest d table key rows x rows) ∧
      (after = rows ∨ ∃ x ∈ write, j.Honest d table key rows x after) := by
  obtain ⟨_, first, last⟩ := serves.append
  obtain ⟨_, front, middle⟩ := first.append
  obtain ⟨rfl, honest⟩ := front.selections fun x member => selects x (List.mem_append_left _ member)
  obtain ⟨rfl, _⟩ := last.selections fun x member => selects x (List.mem_append_right _ member)
  refine ⟨honest, ?_⟩
  cases write with
  | none =>
    cases middle
    exact Or.inl rfl
  | some x =>
    rcases middle with _ | ⟨own, nothing⟩
    cases nothing
    exact Or.inr ⟨x, rfl, own⟩

end

end Judge

/-!
## The texts of writes

What an insert, a change and a deletion say once their names have been quoted, and the test by which
the last two find the rows with a key.
-/

open Outcome

theorem mapM_one {α β : Type} {f : α → Except Failure β} {x : α} {ys : List β}
    (ok : [x].mapM f = .ok ys) : ∃ y, f x = .ok y ∧ ys = [y] := by
  rcases mapM_ok ok with _ | ⟨own, rest⟩
  cases rest
  exact ⟨_, own, rfl⟩

theorem Text.join_one (mark text : String) : Text.join mark [text] = text := rfl

namespace Sql

variable {d : Dialect} {table column : String} {key : Value} {f : Fragment}

/-! ### Keys -/

/-- The test that finds the rows with a key; null is tested for and not bound. -/
def keyTest (d : Dialect) (column : String) (key : Value) : Fragment :=
  if key.isNull then ⟨quoted column ++ " IS NULL", []⟩
  else ⟨quoted column ++ " = " ++ d.placeholder, [key]⟩

theorem equality_ok (ok : equality d column key = .ok f) : f = keyTest d column key := by
  unfold equality at ok
  obtain ⟨name, quotes, ok⟩ := bind_ok ok
  cases pure_ok ok
  rw [(quote_ok quotes).2]
  rfl

theorem whereEquals_one (ok : whereEquals d [(column, key)] = .ok f) :
    f = ⟨" WHERE " ++ (keyTest d column key).sql, (keyTest d column key).params⟩ := by
  obtain ⟨parts, mapped, ok⟩ := bind_ok ok
  cases pure_ok ok
  obtain ⟨part, own, rfl⟩ := mapM_one mapped
  rw [equality_ok own]
  simp only [List.map_cons, List.map_nil, List.flatMap_cons, List.flatMap_nil, List.append_nil,
    Text.join_one]

theorem isEmpty_of_mem {c : Char} {text : String} (inside : c ∈ text.toList) :
    text.isEmpty = false := by
  rw [Condition.isEmpty_toList]
  cases chars : text.toList with
  | nil =>
    rw [chars] at inside
    cases inside
  | cons c rest => rfl

theorem keyTest_written (key : Value) : (keyTest d column key).sql.isEmpty = false := by
  have opening : '"' ∈ (keyTest d column key).sql.toList := by
    unfold keyTest quoted
    split <;> simp
  exact isEmpty_of_mem opening

/-! ### Inserts -/

theorem quoteAll_ok {names texts : List String} (ok : quoteAll names = .ok texts) :
    texts = names.map quoted ∧ ∀ name ∈ names, Text.isIdentifier name = true := by
  have all := mapM_ok ok
  clear ok
  induction all with
  | nil => exact ⟨rfl, nofun⟩
  | cons own _ ih =>
    obtain ⟨valid, rfl⟩ := quote_ok own
    obtain ⟨rfl, others⟩ := ih
    exact ⟨rfl, List.forall_mem_cons.mpr ⟨valid, others⟩⟩

theorem insertSql_ok {fields : Record} (ok : insertSql d table fields .fail = .ok f) :
    f = ⟨insertHead d table fields, fields.map (·.2)⟩ ∧
      ∀ name ∈ fields.keys, Text.isIdentifier name = true := by
  obtain ⟨columns, names, ok⟩ := bind_ok ok
  obtain ⟨text, quotes, ok⟩ := bind_ok ok
  have same := pure_ok ok
  obtain ⟨rfl, valid⟩ := quoteAll_ok names
  obtain ⟨_, rfl⟩ := quote_ok quotes
  exact ⟨same.symm, valid⟩

theorem insertion_ok {fields : Record} {returning : Option String}
    (ok : Session.insertion d table fields .fail returning = .ok f) :
    ∃ tail, (tail = "" ∨ ∃ column ∈ returning, tail = " RETURNING " ++ quoted column) ∧
      f = insertText d table fields tail ∧
      ∀ name ∈ fields.keys, Text.isIdentifier name = true := by
  obtain ⟨plain, made, ok⟩ := bind_ok ok
  obtain ⟨rfl, valid⟩ := insertSql_ok made
  have bare : insertText d table fields "" = ⟨insertHead d table fields, fields.map (·.2)⟩ := by
    rw [insertText, String.append_empty]
  split at ok
  · refine ⟨"", Or.inl rfl, ?_, valid⟩
    rw [bare, pure_ok ok]
  · refine ⟨"", Or.inl rfl, ?_, valid⟩
    rw [bare, pure_ok ok]
  · rename_i column asked _
    obtain ⟨text, quotes, ok⟩ := bind_ok ok
    have given : returning = some column := (Option.filter_eq_some_iff.mp asked).1
    refine ⟨" RETURNING " ++ text, Or.inr ⟨column, given, ?_⟩, ?_, valid⟩
    · rw [(quote_ok quotes).2]
    · rw [← pure_ok ok, insertText, String.append_assoc]

theorem insertSql_params {fields : Record} {onConflict : OnConflict}
    (ok : insertSql d table fields onConflict = .ok f) : f.params = fields.map (·.2) := by
  obtain ⟨columns, _, ok⟩ := bind_ok ok
  obtain ⟨text, _, ok⟩ := bind_ok ok
  split at ok
  · rw [← pure_ok ok]
  · cases ok
  · obtain ⟨clause, _, ok⟩ := bind_ok ok
    rw [← pure_ok ok]

/-- An insert binds the values of its row, whatever it does on a conflict. -/
theorem insertion_params {fields : Record} {onConflict : OnConflict} {returning : Option String}
    (ok : Session.insertion d table fields onConflict returning = .ok f) :
    f.params = fields.map (·.2) := by
  obtain ⟨plain, made, ok⟩ := bind_ok ok
  have binds := insertSql_params made
  split at ok
  · rw [← pure_ok ok, binds]
  · rw [← pure_ok ok, binds]
  · obtain ⟨name, _, ok⟩ := bind_ok ok
    rw [← pure_ok ok, binds]

/-! ### Changes and deletions by key -/

theorem updateSql_ok {fields : Record} (ok : updateSql d table fields [(column, key)] = .ok f) :
    f = updateText d table fields (keyTest d column key) ∧
      ∀ name ∈ fields.keys, Text.isIdentifier name = true := by
  obtain ⟨columns, names, ok⟩ := bind_ok ok
  obtain ⟨condition, filter, ok⟩ := bind_ok ok
  obtain ⟨text, quotes, ok⟩ := bind_ok ok
  cases pure_ok ok
  obtain ⟨rfl, valid⟩ := quoteAll_ok names
  rw [(quote_ok quotes).2, whereEquals_one filter]
  refine ⟨?_, valid⟩
  simp only [updateText, conditioned, keyTest_written, Bool.false_eq_true, if_false, List.map_map]
  rfl

theorem updateSql_one {field : String} {set : Value}
    (ok : updateSql d table [(field, set)] [(column, key)] = .ok f) :
    f = ⟨"UPDATE " ++ quoted table ++ " SET " ++ quoted field ++ " = " ++ d.placeholder ++
      " WHERE " ++ (keyTest d column key).sql, set :: (keyTest d column key).params⟩ := by
  rw [(updateSql_ok ok).1]
  simp only [updateText, conditioned, keyTest_written, Bool.false_eq_true, if_false, Mapping.keys,
    List.map_cons, List.map_nil, Text.join_one, String.append_assoc]
  rfl

theorem deleteSql_one (ok : deleteSql d table [(column, key)] = .ok f) :
    f = ⟨"DELETE FROM " ++ quoted table ++ " WHERE " ++ (keyTest d column key).sql,
      (keyTest d column key).params⟩ := by
  unfold deleteSql at ok
  simp only [List.isEmpty_cons, Bool.false_eq_true, if_false] at ok
  obtain ⟨condition, filter, ok⟩ := bind_ok ok
  obtain ⟨name, quotes, ok⟩ := bind_ok ok
  cases pure_ok ok
  rw [(quote_ok quotes).2, whereEquals_one filter]
  simp only [String.append_assoc]

end Sql

end Curator
