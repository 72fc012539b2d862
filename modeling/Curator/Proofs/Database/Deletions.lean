import Curator.Proofs.Database.Table
import Curator.Proofs.Sql.Dialects
import Curator.Proofs.Sql.Questions
/-!
# Deletions

No rows are deleted without a condition.  Whatever clauses a selection was made of, a deletion of its
rows is sent only where at least one test is left among its conditions once empty groups are dropped,
no group is open and nothing is joined; its conditions are those by which the rows would be fetched.
The same holds of a deletion by the values of columns.  All other deletions fail, and nothing is sent.
-/

set_option autoImplicit false

namespace Curator

open Outcome

theorem Text.occurs_append (mark before after : List Char) :
    occurs mark (before ++ (mark ++ after)) = true := by
  have here : ∀ text : List Char, mark.isPrefixOf text = true → (cut? mark text).isSome = true := by
    intro text starts
    cases text with
    | nil =>
      obtain ⟨rest, same⟩ := List.isPrefixOf_iff_prefix.mp starts
      have empty : mark = [] := (List.append_eq_nil_iff.mp same).1
      rw [empty]
      rfl
    | cons c rest =>
      rw [cut?, if_pos starts]
      rfl
  induction before with
  | nil => exact here _ (List.isPrefixOf_iff_prefix.mpr (List.prefix_append mark after))
  | cons c rest ih =>
    rw [List.cons_append, occurs, cut?]
    split
    · rfl
    · rw [Option.isSome_map]
      exact ih

namespace Sql

/-! ## Conjunctions -/

namespace Condition

/-- Predicates joined by AND. -/
theorem layRow_conjunction (fs : List Fragment) :
    layRow textLayout false (fs.map (.predicate .and)) =
      (Text.join " AND " (fs.map (·.sql))).toList := by
  induction fs with
  | nil => rfl
  | cons f rest ih =>
    rw [List.map_cons, layRow_solid _ _ rfl]
    cases rest with
    | nil => simp [layRow, lay, textLayout, Text.join]
    | cons next more =>
      -- behind the first predicate the row begins with a connector
      have later : layRow textLayout true ((next :: more).map (.predicate .and)) =
          " AND ".toList ++ layRow textLayout false ((next :: more).map (.predicate .and)) := by
        rw [List.map_cons, layRow_solid _ _ rfl, layRow_solid _ _ rfl]
        simp [textLayout, connector, Connector.text]
      have joined : Text.join " AND " ((f :: next :: more).map (·.sql)) =
          f.sql ++ " AND " ++ Text.join " AND " ((next :: more).map (·.sql)) :=
        Text.join_cons_cons _ _ _ _
      rw [later, ih, joined]
      simp [lay, textLayout]

/-- The text of conditions. -/
def text (cs : List Condition) : String := String.ofList (layRow textLayout false cs)

end Condition

/-! ## The texts of deletions -/

/-- A statement that deletes the rows of a table on conditions: nothing but the conditions follows the
table, there is a test in them, and the parameters are those of the tests in order. -/
structure Fragment.DeletesOn (f : Fragment) (table : String) (conditions : List Condition) : Prop where
  valid : Text.isIdentifier table = true
  some_test : Condition.tests conditions ≠ []
  text : f.sql = "DELETE FROM " ++ quoted table ++ " WHERE " ++ Condition.text conditions
  params : f.params = (Condition.tests conditions).flatMap (·.params)

namespace Select

variable {s : Select} {f g source : Fragment} {table : String} {conditional : Bool}

/-- What a selection must be for its rows to be deleted. -/
structure Deletable (s : Select) : Prop where
  named : s.table ≠ none
  unjoined : s.joins = []
  closed : s.openGroups = []
  some_test : Condition.rowIsBlank s.root = false

/-- What the conditions of a selection render to. -/
theorem Made.rendered (made : s.Made) :
    (Condition.renderRoot s.root).sql.isEmpty = Condition.rowIsBlank s.root ∧
      (Condition.renderRoot s.root).sql = Condition.text s.root ∧
      (Condition.renderRoot s.root).params = (Condition.tests s.root).flatMap (·.params) := by
  have written := (Condition.every_imp Fragment.IsTest.written).2 s.root made.sound.root
  obtain ⟨blank, text, params⟩ := Condition.renderRoot_eq written
  refine ⟨blank, ?_, params.trans (Condition.parameters_of_tests.2 s.root)⟩
  rw [Condition.text, ← text, String.ofList_toList]

theorem filterText_of_test (made : s.Made) (some_test : Condition.rowIsBlank s.root = false) :
    s.filterText = " WHERE " ++ Condition.text s.root := by
  obtain ⟨blank, text, _⟩ := made.rendered
  have given : (Condition.renderRoot s.root).sql.isEmpty = false := blank.trans some_test
  simp only [filterText, given, Bool.false_eq_true, if_false]
  rw [text]

theorem headText_unjoined (unjoined : s.joins = []) (selected : String) :
    s.headText selected table = selected ++ " FROM " ++ table := by
  rw [headText, unjoined]
  exact String.append_empty

theorem deletable_of_ok (made : s.Made) (ok : s.deleteSql = .ok f) : s.Deletable := by
  unfold Select.deleteSql at ok
  split at ok
  · cases ok
  · rename_i unjoined
    obtain ⟨⟨source, conditional⟩, source_ok, ok⟩ := bind_ok ok
    obtain ⟨table, named, closed, _⟩ := fromClause_ok source_ok
    rw [fromClause_eq named closed, made.rendered.1] at source_ok
    cases source_ok
    refine ⟨by simp [named], by simpa using unjoined, closed, ?_⟩
    simp only at ok
    split at ok
    · rename_i conditional
      simpa using conditional
    · cases ok

/-- The rows of a selection are deleted on the conditions on which they would be fetched. -/
theorem deleteSql_of_deletable (made : s.Made) (deletable : s.Deletable) :
    ∃ f table, s.deleteSql = .ok f ∧ f.DeletesOn table s.root ∧
      ∀ g, s.toSql = .ok g → g.params = f.params ∧ ∃ tail, g.sql =
        s.selectedText ++ " FROM " ++ quoted table ++ " WHERE " ++ Condition.text s.root ++ tail := by
  obtain ⟨named, unjoined, closed, some_test⟩ := deletable
  obtain ⟨text, named⟩ := Option.ne_none_iff_exists'.mp named
  obtain ⟨table, valid, rfl⟩ := made.legible.table text named
  obtain ⟨blank, _, params⟩ := made.rendered
  have filter := filterText_of_test made some_test
  refine ⟨⟨"DELETE" ++ (s.headText "" (quoted table) ++ s.filterText),
    (Condition.renderRoot s.root).params⟩, table, ?_, ?_, fun g ok => ?_⟩
  · unfold Select.deleteSql
    rw [fromClause_eq named closed, blank, some_test, unjoined]
    rfl
  · refine ⟨valid, ?_, ?_, params⟩
    · rw [ne_eq, Condition.tests_eq_nil_iff.2, some_test]
      exact Bool.false_ne_true
    · rw [filter, headText_unjoined unjoined]
      have front : "DELETE FROM " = "DELETE" ++ " FROM " := rfl
      simp only [front, String.append_assoc, String.empty_append]
  · obtain ⟨_, limit, offset, same, _, _, _, bound, text⟩ := toSql_ok ok
    cases named.symm.trans same
    refine ⟨bound, s.tailText limit offset, ?_⟩
    rw [text, filter, headText_unjoined unjoined]
    simp [String.append_assoc]

/-- The word before conditions stands in the text from FROM on only where there are conditions,
whatever the table is called. -/
theorem holds_where (made : s.Made) (unjoined : s.joins = [])
    (ok : s.fromClause = .ok (source, conditional)) :
    Text.holds source.sql " WHERE " = conditional := by
  obtain ⟨text, named, closed, _⟩ := fromClause_ok ok
  obtain ⟨table, valid, rfl⟩ := made.legible.table text named
  rw [fromClause_eq named closed, made.rendered.1, headText_unjoined unjoined] at ok
  cases ok
  cases blank : Condition.rowIsBlank s.root with
  | true =>
    have apart : ' ' ∉ table.toList ++ ['"'] := by
      have inside : ' ' ∉ table.toList := Text.not_mem_of_isIdentifier valid (by decide)
      simp [inside]
    have bare : s.filterText = "" := by simp [filterText, made.rendered.1, blank]
    have chars : ("" ++ " FROM " ++ quoted table ++ s.filterText).toList =
        " FROM ".toList ++ '"' :: (table.toList ++ ['"']) := by
      simp [bare, quoted]
    -- the two blanks stand before other letters, and in the name there is none
    have beyond : Text.cut? [' ', 'W', 'H', 'E', 'R', 'E', ' '] (table.toList ++ ['"']) = none :=
      Text.cut?_of_not_mem apart
    rw [Text.holds, chars]
    simp [Text.occurs, Text.cut?, List.isPrefixOf, beyond]
  | false =>
    rw [filterText_of_test made blank]
    have chars : ("" ++ " FROM " ++ quoted table ++ (" WHERE " ++ Condition.text s.root)).toList =
        ("" ++ " FROM " ++ quoted table).toList ++
          (" WHERE ".toList ++ (Condition.text s.root).toList) := by
      simp
    rw [Text.holds, chars, Text.occurs_append]
    rfl

end Select

/-! ## Values of columns -/

variable {d : Dialect} {f : Fragment} {table column : String} {value : Value} {filter : Record}

/-- The conditions under which columns have given values. -/
def valueConditions (d : Dialect) (filter : Record) : List Condition :=
  (filter.map fun (column, value) => keyTest d column value).map (.predicate .and)

/-- What a deletion by the values of columns needs. -/
structure DeletableBy (table : String) (filter : Record) : Prop where
  some_value : filter ≠ []
  table : Text.isIdentifier table = true
  columns : ∀ column ∈ filter.keys, Text.isIdentifier column = true

theorem equality_of (valid : Text.isIdentifier column = true) :
    equality d column value = .ok (keyTest d column value) := by
  rw [equality, quote, if_pos valid]
  rfl

theorem equality_valid (ok : equality d column value = .ok f) : Text.isIdentifier column = true := by
  obtain ⟨name, quotes, _⟩ := bind_ok ok
  exact (quote_ok quotes).1

theorem mapM_equality (valid : ∀ column ∈ filter.keys, Text.isIdentifier column = true) :
    (filter.mapM fun (column, value) => equality d column value) =
      .ok (filter.map fun (column, value) => keyTest d column value) := by
  induction filter with
  | nil => rfl
  | cons entry rest ih =>
    obtain ⟨column, value⟩ := entry
    obtain ⟨first, others⟩ := List.forall_mem_cons.mp valid
    simp only [List.mapM_cons, ih others]
    rw [equality_of first]
    rfl

theorem columns_of_mapM {parts : List Fragment}
    (ok : (filter.mapM fun (column, value) => equality d column value) = .ok parts) :
    ∀ column ∈ filter.keys, Text.isIdentifier column = true := by
  have all := mapM_ok ok
  clear ok
  induction all with
  | nil => exact nofun
  | cons own _ ih => exact List.forall_mem_cons.mpr ⟨equality_valid own, ih⟩

theorem whereEquals_of (some_value : filter ≠ [])
    (valid : ∀ column ∈ filter.keys, Text.isIdentifier column = true) :
    whereEquals d filter = .ok ⟨" WHERE " ++ Condition.text (valueConditions d filter),
      (Condition.tests (valueConditions d filter)).flatMap (·.params)⟩ := by
  have given : filter.isEmpty = false := by simpa using some_value
  unfold whereEquals
  simp only [given, Bool.false_eq_true, if_false, mapM_equality valid, ok_bind]
  rw [Condition.text, valueConditions, Condition.layRow_conjunction, String.ofList_toList,
    Condition.tests_predicates]
  rfl

theorem deletableBy_of_ok (ok : deleteSql d table filter = .ok f) : DeletableBy table filter := by
  unfold deleteSql at ok
  split at ok
  · cases ok
  · rename_i given
    obtain ⟨condition, filtered, ok⟩ := bind_ok ok
    obtain ⟨name, quotes, _⟩ := bind_ok ok
    unfold whereEquals at filtered
    rw [if_neg given] at filtered
    obtain ⟨parts, mapped, _⟩ := bind_ok filtered
    exact ⟨by simpa using given, (quote_ok quotes).1, columns_of_mapM mapped⟩

theorem deleteSql_of (deletable : DeletableBy table filter) :
    ∃ f, deleteSql d table filter = .ok f ∧ f.DeletesOn table (valueConditions d filter) := by
  obtain ⟨some_value, valid, columns⟩ := deletable
  have given : filter.isEmpty = false := by simpa using some_value
  refine ⟨⟨"DELETE FROM " ++ quoted table ++ (" WHERE " ++ Condition.text (valueConditions d filter)),
    (Condition.tests (valueConditions d filter)).flatMap (·.params)⟩, ?_, valid, ?_, ?_, rfl⟩
  · unfold deleteSql
    simp only [given, Bool.false_eq_true, if_false, whereEquals_of some_value columns, ok_bind, quote,
      if_pos valid]
    rfl
  · rw [valueConditions, Condition.tests_predicates]
    simpa using some_value
  · exact String.append_assoc.symm

end Sql

open Sql

/-! ## What is sent -/

/-- Work that sends one statement of a kind where it may, and else fails and does nothing. -/
structure Ran.SendsOne {α : Type} (ran : Ran α) (s : SessionState) (may : Prop)
    (kind : Fragment → Prop) : Prop where
  sent : may → ∃ f, statements ran.entries = [f] ∧ kind f
  nothing : ¬ may → ∃ failure, ran = ⟨.error failure, s, []⟩

namespace Session

variable {s : SessionState} {made : Except Failure Fragment} {may : Prop} {kind : Fragment → Prop}
  {f : Fragment}

theorem write_connected (connected : s.database.pending ≠ none) (f : Fragment) :
    statements (write f s).entries = [f] := by
  obtain ⟨script, connected⟩ := Option.ne_none_iff_exists'.mp connected
  have ran : execute f s = _ := execute_connected connected
  simp only [write, Bind.bind, andThen, ran]
  cases (Exchange.mk f script.head?).answer s.database.dialect with
  | error failure => rfl
  | ok answer => rfl

theorem write_disconnected (disconnected : s.database.pending = none) (f : Fragment) :
    write f s = ⟨.error (.misuse .notConnected), s, []⟩ := by
  simp only [write, Bind.bind, andThen, execute_disconnected disconnected]

/-- A statement is sent once it is made, if there is a connection. -/
theorem sendsOne_write
    (allowed : may → s.database.pending ≠ none ∧ ∃ f, made = .ok f ∧ kind f)
    (denied : ∀ f, made = .ok f → s.database.pending ≠ none → may) :
    ((of made >>= write) s).SendsOne s may kind := by
  constructor
  · intro may
    obtain ⟨connected, f, rfl, ofKind⟩ := allowed may
    exact ⟨f, write_connected connected f, ofKind⟩
  · intro may_not
    cases made with
    | error failure => exact ⟨failure, rfl⟩
    | ok f =>
      have disconnected : s.database.pending = none := by
        by_contra connected
        exact may_not (denied f rfl connected)
      exact ⟨_, write_disconnected disconnected f⟩

end Session

/-- No rows are deleted without a condition.  Whatever clauses a selection was given, a deletion of its
rows is sent exactly if there is a connection and the selection has a table, no joins, no open group and
a test somewhere in its conditions; it is then one statement on these conditions, all tests of which
were rendered, and they are as they would stand behind WHERE were the rows fetched.  A deletion by the
values of columns is sent exactly if there is a value, and its names are identifiers.  Else both fail
and nothing is done.  Looking for the word WHERE tells whether there is a test, whatever the table is
called. -/
theorem deletions_have_tests (s : SessionState) (d : Dialect) (clauses : List Clause)
    (table : String) (filter : Record) :
    let b := ((Select.new d).giveAll clauses).1
    (Session.remove b s).SendsOne s (s.database.pending ≠ none ∧ b.Deletable)
      (fun f => ∃ name, f.DeletesOn name b.root ∧ (∀ t ∈ Condition.tests b.root, t.IsTest d) ∧
        ∀ g, b.toSql = .ok g → g.params = f.params ∧ ∃ tail, g.sql =
          b.selectedText ++ " FROM " ++ quoted name ++ " WHERE " ++ Condition.text b.root ++ tail) ∧
    (∀ source conditional, b.joins = [] → b.fromClause = .ok (source, conditional) →
      Text.holds source.sql " WHERE " = conditional) ∧
    (Session.delete table filter s).SendsOne s
      (s.database.pending ≠ none ∧ DeletableBy table filter)
      (·.DeletesOn table (valueConditions s.database.dialect filter)) := by
  intro b
  have made : b.Made := Select.Made.giveAll (.new d) clauses
  have dialect : b.dialect = d := Select.giveAll_dialect _ clauses
  have rendered : ∀ t ∈ Condition.tests b.root, t.IsTest d := by
    rw [← dialect]
    exact Condition.mem_tests.2 b.root made.sound.root
  have by_values : Session.delete table filter s =
      (Session.of (deleteSql s.database.dialect table filter) >>= Session.write) s := rfl
  refine ⟨Session.sendsOne_write ?_ ?_, fun _ _ unjoined ok => Select.holds_where made unjoined ok,
    by_values ▸ Session.sendsOne_write ?_ ?_⟩
  · rintro ⟨connected, deletable⟩
    obtain ⟨f, name, ok, deletes, fetched⟩ := Select.deleteSql_of_deletable made deletable
    exact ⟨connected, f, ok, name, deletes, rendered, fetched⟩
  · exact fun f ok connected => ⟨connected, Select.deletable_of_ok made ok⟩
  · rintro ⟨connected, deletable⟩
    exact ⟨connected, deleteSql_of deletable⟩
  · exact fun f ok connected => ⟨connected, deletableBy_of_ok ok⟩

namespace Sample

/-- Folders on conditions in a group inside another. -/
def nestedFolders (conditions : List Clause) : Select :=
  ((Select.new .sqlite).giveAll
    ([.table "folders", .opening "and", .opening "or"] ++ conditions ++ [.closing, .closing])).1

def folderTest : Clause := .test .or ⟨"id", none, []⟩ (.str "eq") (.int 1)

def folderState : SessionState := ⟨.opened .sqlite ":memory:" [], .empty, .idle⟩

theorem empty_groups_delete_nothing :
    (∃ f, statements (Session.remove (nestedFolders [folderTest]) folderState).entries = [f] ∧
      f.params = [.int 1]) ∧
    ∃ failure, Session.remove (nestedFolders []) folderState = ⟨.error failure, folderState, []⟩ := by
  constructor
  · obtain ⟨removal, _⟩ := deletions_have_tests folderState .sqlite
      ([.table "folders", .opening "and", .opening "or"] ++ [folderTest] ++ [.closing, .closing]) "" []
    obtain ⟨f, sent, name, deletes, _⟩ := removal.sent ⟨nofun, ⟨nofun, rfl, rfl, rfl⟩⟩
    exact ⟨f, sent, deletes.params⟩
  · obtain ⟨removal, _⟩ := deletions_have_tests folderState .sqlite
      ([.table "folders", .opening "and", .opening "or"] ++ [] ++ [.closing, .closing]) "" []
    exact removal.nothing fun may => Bool.noConfusion may.2.some_test

end Sample

end Curator
