import Curator.Proofs.Database.Table
import Curator.Proofs.Model.Reading
import Curator.Proofs.Plan.Meaning
/-!
# Rows that statements are about

The rows that the tests of a statement hold for, and the texts by which rows are counted and fetched.
-/

set_option autoImplicit false

namespace Curator

open Sql Outcome

namespace Sql

variable {d : Dialect} {table name : String} {owner : Option String} {operand : Value}
  {tests : List ColumnTest} {s t : Select} {f : Fragment}

/-! ## Tokens of tests -/

/-- How a column is read, alone or behind its table. -/
def columnTokens (owner : Option String) (name : String) : List Token :=
  match owner with
  | none => [.quoted '"' name.toList]
  | some table => [.quoted '"' table.toList, .sign '.', .quoted '"' name.toList]

theorem closed_column {expr : String}
    (ok : Column.render d ⟨name, owner, []⟩ = .ok expr) :
    Closed (Piece.ofText expr.toList) (columnTokens owner name) := by
  obtain ⟨text, qualified, ⟨_, rfl⟩ | ⟨path, _⟩⟩ := Column.render_ok ok
  · obtain ⟨valid, ⟨none, rfl⟩ | ⟨table, behind, tableValid, rfl⟩⟩ := qualify_ok qualified
    · cases none
      exact closed_name valid
    · cases behind
      have dot : Closed (Piece.ofText ".".toList) [.sign '.'] := closed_of_run rfl
      rw [String.toList_append, String.toList_append, ofText_append, ofText_append]
      exact ((closed_name tableValid).append dot).append (closed_name valid)
  · exact absurd rfl path

theorem tokens_of_reads {operator : Operator} {expr : String} {ts : List Token}
    (rendered : Column.render d ⟨name, owner, []⟩ = .ok expr)
    (made : operator.render expr operand d.placeholder = .ok f)
    (reads : Reads (operator.inPlace expr operand) ts) : f.tokens d = ts := by
  have filled : f.filled d = some (operator.inPlace expr operand) :=
    (Operator.render_fills (Dialect.clear_render rendered) made).filled
  rw [Fragment.tokens, filled]
  exact reads.tokens

theorem compared_tokens {symbol expr : String} {us : List Token}
    (rendered : Column.render d ⟨name, owner, []⟩ = .ok expr)
    (words : Closed (Piece.ofText (' ' :: symbol.toList ++ [' '])) us) :
    Reads (comparedInPlace symbol expr operand) (columnTokens owner name ++ us ++ [.value operand]) :=
  ((keyword_closed (closed_column rendered) words).append (closed_value operand)).reads

theorem eq_tokens (given : operand.isNull = false)
    (ok : Plan.predicate d ⟨name, owner, []⟩ .eq operand = .ok f) :
    f.tokens d = columnTokens owner name ++ [.sign '='] ++ [.value operand] := by
  obtain ⟨expr, rendered, made⟩ := bind_ok ok
  refine tokens_of_reads rendered made ?_
  simp only [Operator.inPlace, given, Bool.false_eq_true, if_false]
  exact compared_tokens rendered (closed_of_run rfl)

theorem neq_tokens (given : operand.isNull = false)
    (ok : Plan.predicate d ⟨name, owner, []⟩ .neq operand = .ok f) :
    f.tokens d = columnTokens owner name ++ [.sign '<', .sign '>'] ++ [.value operand] := by
  obtain ⟨expr, rendered, made⟩ := bind_ok ok
  refine tokens_of_reads rendered made ?_
  simp only [Operator.inPlace, given, Bool.false_eq_true, if_false]
  exact compared_tokens rendered (closed_of_run rfl)

theorem eq_null_tokens (null : operand.isNull = true)
    (ok : Plan.predicate d ⟨name, owner, []⟩ .eq operand = .ok f) :
    f.tokens d = columnTokens owner name ++ [.word "IS".toList, .word "NULL".toList] := by
  obtain ⟨expr, rendered, made⟩ := bind_ok ok
  refine tokens_of_reads rendered made ?_
  have test : Reads (Piece.ofText " IS NULL".toList)
      ([.word "IS".toList] ++ [.word "NULL".toList]) := reads_of_run rfl
  simp only [Operator.inPlace, null, if_true]
  simpa [nullInPlace, nullTest, ofText_append] using (closed_column rendered).append_reads test

/-! ## Tests of rows -/

theorem test_eq (j : Judge) (row : Row) (own : owner = none ∨ owner = some table) :
    j.test table row (columnTokens owner name ++ [.sign '='] ++ [.value operand]) =
      j.equal (row name) operand := by
  rcases own with rfl | rfl
  · simp [columnTokens, testedColumn?, Judge.test]
  · simp [columnTokens, testedColumn?, Judge.test]

theorem test_neq (j : Judge) (row : Row) (own : owner = none ∨ owner = some table) :
    j.test table row (columnTokens owner name ++ [.sign '<', .sign '>'] ++ [.value operand]) =
      j.unequal (row name) operand := by
  rcases own with rfl | rfl
  · simp [columnTokens, testedColumn?, Judge.test]
  · simp [columnTokens, testedColumn?, Judge.test]

theorem test_null (j : Judge) (row : Row) (own : owner = none ∨ owner = some table) :
    j.test table row (columnTokens owner name ++ [.word "IS".toList, .word "NULL".toList]) =
      if (row name).isNull then .yes else .no := by
  rcases own with rfl | rfl
  · simp [columnTokens, testedColumn?, Judge.test]
  · simp [columnTokens, testedColumn?, Judge.test]

/-! ## Conditions -/

theorem conditions_of_tests (fs : List Fragment) (c : Connector) :
    fs.map (Condition.predicate c) = Formula.conditions c (fs.map .test) := by
  induction fs with
  | nil => rfl
  | cons f rest ih => rw [List.map_cons, List.map_cons, Formula.conditions, ih]; rfl

theorem members_of_tests (v : Fragment → Truth) (fs : List Fragment) :
    Formula.rowMembers v (fs.map .test) = fs.map v := by
  induction fs with
  | nil => rfl
  | cons f rest ih => rw [List.map_cons, List.map_cons, Formula.rowMembers, ih]; rfl

theorem Condition.everyRow_predicates {P : Fragment → Prop} {fs : List Fragment} {c : Connector}
    (all : ∀ f ∈ fs, P f) : Condition.EveryRow P (fs.map (.predicate c)) := by
  induction fs with
  | nil => trivial
  | cons f rest ih =>
    exact ⟨all f List.mem_cons_self, ih fun g member => all g (List.mem_cons_of_mem _ member)⟩

theorem Truth.all_yes {ts : List Truth} : Truth.all ts = .yes ↔ ∀ t ∈ ts, t = .yes := by
  induction ts with
  | nil => simp [Truth.all]
  | cons t rest ih =>
    rw [Truth.all_cons, List.forall_mem_cons, ← ih]
    cases t <;> cases Truth.all rest <;> simp [Truth.and]

/-- Tests joined by AND hold of a row when each of them does. -/
theorem holds_of_tests (table : String) (j : Judge) (row : Row) {fs : List Fragment}
    (tests : ∀ f ∈ fs, f.IsTest d) :
    j.holds d table (Condition.renderRoot (fs.map (.predicate .and))) row = true ↔
      ∀ f ∈ fs, j.test table row (f.tokens d) = .yes := by
  have made : Condition.EveryRow (·.IsTest d) (Formula.conditions .and (fs.map .test)) := by
    rw [← conditions_of_tests]
    exact Condition.everyRow_predicates tests
  unfold Judge.holds
  rw [conditions_of_tests, truth_of_formulas _ made, members_of_tests, beq_iff_eq, Truth.all_yes]
  simp

theorem isTest_of_predicate {column : Column} {operator : Operator}
    (ok : Plan.predicate d column operator operand = .ok f) : f.IsTest d := by
  obtain ⟨expr, rendered, made⟩ := bind_ok ok
  exact ⟨column, operator, operand, expr, rendered, made⟩

/-! ## Selections by tests -/

/-- The predicate of a test of a column of a table. -/
def testPredicate (d : Dialect) (table : String) (test : ColumnTest) : Except Failure Fragment :=
  Plan.predicate d ⟨test.1, some table, []⟩ test.2.1 test.2.2

theorem narrowed_ok (ok : tests.foldlM (fun s (name, operator, operand) =>
      Select.where_ s .and ⟨name, some table, []⟩ operator operand) s = .ok t)
    (dialect : s.dialect = d) (closed : s.openGroups = []) :
    ∃ fs : List Fragment, t = { s with root := s.root ++ fs.map (.predicate .and) } ∧
      List.Forall₂ (fun test f => testPredicate d table test = .ok f) tests fs := by
  induction tests generalizing s with
  | nil =>
    cases pure_ok ok
    exact ⟨[], by simp, .nil⟩
  | cons test rest ih =>
    rw [List.foldlM_cons] at ok
    obtain ⟨u, narrow, ok⟩ := bind_ok ok
    obtain ⟨expr, rendered, narrow⟩ := bind_ok narrow
    obtain ⟨f, made, narrow⟩ := bind_ok narrow
    cases pure_ok narrow
    have added : s.add (.predicate .and f) = { s with root := s.root ++ [.predicate .and f] } := by
      unfold Select.add
      rw [closed]
    rw [added] at ok
    obtain ⟨fs, rfl, all⟩ := ih ok dialect closed
    refine ⟨f :: fs, by simp, .cons ?_ all⟩
    rw [dialect] at rendered made
    rw [testPredicate, Plan.predicate, rendered]
    exact made

/-- What a selection by tests is: a table with the predicates of the tests. -/
theorem tested_ok (ok : tested d table tests = .ok s) :
    ∃ fs : List Fragment, s = { Select.new d with
        table := some (quoted table), root := fs.map (.predicate .and) } ∧
      List.Forall₂ (fun test f => testPredicate d table test = .ok f) tests fs := by
  obtain ⟨base, opened, run⟩ := bind_ok ok
  obtain ⟨text, quotes, opened⟩ := bind_ok opened
  cases pure_ok opened
  obtain ⟨_, rfl⟩ := quote_ok quotes
  obtain ⟨fs, rfl, all⟩ := narrowed_ok run rfl rfl
  exact ⟨fs, rfl, all⟩

/-- A condition that holds of the rows on which tests hold. -/
def Tests (d : Dialect) (table : String) (tests : List ColumnTest) (condition : Fragment) : Prop :=
  ∃ fs, List.Forall₂ (fun test f => testPredicate d table test = .ok f) tests fs ∧
    condition = Condition.renderRoot (fs.map (.predicate .and))

theorem fromClause_tested {columns : List String} {root : List Condition} {limit : Option Int} :
    Select.fromClause { Select.new d with
        table := some (quoted table), columns := columns, root := root, limit := limit } =
      .ok (⟨" FROM " ++ quoted table ++ conditioned (Condition.renderRoot root),
        (Condition.renderRoot root).params⟩, !(Condition.renderRoot root).sql.isEmpty) := by
  simp only [Select.fromClause, Select.new, List.isEmpty_nil, if_true, String.append_empty,
    conditioned]

theorem counting_ok (ok : counting d table tests = .ok f) :
    ∃ condition, Tests d table tests condition ∧ f = countText table condition := by
  obtain ⟨s, selected, ok⟩ := bind_ok ok
  obtain ⟨fs, rfl, all⟩ := tested_ok selected
  obtain ⟨source, conditional, clause, plain, _⟩ := Select.countSql_ok ok
  rw [fromClause_tested] at clause
  obtain ⟨rfl, rfl⟩ := Prod.mk.inj (Except.ok.inj clause)
  exact ⟨_, ⟨fs, all, rfl⟩, plain rfl⟩

theorem integerText_one : Select.integerText 1 = .ok "1" := by
  have short : Number.withinDigitLimit 1 = true :=
    decide_eq_true (Nat.one_lt_pow (by decide) (by decide))
  have one : Number.integerText? 1 = some "1" := by
    unfold Number.integerText?
    rw [short]
    rfl
  unfold Select.integerText
  rw [one]

theorem toSql_first {columns : List String} {root : List Condition}
    (ok : Select.toSql { Select.new d with
      table := some (quoted table), columns := columns, root := root, limit := some 1 } = .ok f) :
    f = ⟨"SELECT " ++ (if columns.isEmpty then "*" else Text.join ", " columns) ++
      (" FROM " ++ quoted table ++ conditioned (Condition.renderRoot root)) ++ " LIMIT 1",
      (Condition.renderRoot root).params⟩ := by
  obtain ⟨⟨source, conditional⟩, clause, ok⟩ := bind_ok ok
  obtain ⟨limit, limited, ok⟩ := bind_ok ok
  obtain ⟨offset, unmoved, ok⟩ := bind_ok ok
  rw [fromClause_tested] at clause
  obtain ⟨rfl, rfl⟩ := Prod.mk.inj (Except.ok.inj clause)
  have none : "" = offset := Except.ok.inj unmoved
  have one : " LIMIT " ++ "1" = limit := by
    simp only [Select.limitClause, integerText_one, ok_bind] at limited
    exact pure_ok limited
  subst none one
  cases pure_ok ok
  have limited : " LIMIT " ++ "1" = " LIMIT 1" := rfl
  simp only [Select.new, List.isEmpty_nil, if_true, String.append_empty, limited]

theorem firstRow_ok (ok : firstRow d table tests = .ok f) :
    ∃ condition, Tests d table tests condition ∧ f = firstText table condition := by
  obtain ⟨s, selected, ok⟩ := bind_ok ok
  obtain ⟨fs, rfl, all⟩ := tested_ok selected
  have star : "SELECT " ++ "*" = "SELECT *" := rfl
  refine ⟨_, ⟨fs, all, rfl⟩, ?_⟩
  rw [toSql_first ok]
  simp only [Select.new, List.isEmpty_nil, if_true, firstText, star]

/-- A condition holds of the rows that meet each of the tests it is made of. -/
theorem Tests.holds_each (j : Judge) (row : Row) {condition : Fragment}
    (asks : Tests d table tests condition) {meets : ColumnTest → Prop}
    (each : ∀ test ∈ tests, ∀ f, testPredicate d table test = .ok f →
      (j.test table row (f.tokens d) = .yes ↔ meets test)) :
    j.holds d table condition row = true ↔ ∀ test ∈ tests, meets test := by
  obtain ⟨fs, all, rfl⟩ := asks
  have made : ∀ f ∈ fs, f.IsTest d := by
    intro f member
    obtain ⟨test, _, own⟩ := mem_of_forall₂ all member
    exact isTest_of_predicate own
  rw [holds_of_tests table j row made]
  clear made
  -- the tests and their fragments run side by side
  induction all with
  | nil => simp
  | @cons test f rest fs own _ ih =>
    have others : (∀ f ∈ fs, j.test table row (f.tokens d) = .yes) ↔ ∀ test ∈ rest, meets test :=
      ih fun other member => each other (List.mem_cons_of_mem _ member)
    rw [List.forall_mem_cons, List.forall_mem_cons, others]
    exact and_congr_left fun _ => each test List.mem_cons_self f own

/-- A row passes a test of one of its columns. -/
def Passes (j : Judge) (row : Row) : ColumnTest → Prop
  | (name, .eq, operand) => j.equal (row name) operand = .yes
  | (name, .neq, operand) => j.unequal (row name) operand = .yes
  | _ => False

/-- A condition made of comparisons holds of the rows that pass each of them. -/
theorem Tests.holds (j : Judge) (row : Row) {condition : Fragment}
    (asks : Tests d table tests condition) (compares : ∀ test ∈ tests,
      (test.2.1 = .eq ∨ test.2.1 = .neq) ∧ test.2.2.isNull = false) :
    j.holds d table condition row = true ↔ ∀ test ∈ tests, Passes j row test := by
  refine asks.holds_each j row fun test member f own => ?_
  obtain ⟨kind, given⟩ := compares test member
  obtain ⟨name, operator, operand⟩ := test
  rcases kind with rfl | rfl
  · rw [eq_tokens given own, test_eq j row (Or.inr rfl)]
    rfl
  · rw [neq_tokens given own, test_neq j row (Or.inr rfl)]
    rfl

/-! ## Rows by their key -/

/-- The test of a key without its table, as a write has it. -/
theorem predicate_keyTest (ok : Plan.predicate d ⟨name, owner, []⟩ .eq operand = .ok f) :
    Plan.predicate d ⟨name, none, []⟩ .eq operand = .ok (keyTest d name operand) := by
  obtain ⟨expr, rendered, made⟩ := bind_ok ok
  obtain ⟨text, qualified, _⟩ := Column.render_ok rendered
  have valid := (qualify_ok qualified).1
  have alone : Column.render d ⟨name, none, []⟩ = .ok (quoted name) := by
    simp only [Column.render, qualify, quote, valid, if_true, ok_bind]
    rfl
  unfold Plan.predicate
  rw [alone, ok_bind]
  unfold keyTest
  rcases eq_ok made with ⟨null, _⟩ | ⟨given, compares⟩
  · simp only [Operator.render, null, if_true]
  · obtain ⟨v, plain, _⟩ := bind_ok compares
    simp only [Operator.render, given, Bool.false_eq_true, if_false, compared, plain, ok_bind]
    cases scalar_ok plain
    have sign : quoted name ++ " " ++ "=" ++ " " = quoted name ++ " = " := by
      rw [String.append_assoc, String.append_assoc]
      rfl
    rw [sign]
    rfl

theorem renderRoot_one {c : Connector} (written : f.sql.isEmpty = false) :
    Condition.renderRoot [.predicate c f] = f := by
  simp [Condition.renderRoot, Condition.renderAll, Fragment.joined, written]

/-- The condition of a key holds of the rows with that key. -/
theorem holds_keyTest (j : Judge) {row : Row} {key : Value} (given : (row name).isNull = false)
    (asked : Plan.predicate d ⟨name, none, []⟩ .eq key = .ok (keyTest d name key)) :
    j.holds d table (keyTest d name key) row = true ↔ j.equal (row name) key = .yes := by
  have tests : ∀ f ∈ [keyTest d name key], f.IsTest d :=
    List.forall_mem_singleton.mpr (isTest_of_predicate asked)
  have alone := holds_of_tests table j row tests
  rw [List.map_singleton, renderRoot_one (keyTest_written key)] at alone
  rw [alone, List.forall_mem_singleton]
  cases null : key.isNull with
  | true =>
    rw [eq_null_tokens null asked, test_null j row (Or.inl rfl), given]
    simp [Judge.equal, null]
  | false => rw [eq_tokens null asked, test_eq j row (Or.inl rfl)]

end Sql

end Curator
