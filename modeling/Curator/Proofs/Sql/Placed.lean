import Curator.Proofs.Sql.Made
/-!
# Parameters in their places

In every statement of a selection each parameter stands, by its place in the list, for the
placeholder of the test it is the operand of.
-/

set_option autoImplicit false

namespace Curator.Sql

open Outcome

/-! ## Rows of tests -/

/-- The pieces of conditions, each test with its operands in place. -/
def pieceLayout (d : Dialect) : Layout Piece where
  leaf := fun f => (f.filled d).getD []
  word := fun c => Piece.ofText (Condition.textLayout.word c)
  opening := Piece.ofText ['(']
  closing := Piece.ofText [')']

/-- A test that has its operands in place once it is filled. -/
def Fragment.IsPlaced (d : Dialect) (f : Fragment) : Prop :=
  ∃ (column : Column) (operator : Operator) (operand : Value) (expr : String),
    column.render d = .ok expr ∧ operator.render expr operand d.placeholder = .ok f ∧
      f.filled d = some (operator.inPlace expr operand)

section

variable {d : Dialect}

theorem Fragment.IsTest.fills {f : Fragment} (test : f.IsTest d) :
    f.FillsTo d ((f.filled d).getD []) := by
  obtain ⟨column, operator, operand, expr, expr_ok, ok⟩ := test
  have fills := Operator.render_fills (Dialect.clear_render expr_ok) ok
  have filled : f.filled d = some (operator.inPlace expr operand) := fills.filled
  rw [filled]
  exact fills

theorem Fragment.IsTest.placed (f : Fragment) (test : f.IsTest d) : f.IsPlaced d := by
  obtain ⟨column, operator, operand, expr, expr_ok, ok⟩ := test
  exact ⟨column, operator, operand, expr, expr_ok, ok,
    (Operator.render_fills (Dialect.clear_render expr_ok) ok).filled⟩

theorem clear_word (c : Connector) : d.Clear (Condition.textLayout.word c) := by
  cases c with
  | and => exact Dialect.clear_text (by decide)
  | or => exact Dialect.clear_text (by decide)

/-- A row of tests fills test by test. -/
theorem row_fills :
    (∀ c : Condition, c.Every (·.IsTest d) → d.Fills (c.lay Condition.textLayout)
      (c.lay Condition.parameterLayout) (c.lay (pieceLayout d))) ∧
    ∀ cs : List Condition, Condition.EveryRow (·.IsTest d) cs → ∀ behind : Bool,
      d.Fills (Condition.layRow Condition.textLayout behind cs)
        (Condition.layRow Condition.parameterLayout behind cs)
        (Condition.layRow (pieceLayout d) behind cs) := by
  refine Condition.nested_induction ?predicate ?group ?nil ?cons
  case predicate =>
    intro connector fragment test
    exact Fragment.IsTest.fills test
  case group =>
    intro connector children row tests
    have opening : d.Fills ['('] [] (Piece.ofText ['(']) :=
      Dialect.fills_clear (Dialect.clear_text (by decide))
    have closing : d.Fills [')'] [] (Piece.ofText [')']) :=
      Dialect.fills_clear (Dialect.clear_text (by decide))
    exact (opening.append (row tests false)).append closing
  case nil =>
    intro _ behind
    exact Dialect.fills_nil
  case cons =>
    intro first rest head tail tests behind
    cases blank : first.isBlank with
    | true =>
      rw [Condition.layRow_blank _ _ blank, Condition.layRow_blank _ _ blank,
        Condition.layRow_blank _ _ blank]
      exact tail tests.2 behind
    | false =>
      rw [Condition.layRow_solid _ _ blank, Condition.layRow_solid _ _ blank,
        Condition.layRow_solid _ _ blank]
      have joint : d.Fills (if behind then Condition.textLayout.word first.connector else [])
          (if behind then Condition.parameterLayout.word first.connector else [])
          (if behind then (pieceLayout d).word first.connector else []) := by
        cases behind with
        | false => exact Dialect.fills_nil
        | true => exact Dialect.fills_clear (clear_word first.connector)
      exact (joint.append (head tests.1)).append (tail tests.2 true)

theorem Fragment.IsTest.written (f : Fragment) (test : f.IsTest d) : Condition.Written f := by
  obtain ⟨column, operator, operand, expr, _, ok⟩ := test
  have spaced := Operator.render_spaced ok
  unfold Condition.Written
  rw [Condition.isEmpty_toList]
  cases text : f.sql.toList with
  | nil => simp [text] at spaced
  | cons c rest => rfl

end

/-! ## Statements -/

namespace Select

variable {s : Select} {f : Fragment}

/-- The conditions of a selection behind WHERE; nothing where there are none. -/
def filterText (s : Select) : String :=
  let conditions := Condition.renderRoot s.root
  if conditions.sql.isEmpty then "" else " WHERE " ++ conditions.sql

/-- The text of a selection before its conditions, from the columns on. -/
def headText (s : Select) (selected table : String) : String :=
  selected ++ " FROM " ++ table ++ if s.joins.isEmpty then "" else " " ++ Text.join " " s.joins

/-- The columns of a selection as it fetches them. -/
def selectedText (s : Select) : String :=
  "SELECT " ++ if s.columns.isEmpty then "*" else Text.join ", " s.columns

/-- The text of a selection behind its conditions. -/
def tailText (s : Select) (limit offset : String) : String :=
  (if s.groups.isEmpty then "" else " GROUP BY " ++ Text.join ", " s.groups) ++
    (if s.order.isEmpty then "" else " ORDER BY " ++ Text.join ", " s.order) ++ limit ++ offset

theorem fromClause_ok {source : Fragment} {conditional : Bool}
    (ok : s.fromClause = .ok (source, conditional)) : ∃ table, s.table = some table ∧
      s.openGroups = [] ∧ source.params = (Condition.renderRoot s.root).params ∧
      ∀ selected : String, selected ++ source.sql = s.headText selected table ++ s.filterText := by
  unfold fromClause at ok
  split at ok
  · cases ok
  · cases ok
  · rename_i table named closed
    cases ok
    refine ⟨table, named, closed, rfl, fun selected => ?_⟩
    simp [headText, filterText, String.append_assoc]

theorem fromClause_eq {table : String} (named : s.table = some table)
    (closed : s.openGroups = []) : s.fromClause =
      .ok (⟨s.headText "" table ++ s.filterText, (Condition.renderRoot s.root).params⟩,
        !(Condition.renderRoot s.root).sql.isEmpty) := by
  simp [fromClause, named, closed, headText, filterText, String.append_assoc]

/-- The statements that fetch the rows of a selection and reduce them to one value. -/
def Renders (s : Select) (f : Fragment) : Prop :=
  s.toSql = .ok f ∨ ∃ function column, s.aggregateSql function column = .ok f

/-- The statement that fetches the rows is the conditions with some text around them. -/
theorem toSql_ok (ok : s.toSql = .ok f) : ∃ table limit offset, s.table = some table ∧
    s.openGroups = [] ∧ s.limitClause = .ok limit ∧ s.offsetClause = .ok offset ∧
    f.params = (Condition.renderRoot s.root).params ∧
    f.sql = s.headText s.selectedText table ++ s.filterText ++ s.tailText limit offset := by
  obtain ⟨⟨source, conditional⟩, source_ok, ok⟩ := bind_ok ok
  obtain ⟨limit, limit_ok, ok⟩ := bind_ok ok
  obtain ⟨offset, offset_ok, ok⟩ := bind_ok ok
  cases pure_ok ok
  obtain ⟨table, named, closed, params, text⟩ := fromClause_ok source_ok
  refine ⟨table, limit, offset, named, closed, limit_ok, offset_ok, params, ?_⟩
  rw [← text]
  simp [selectedText, tailText, String.append_assoc]

theorem clear_aggregate {function : Value} {aggregate : Aggregate} {expr : String}
    (ok : Aggregate.ofValue function = .ok aggregate) (clear : s.dialect.Clear expr.toList) :
    s.dialect.Clear (aggregate.render expr).toList := by
  obtain ⟨name, _, ok⟩ := bind_ok ok
  have listed : aggregate ∈ Aggregate.all := by
    simp only at ok
    split at ok
    · rename_i found
      cases pure_ok ok
      exact List.mem_of_find?_eq_some found
    · cases ok
  have plain : ∀ a ∈ Aggregate.all,
      (a.function.toList.all fun c => c != '?' && c != '%') = true := by decide
  have function_clear : s.dialect.Clear aggregate.function.toList :=
    Dialect.clear_text (plain aggregate listed)
  unfold Aggregate.render
  split
  · exact Dialect.clear_append (Dialect.clear_append (Dialect.clear_append function_clear
      (Dialect.clear_text (by decide))) clear) (Dialect.clear_text (by decide))
  · exact Dialect.clear_append (Dialect.clear_append (Dialect.clear_append function_clear
      (Dialect.clear_text (by decide))) clear) (Dialect.clear_text (by decide))

theorem aggregateSql_ok {function : Value} {column : Option Column} (made : s.Made)
    (ok : s.aggregateSql function column = .ok f) : ∃ table selected tail,
      s.table = some table ∧ s.openGroups = [] ∧
      f.params = (Condition.renderRoot s.root).params ∧ s.dialect.Clear selected.toList ∧
      s.dialect.Clear tail.toList ∧ f.sql = s.headText selected table ++ s.filterText ++ tail := by
  obtain ⟨aggregate, aggregate_ok, ok⟩ := bind_ok ok
  obtain ⟨⟨source, conditional⟩, source_ok, ok⟩ := bind_ok ok
  obtain ⟨table, named, closed, params, text⟩ := fromClause_ok source_ok
  cases column with
  | none =>
    simp only at ok
    split at ok
    · cases pure_ok ok
      refine ⟨table, _, "", named, closed, params, ?_, Dialect.clear_text (by decide),
        by rw [text, String.append_empty]⟩
      exact Dialect.clear_text (by decide)
    · cases pure_ok ok
      refine ⟨table, "SELECT COUNT(*) AS \"aggregate\" FROM (SELECT 1 AS \"grouped_row\"",
        " GROUP BY " ++ Text.join ", " s.groups ++ ") AS \"grouped\"", named, closed, params,
        Dialect.clear_text (by decide), ?_, ?_⟩
      · have groups : s.dialect.Clear (Text.join ", " s.groups).toList :=
          Dialect.clear_join (Dialect.clear_text (by decide)) made.sound.groups
        exact Dialect.clear_append (Dialect.clear_append (Dialect.clear_text (by decide)) groups)
          (Dialect.clear_text (by decide))
      · rw [← text]
        simp [String.append_assoc]
  | some column =>
    obtain ⟨expr, expr_ok, ok⟩ := bind_ok ok
    cases pure_ok ok
    have reduced := clear_aggregate aggregate_ok (Dialect.clear_render expr_ok)
    refine ⟨table, "SELECT " ++ aggregate.render expr ++ " AS \"aggregate\"", "", named, closed,
      params, ?_, Dialect.clear_text (by decide), by rw [text, String.append_empty]⟩
    exact Dialect.clear_append (Dialect.clear_append (Dialect.clear_text (by decide)) reduced)
      (Dialect.clear_text (by decide))

/-! ## Parameters -/

theorem clear_headText {selected table : String} (made : s.Made)
    (selected_clear : s.dialect.Clear selected.toList) (named : s.table = some table) :
    s.dialect.Clear (s.headText selected table).toList := by
  have front : s.dialect.Clear (selected ++ " FROM " ++ table).toList :=
    Dialect.clear_append (Dialect.clear_append selected_clear (Dialect.clear_text (by decide)))
      (made.sound.table table named)
  have joins : s.dialect.Clear
      (if s.joins.isEmpty then "" else " " ++ Text.join " " s.joins).toList := by
    split
    · exact Dialect.clear_text (by decide)
    · exact Dialect.clear_append (Dialect.clear_text (by decide))
        (Dialect.clear_join (Dialect.clear_text (by decide)) made.sound.joins)
  exact Dialect.clear_append front joins

theorem isExpression_integer (n : Int) : IsExpression (toString n) := by
  have digits : ∀ m : Nat, IsExpression (toString m) := by
    intro m c member
    rw [Nat.toString_eq_ofList_toDigits, String.toList_ofList] at member
    have digit := Nat.isDigit_of_mem_toDigits (by decide) (by decide) member
    simp [IsExpressionChar, Text.isKeyChar, Char.isAlphanum, digit]
  cases n with
  | ofNat m => exact digits m
  | negSucc m =>
    have negative : IsExpression ("-" ++ toString (m + 1)) :=
      (isExpression_text (by decide)).append (digits (m + 1))
    exact negative

theorem integerText_short {n : Int} (short : Number.withinDigitLimit n = true) :
    integerText n = .ok (toString n) := by
  unfold integerText Number.integerText?
  rw [short]
  rfl

theorem clear_integerText {n : Int} {text : String} (ok : integerText n = .ok text) :
    s.dialect.Clear text.toList := by
  unfold integerText Number.integerText? at ok
  split at ok
  · rename_i written shown
    split at shown
    · cases ok
      cases shown
      exact Dialect.clear_expression (isExpression_integer n)
    · cases shown
  · cases ok

theorem clear_limitClause {text : String} (ok : s.limitClause = .ok text) :
    s.dialect.Clear text.toList := by
  unfold limitClause at ok
  split at ok
  · cases ok
    exact Dialect.clear_text (by decide)
  · obtain ⟨number, number_ok, ok⟩ := bind_ok ok
    cases pure_ok ok
    exact Dialect.clear_append (Dialect.clear_text (by decide)) (clear_integerText number_ok)

theorem clear_offsetClause {text : String} (ok : s.offsetClause = .ok text) :
    s.dialect.Clear text.toList := by
  unfold offsetClause at ok
  split at ok
  · cases ok
    exact Dialect.clear_text (by decide)
  · split at ok
    · cases ok
      exact Dialect.clear_text (by decide)
    · obtain ⟨number, number_ok, ok⟩ := bind_ok ok
      cases pure_ok ok
      refine Dialect.clear_append (Dialect.clear_append ?_ (Dialect.clear_text (by decide)))
        (clear_integerText number_ok)
      split
      · exact Dialect.clear_text (by decide)
      · exact Dialect.clear_text (by decide)

theorem clear_listed {keyword : String} {texts : List String}
    (keyword_clear : s.dialect.Clear keyword.toList)
    (all : ∀ text ∈ texts, s.dialect.Clear text.toList) :
    s.dialect.Clear (if texts.isEmpty then "" else keyword ++ Text.join ", " texts).toList := by
  split
  · exact Dialect.clear_text (by decide)
  · exact Dialect.clear_append keyword_clear
      (Dialect.clear_join (Dialect.clear_text (by decide)) all)

theorem clear_selectedText (made : s.Made) : s.dialect.Clear s.selectedText.toList := by
  refine Dialect.clear_append (Dialect.clear_text (by decide)) ?_
  split
  · exact Dialect.clear_text (by decide)
  · exact Dialect.clear_join (Dialect.clear_text (by decide)) made.sound.columns

theorem clear_tailText {limit offset : String} (made : s.Made) (limit_ok : s.limitClause = .ok limit)
    (offset_ok : s.offsetClause = .ok offset) :
    s.dialect.Clear (s.tailText limit offset).toList :=
  Dialect.clear_append (Dialect.clear_append (Dialect.clear_append
    (clear_listed (Dialect.clear_text (by decide)) made.sound.groups)
    (clear_listed (Dialect.clear_text (by decide)) made.sound.order)) (clear_limitClause limit_ok))
    (clear_offsetClause offset_ok)

/-- A statement of a selection is its conditions between texts without placeholders. -/
theorem renders_ok (made : s.Made) (renders : s.Renders f) : ∃ head tail : String,
    s.dialect.Clear head.toList ∧ s.dialect.Clear tail.toList ∧
      f.params = (Condition.renderRoot s.root).params ∧ f.sql = head ++ s.filterText ++ tail := by
  rcases renders with ok | ⟨function, column, ok⟩
  · obtain ⟨table, limit, offset, named, _, limit_ok, offset_ok, params, text⟩ := toSql_ok ok
    exact ⟨_, _, clear_headText made (clear_selectedText made) named,
      clear_tailText made limit_ok offset_ok, params, text⟩
  · obtain ⟨table, selected, tail, named, _, params, selected_clear, tail_clear, text⟩ :=
      aggregateSql_ok made ok
    exact ⟨_, tail, clear_headText made selected_clear named, tail_clear, params, text⟩

end Select

/-- A statement of a selection with all its parameters in place: between texts that stay as they are,
the tests of the selection with their own operands. -/
structure Fragment.InPlace (s : Select) (f : Fragment) : Prop where
  count : s.dialect.placeholders f.sql = f.params.length
  filled : ∃ head tail : String, s.dialect.placeholders head = 0 ∧
    s.dialect.placeholders tail = 0 ∧
    f.filled s.dialect = some (Piece.ofText head.toList ++
      Condition.layRow (pieceLayout s.dialect) false s.root ++ Piece.ofText tail.toList)
  tests : Condition.EveryRow (·.IsPlaced s.dialect) s.root

namespace Select

variable {s : Select} {f : Fragment}

theorem placeholders_of_clear {text : String} (clear : s.dialect.Clear text.toList) :
    s.dialect.placeholders text = 0 := by
  have filled : Fragment.filled s.dialect ⟨text, []⟩ = some (Piece.ofText text.toList) :=
    (Dialect.fills_clear clear).filled
  have count := placeholders_of_filled filled
  exact count

/-- In every statement of a selection the parameters stand in the places of their placeholders. -/
theorem Made.inPlace (made : s.Made) (renders : s.Renders f) : f.InPlace s := by
  obtain ⟨head, tail, head_clear, tail_clear, params, text⟩ := renders_ok made renders
  have tests := made.sound.root
  have written := (Condition.every_imp Fragment.IsTest.written).2 s.root tests
  obtain ⟨blank, row, rowParams⟩ := Condition.renderRoot_eq written
  have rowFills := row_fills.2 s.root tests false
  rw [← row, ← rowParams, ← params] at rowFills
  have whole : ∃ front : String, s.dialect.Clear front.toList ∧
      s.dialect.Fills f.sql.toList f.params (Piece.ofText front.toList ++
        Condition.layRow (pieceLayout s.dialect) false s.root ++ Piece.ofText tail.toList) := by
    cases empty : (Condition.renderRoot s.root).sql.isEmpty with
    | true =>
      have bare : s.filterText = "" := by simp [filterText, empty]
      have around := ((Dialect.fills_clear head_clear).append rowFills).append
        (Dialect.fills_clear tail_clear)
      refine ⟨head, head_clear, ?_⟩
      rw [Condition.toList_of_isEmpty empty] at around
      rw [text, bare]
      simpa using around
    | false =>
      have keyword : s.filterText = " WHERE " ++ (Condition.renderRoot s.root).sql := by
        simp [filterText, empty]
      have front : s.dialect.Clear (head ++ " WHERE ").toList :=
        Dialect.clear_append head_clear (Dialect.clear_text (by decide))
      have around := ((Dialect.fills_clear front).append rowFills).append
        (Dialect.fills_clear tail_clear)
      refine ⟨head ++ " WHERE ", front, ?_⟩
      rw [text, keyword]
      simpa using around
  obtain ⟨front, front_clear, fills⟩ := whole
  have filled : f.filled s.dialect = some (Piece.ofText front.toList ++
      Condition.layRow (pieceLayout s.dialect) false s.root ++ Piece.ofText tail.toList) :=
    fills.filled
  exact ⟨placeholders_of_filled filled, ⟨front, tail, placeholders_of_clear front_clear,
    placeholders_of_clear tail_clear, filled⟩,
    (Condition.every_imp Fragment.IsTest.placed).2 s.root tests⟩

end Select

end Curator.Sql
