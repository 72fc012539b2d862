import Curator.Proofs.Plan.Compiled
import Curator.Proofs.Plan.Readable
import Curator.Proofs.Sql.Made
import Curator.Proofs.Sql.Predicates
import Curator.Proofs.Sql.Rewritten
/-!
# Requests of one shape

Two requests that ask for the same in the same shape, with other values: the plans they compile to
differ in operands only, and so their statements in parameters only.
-/

set_option autoImplicit false

namespace Curator

open Sql Outcome Calendar

/-! ## Expanded operands -/

theorem expandText_single {now : Moment} {text : String} {v : Value}
    (ok : expandText now text = .ok v) : v.Plain ∧ v ≠ .null := by
  have text_single : ∀ s : String, (Value.str s).Plain ∧ Value.str s ≠ .null :=
    fun s => ⟨⟨nofun, nofun⟩, nofun⟩
  unfold expandText at ok
  split at ok
  · rename_i kind offset _
    obtain ⟨span, _, ok⟩ := bind_ok ok
    split at ok
    · cases pure_ok ok
      cases kind with
      | time => exact ⟨⟨nofun, nofun⟩, nofun⟩
      | datetime => exact text_single _
      | date => exact text_single _
    · cases ok
  · obtain ⟨chars, _, ok⟩ := bind_ok ok
    cases pure_ok ok
    exact text_single _

/-- A single value stays one when its variables are replaced. -/
theorem expand_single {now : Moment} {v w : Value} (plain : v.Plain) (given : v ≠ .null)
    (ok : v.expand now = .ok w) : w.Plain ∧ w ≠ .null := by
  cases v with
  | null => exact absurd rfl given
  | list items => exact absurd rfl (plain.1 items)
  | dict entries => exact absurd rfl (plain.2 entries)
  | str s =>
    rw [Value.expand] at ok
    exact expandText_single ok
  | bool _ | int _ | float _ | bytes _ | date _ | moment _ =>
    rw [Value.expand] at ok
    cases ok
    exact ⟨plain, given⟩

theorem expandItems_length {now : Moment} {xs ys : List Value} (ok : expandItems now xs = .ok ys) :
    ys.length = xs.length := by
  induction xs generalizing ys with
  | nil =>
    rw [expandItems] at ok
    cases ok
    rfl
  | cons x rest ih =>
    rw [expandItems] at ok
    obtain ⟨y, _, ok⟩ := bind_ok ok
    obtain ⟨others, others_ok, ok⟩ := bind_ok ok
    cases pure_ok ok
    simp [ih others_ok]

/-- Operands keep their common shape when their variables are replaced. -/
theorem Sql.SameShape.expand {now later : Moment} {a b x y : Value} (same : SameShape a b)
    (first : a.expand now = .ok x) (second : b.expand later = .ok y) : SameShape x y := by
  -- variables turn a text into a text, a number or a time, never into NULL or a list
  cases same with
  | null =>
    rw [Value.expand] at first second
    cases first
    cases second
    exact .null
  | single plain given other_plain other_given =>
    obtain ⟨x_plain, x_given⟩ := expand_single plain given first
    obtain ⟨y_plain, y_given⟩ := expand_single other_plain other_given second
    exact .single x_plain x_given y_plain y_given
  | list length =>
    rw [Value.expand] at first second
    obtain ⟨xs, xs_ok, first⟩ := bind_ok first
    obtain ⟨ys, ys_ok, second⟩ := bind_ok second
    cases pure_ok first
    cases pure_ok second
    exact .list (by rw [expandItems_length xs_ok, expandItems_length ys_ok, length])

/-! ## Requests -/

/-- Tests of a field by the same operator with operands of one shape.  Of a null check it counts what
its operand asks for, its variables replaced. -/
def TestAlike (now later : Moment) (first second : String × Value) : Prop :=
  first.1 = second.1 ∧ ∀ operator, Operator.ofName? first.1 = some operator →
    if operator.checksNull then
      (first.2.expand now >>= flag) = (second.2.expand later >>= flag)
    else SameShape first.2 second.2

/-- Filters with the same keys, operators and nesting and with operands of one shape. -/
inductive FilterAlike (now later : Moment) : Value → Value → Prop where
  | plain {v w : Value} (first : v.Plain) (second : w.Plain) : FilterAlike now later v w
  | noItems : FilterAlike now later (.list []) (.list [])
  | item {entries others : List (String × Value)} {xs ys : List Value}
      (head : FilterAlike now later (.dict entries) (.dict others))
      (tail : FilterAlike now later (.list xs) (.list ys)) :
      FilterAlike now later (.list (.dict entries :: xs)) (.list (.dict others :: ys))
  | noEntries : FilterAlike now later (.dict []) (.dict [])
  | group {key : String} {v w : Value} {entries others : List (String × Value)}
      (connects : Plan.groupConnector? key ≠ none) (head : FilterAlike now later v w)
      (tail : FilterAlike now later (.dict entries) (.dict others)) :
      FilterAlike now later (.dict ((key, v) :: entries)) (.dict ((key, w) :: others))
  | field {key : String} {tests checks entries others : List (String × Value)}
      (names : Plan.groupConnector? key = none)
      (head : List.Forall₂ (TestAlike now later) tests checks)
      (tail : FilterAlike now later (.dict entries) (.dict others)) :
      FilterAlike now later (.dict ((key, .dict tests) :: entries))
        (.dict ((key, .dict checks) :: others))

/-- Requests that ask for the same in the same shape, at two moments.  The operands of their filters,
the texts they search for and the cursors they start from may be any. -/
structure Spec.Alike (now later : Moment) (first second : Spec) : Prop where
  fields : first.fields = second.fields
  sort : first.sort = second.sort
  group : first.group = second.group
  limit : first.limit = second.limit
  method : first.method = second.method
  page : first.page = second.page
  search : first.search = "" ↔ second.search = ""
  filter : FilterAlike now later first.filter second.filter

/-! ## Steps -/

/-- Steps that differ at most in an operand that does not show. -/
inductive PlanStep.Alike : PlanStep → PlanStep → Prop where
  | test (connector : Connector) (column : Column) {operator : Operator} {a b : Value}
      (alike : operator.Alike a b) :
      Alike (.test connector column operator a) (.test connector column operator b)
  | opening (connector : Connector) : Alike (.opening connector) (.opening connector)
  | closing : Alike .closing .closing

theorem PlanStep.Alike.refl (step : PlanStep) : step.Alike step := by
  cases step with
  | test connector column operator operand => exact .test connector column (.refl operator operand)
  | opening connector => exact .opening connector
  | closing => exact .closing

namespace Plan

variable {schema : Schema} {now later : Moment} {maxDepth : Option Int}

theorem alike_refl (steps : List PlanStep) : List.Forall₂ PlanStep.Alike steps steps :=
  List.forall₂_same.mpr fun step _ => .refl step

theorem alike_append {first second others more : List PlanStep}
    (before : List.Forall₂ PlanStep.Alike first second)
    (after : List.Forall₂ PlanStep.Alike others more) :
    List.Forall₂ PlanStep.Alike (first ++ others) (second ++ more) := by
  induction before with
  | nil => exact after
  | cons head _ ih => exact .cons head ih

theorem fieldTests_alike {connector : Connector} {key : String} {column : Column}
    {tests checks : List (String × Value)} {steps others : List PlanStep}
    (alike : List.Forall₂ (TestAlike now later) tests checks)
    (first : fieldTests now connector key column tests = .ok steps)
    (second : fieldTests later connector key column checks = .ok others) :
    List.Forall₂ PlanStep.Alike steps others := by
  induction alike generalizing steps others with
  | nil =>
    cases first
    cases second
    exact .nil
  | cons head _ ih =>
    rename_i test check tests checks _
    obtain ⟨name, a⟩ := test
    obtain ⟨other, b⟩ := check
    obtain ⟨same, operands⟩ := head
    cases same
    obtain ⟨operator, x, rest, named, first_expands, rest_ok, rfl⟩ := fieldTests_cons_ok first
    obtain ⟨again, y, more, renamed, second_expands, more_ok, rfl⟩ := fieldTests_cons_ok second
    cases Option.some.inj (named.symm.trans renamed)
    refine .cons (.test connector column ?_) (ih rest_ok more_ok)
    have shape := operands operator named
    simp only [first_expands, second_expands] at shape
    split at shape
    · rename_i checks
      exact Operator.alike_of_flag checks shape
    · rename_i reads
      exact Operator.alike_of_shape (by simpa using reads) (shape.expand first_expands second_expands)

/-- Filters of one shape have the same steps but for operands that do not show. -/
theorem filterSteps_alike {v w : Value} (alike : FilterAlike now later v w) :
    ∀ {connector : Connector} {depth : Nat} {steps others : List PlanStep},
      filterSteps schema now maxDepth connector depth v = .ok steps →
      filterSteps schema later maxDepth connector depth w = .ok others →
        List.Forall₂ PlanStep.Alike steps others := by
  induction alike with
  | plain first_plain second_plain =>
    intro connector depth steps others first second
    rw [filterSteps_plain_ok first_plain first, filterSteps_plain_ok second_plain second]
    exact .nil
  | noItems =>
    intro connector depth steps others first second
    cases first
    cases second
    exact .nil
  | item _ _ head tail =>
    intro connector depth steps others first second
    obtain ⟨_, front, rest, same, front_ok, rest_ok, rfl⟩ := filterItems_cons_ok first
    obtain ⟨_, otherFront, otherRest, same', otherFront_ok, otherRest_ok, rfl⟩ :=
      filterItems_cons_ok second
    cases same
    cases same'
    exact alike_append (head front_ok otherFront_ok) (tail rest_ok otherRest_ok)
  | noEntries =>
    intro connector depth steps others first second
    cases first
    cases second
    exact .nil
  | group connects _ _ head tail =>
    intro connector depth steps others first second
    obtain ⟨front, rest, front_ok, rest_ok, rfl⟩ := filterEntries_cons_ok first
    obtain ⟨otherFront, otherRest, otherFront_ok, otherRest_ok, rfl⟩ := filterEntries_cons_ok second
    obtain ⟨inner, inside, names, inside_ok, rfl⟩ := filterEntry_group connects front_ok
    obtain ⟨again, otherInside, renames, otherInside_ok, rfl⟩ :=
      filterEntry_group connects otherFront_ok
    cases Option.some.inj (names.symm.trans renames)
    exact alike_append (alike_append (.cons (.opening connector) (head inside_ok otherInside_ok))
      (.cons .closing .nil)) (tail rest_ok otherRest_ok)
  | field names tests _ tail =>
    intro connector depth steps others first second
    obtain ⟨front, rest, front_ok, rest_ok, rfl⟩ := filterEntries_cons_ok first
    obtain ⟨otherFront, otherRest, otherFront_ok, otherRest_ok, rfl⟩ := filterEntries_cons_ok second
    obtain ⟨_, front_ok⟩ := filterEntry_field names front_ok
    obtain ⟨_, otherFront_ok⟩ := filterEntry_field names otherFront_ok
    obtain ⟨_, column, same, _, column_ok, front_ok⟩ := fieldSteps_ok front_ok
    obtain ⟨_, again, same', _, again_ok, otherFront_ok⟩ := fieldSteps_ok otherFront_ok
    cases same
    cases same'
    cases Except.ok.inj (column_ok.symm.trans again_ok)
    exact alike_append (fieldTests_alike tests front_ok otherFront_ok) (tail rest_ok otherRest_ok)

theorem searchSteps_alike {search other : String} {steps others : List PlanStep}
    (empty : search = "" ↔ other = "") (first : searchSteps schema search = .ok steps)
    (second : searchSteps schema other = .ok others) : List.Forall₂ PlanStep.Alike steps others := by
  rcases searchSteps_ok first with ⟨bare, rfl⟩ | ⟨given, tests, rfl, made⟩
  · rcases searchSteps_ok second with ⟨_, rfl⟩ | ⟨other_given, _, _, _⟩
    · exact .nil
    · exact absurd (empty.mp bare) other_given
  · rcases searchSteps_ok second with ⟨other_bare, _⟩ | ⟨_, checks, rfl, other_made⟩
    · exact absurd (empty.mpr other_bare) given
    · refine alike_append (.cons (.opening .and) ?_) (.cons .closing .nil)
      have shape : SameShape (.str search) (.str other) :=
        .single ⟨nofun, nofun⟩ nofun ⟨nofun, nofun⟩ nofun
      generalize schema.searchTargets = names at made other_made
      clear first second
      induction made generalizing checks with
      | nil =>
        cases other_made
        exact .nil
      | cons head _ ih =>
        cases other_made with
        | cons other_head other_rest =>
          obtain ⟨column, column_ok, rfl⟩ := head
          obtain ⟨again, again_ok, rfl⟩ := other_head
          cases Except.ok.inj (column_ok.symm.trans again_ok)
          exact .cons (.test .or column (Operator.alike_of_shape rfl shape)) (ih _ other_rest)

theorem cursorSteps_alike {first second : Spec} {steps others : List PlanStep}
    (method : first.method = second.method) (first_ok : cursorSteps schema first = .ok steps)
    (second_ok : cursorSteps schema second = .ok others) :
    List.Forall₂ PlanStep.Alike steps others := by
  rcases cursorSteps_ok first_ok with ⟨page, rfl⟩ | ⟨a, operator, _, directions, rfl⟩
  · rcases cursorSteps_ok second_ok with ⟨_, rfl⟩ | ⟨_, _, _, directions, _⟩
    · exact .nil
    · simp [← method, page] at directions
  · rcases cursorSteps_ok second_ok with ⟨page, _⟩ | ⟨b, again, _, others, rfl⟩
    · simp [method, page] at directions
    · have same : operator = again := by
        rcases directions with ⟨after, rfl⟩ | ⟨before, rfl⟩
        · rcases others with ⟨_, rfl⟩ | ⟨other, _⟩
          · rfl
          · simp [← method, after] at other
        · rcases others with ⟨other, _⟩ | ⟨_, rfl⟩
          · simp [← method, before] at other
          · rfl
      subst same
      have order : operator = .gt ∨ operator = .lt :=
        directions.imp (fun direction => direction.2) fun direction => direction.2
      exact .cons (.test .and _ (Operator.alike_of_order order a b)) .nil

/-! ## Plans -/

/-- Plans that differ at most in operands that do not show. -/
structure Alike (first second : Plan) : Prop where
  schema : first.schema = second.schema
  columns : first.columns = second.columns
  joins : first.joins = second.joins
  steps : List.Forall₂ PlanStep.Alike first.steps second.steps
  order : first.order = second.order
  group : first.group = second.group
  limit : first.limit = second.limit
  offset : first.offset = second.offset

/-- Requests of one shape compile to plans of one shape. -/
theorem compile_alike {setting : Setting} {later : Moment} {schema : Schema} {first second : Spec}
    {trashed : TrashedMode} {listAll : Bool} {equals : Record} {plan other : Plan}
    (alike : first.Alike setting.now later second)
    (first_ok : compile setting schema first trashed listAll equals = .ok plan)
    (second_ok : compile { setting with now := later } schema second trashed listAll equals =
      .ok other) : plan.Alike other := by
  obtain ⟨selected, filter, search, cursor, made⟩ := compile_ok first_ok
  obtain ⟨again, otherFilter, otherSearch, otherCursor, remade⟩ := compile_ok second_ok
  have fields : selected = again := by
    have asked : askedFields first = askedFields second := by rw [askedFields, askedFields, alike.fields]
    have ok := made.fields_ok
    rw [asked] at ok
    exact Except.ok.inj (ok.symm.trans remade.fields_ok)
  have cursors : List.Forall₂ PlanStep.Alike cursor otherCursor := by
    have ok := made.cursor_ok
    have other_ok := remade.cursor_ok
    cases listAll with
    | true =>
      cases pure_ok ok
      cases pure_ok other_ok
      exact .nil
    | false => exact cursorSteps_alike alike.method ok other_ok
  have limit : plan.limit = other.limit := by
    have ok := made.limit_ok
    rw [alike.limit] at ok
    exact Except.ok.inj (ok.symm.trans remade.limit_ok)
  refine ⟨made.schema_eq.trans remade.schema_eq.symm, ?_, ?_, ?_, ?_, ?_, limit, ?_⟩
  · rw [made.columns_eq, remade.columns_eq, fields]
  · rw [made.joins_eq, remade.joins_eq, fields]
  · rw [made.steps_eq, remade.steps_eq, fields]
    have searches := searchSteps_alike alike.search made.search_ok remade.search_ok
    have filters := filterSteps_alike alike.filter made.filter_ok remade.filter_ok
    exact alike_append (alike_append (alike_append (alike_append (alike_append
      (alike_refl again.exclusions) filters) (alike_refl _)) (alike_refl _)) searches) cursors
  · have ok := made.order_ok
    rw [alike.sort] at ok
    exact Except.ok.inj (ok.symm.trans remade.order_ok)
  · have ok := made.group_ok
    rw [alike.group] at ok
    exact Except.ok.inj (ok.symm.trans remade.group_ok)
  · have offset : pageOffset first plan.limit = pageOffset second other.limit := by
      unfold pageOffset
      rw [alike.method, alike.page, limit]
    rw [made.offset_eq, remade.offset_eq, offset]

/-! ## Selections -/

theorem replayStep_alike {s t s' t' : Select} {step other : PlanStep} (same : s.bare = t.bare)
    (alike : step.Alike other) (first : replayStep s step = .ok s')
    (second : replayStep t other = .ok t') : s'.bare = t'.bare := by
  cases alike with
  | test connector column alike =>
    obtain ⟨expr, expr_ok, first⟩ := bind_ok first
    obtain ⟨f, f_ok, first⟩ := bind_ok first
    obtain ⟨other, other_ok, second⟩ := bind_ok second
    obtain ⟨g, g_ok, second⟩ := bind_ok second
    cases pure_ok first
    cases pure_ok second
    have dialect : s.bare.dialect = t.bare.dialect := congrArg Select.dialect same
    have dialect : s.dialect = t.dialect := dialect
    rw [dialect] at expr_ok f_ok
    cases Except.ok.inj (expr_ok.symm.trans other_ok)
    have text := alike expr _ f g f_ok g_ok
    rw [Select.bare_add, Select.bare_add, same, Condition.rewritten, Condition.rewritten, Fragment.bare,
      Fragment.bare, text]
  | opening connector =>
    cases first
    cases second
    rw [Select.bare_startGroup, Select.bare_startGroup, same]
  | closing =>
    have closed := Select.bare_endGroup first
    rw [same, Select.bare_endGroup second] at closed
    exact (Except.ok.inj closed).symm

theorem replay_alike {s t s' t' : Select} {steps others : List PlanStep} (same : s.bare = t.bare)
    (alike : List.Forall₂ PlanStep.Alike steps others) (first : steps.foldlM replayStep s = .ok s')
    (second : others.foldlM replayStep t = .ok t') : s'.bare = t'.bare := by
  induction alike generalizing s t with
  | nil =>
    cases first
    cases second
    exact same
  | cons head _ ih =>
    rw [List.foldlM_cons] at first second
    obtain ⟨u, u_ok, first⟩ := bind_ok first
    obtain ⟨v, v_ok, second⟩ := bind_ok second
    exact ih (replayStep_alike same head u_ok v_ok) first second

/-- Plans of one shape have selections that differ in parameters only. -/
theorem selection_alike {first second : Plan} {d : Dialect} {paginate : Bool} {s t : Select}
    (alike : first.Alike second) (first_ok : first.selection d paginate = .ok s)
    (second_ok : second.selection d paginate = .ok t) : s.bare = t.bare := by
  obtain ⟨table, columns, joins, steps, table_ok, columns_ok, joins_ok, steps_ok, rfl⟩ :=
    selection_ok first_ok
  obtain ⟨table', columns', joins', steps', table_ok', columns_ok', joins_ok', steps_ok', rfl⟩ :=
    selection_ok second_ok
  rw [alike.schema] at table_ok
  cases Except.ok.inj (table_ok.symm.trans table_ok')
  rw [alike.columns] at columns_ok
  cases Except.ok.inj (columns_ok.symm.trans columns_ok')
  rw [alike.joins] at joins_ok
  cases Except.ok.inj (joins_ok.symm.trans joins_ok')
  have same : steps.bare = steps'.bare := replay_alike rfl alike.steps steps_ok steps_ok'
  have grouped : (steps.groupBy (first.group.map Column.parse)).1.bare =
      (steps'.groupBy (second.group.map Column.parse)).1.bare := by
    rw [Select.bare_groupBy, Select.bare_groupBy, same, alike.group]
  cases paginate with
  | false => exact grouped
  | true =>
    have ordered : ((steps.groupBy (first.group.map Column.parse)).1.orderBy first.order).1.bare =
        ((steps'.groupBy (second.group.map Column.parse)).1.orderBy second.order).1.bare := by
      rw [Select.bare_orderBy, Select.bare_orderBy, grouped, alike.order]
    rw [alike.limit, alike.offset]
    exact congrArg (fun s : Select => { s with limit := second.limit, offset := second.offset })
      ordered

end Plan

end Curator
