import Curator.Plan.Compile
import Curator.Proofs.Outcome
/-!
# Compiled plans

The parts that a plan is put together from when a request compiles.
-/

set_option autoImplicit false

namespace Curator.Plan

open Sql Outcome

/-- The fields a request asks for; without any it asks for all. -/
def askedFields (spec : Spec) : List String :=
  if spec.fields.isEmpty then ["*"] else spec.fields

/-- The parts of the plan of a request: the selection of its fields, and the steps of its filter, its
search and its cursor. -/
structure Compiled (setting : Setting) (schema : Schema) (spec : Spec) (trashed : TrashedMode)
    (listAll : Bool) (equals : Record) (plan : Plan) (selected : FieldSelection)
    (filter search cursor : List PlanStep) : Prop where
  fields_ok : FieldSelection.ofFields setting.registry
    (schema.limits setting.settings).relatedDepth.toInt schema (askedFields spec) = .ok selected
  filter_ok : filterSteps schema setting.now setting.settings.maxFilterDepth .and 0 spec.filter =
    .ok filter
  search_ok : searchSteps schema spec.search = .ok search
  cursor_ok : (if listAll then pure [] else cursorSteps schema spec) = .ok cursor
  schema_eq : plan.schema = schema
  columns_eq : plan.columns = selected.columns
  joins_eq : plan.joins = selected.joins
  related_eq : plan.related = selected.related
  steps_eq : plan.steps = selected.exclusions ++ filter ++ visibilitySteps schema trashed ++
    equalitySteps schema equals ++ search ++ cursor
  order_ok : sortOrder schema spec.sort = .ok plan.order
  group_ok : spec.group.mapM (groupColumn schema) = .ok plan.group
  limit_ok : (if listAll then pure none
    else effectiveLimit spec.limit (schema.limits setting.settings).default.toInt
      (schema.limits setting.settings).max.toInt) = .ok plan.limit
  offset_eq : plan.offset = if listAll then none else pageOffset spec plan.limit

theorem compile_ok {setting : Setting} {schema : Schema} {spec : Spec} {trashed : TrashedMode}
    {listAll : Bool} {equals : Record} {plan : Plan}
    (ok : compile setting schema spec trashed listAll equals = .ok plan) :
    ∃ selected filter search cursor,
      Compiled setting schema spec trashed listAll equals plan selected filter search cursor := by
  unfold compile at ok
  obtain ⟨selected, selected_ok, ok⟩ := bind_ok ok
  obtain ⟨filter, filter_ok, ok⟩ := bind_ok ok
  obtain ⟨search, search_ok, ok⟩ := bind_ok ok
  obtain ⟨order, order_ok, ok⟩ := bind_ok ok
  obtain ⟨group, group_ok, ok⟩ := bind_ok ok
  cases listAll with
  | true =>
    cases pure_ok ok
    exact ⟨selected, filter, search, [], selected_ok, filter_ok, search_ok, rfl, rfl, rfl, rfl, rfl,
      rfl, order_ok, group_ok, rfl, rfl⟩
  | false =>
    obtain ⟨limit, limit_ok, ok⟩ := bind_ok ok
    obtain ⟨cursor, cursor_ok, ok⟩ := bind_ok ok
    cases pure_ok ok
    exact ⟨selected, filter, search, cursor, selected_ok, filter_ok, search_ok, cursor_ok, rfl, rfl,
      rfl, rfl, rfl, order_ok, group_ok, limit_ok, rfl⟩

/-!
## Steps of filters

What the steps of a filter are made of when they are made: the parts of a list, of a mapping, of a
group and of a field.
-/

open Calendar

variable {schema : Schema} {now : Moment} {maxDepth : Option Int} {connector : Connector}
  {depth : Nat} {steps : List PlanStep}

theorem rootColumn_ok {name : String} {column : Column} (ok : rootColumn schema name = .ok column) :
    (jsonPath name).all Text.isJsonKey = true ∧
      column = ⟨baseField name, some schema.table, jsonPath name⟩ := by
  unfold rootColumn at ok
  simp only at ok
  split at ok
  · rename_i keys
    cases ok
    exact ⟨keys, rfl⟩
  · cases ok

theorem fieldTests_cons_ok {key name : String} {column : Column} {operand : Value}
    {rest : List (String × Value)}
    (ok : fieldTests now connector key column ((name, operand) :: rest) = .ok steps) :
    ∃ operator expanded others, Operator.ofName? name = some operator ∧
      operand.expand now = .ok expanded ∧
      fieldTests now connector key column rest = .ok others ∧
      steps = .test connector column operator expanded :: others := by
  rw [fieldTests] at ok
  split at ok
  · cases ok
  · rename_i operator named
    obtain ⟨expanded, expands, ok⟩ := bind_ok ok
    obtain ⟨others, others_ok, ok⟩ := bind_ok ok
    cases pure_ok ok
    exact ⟨operator, expanded, others, named, expands, others_ok, rfl⟩

theorem fieldSteps_ok {key : String} {value : Value}
    (ok : fieldSteps schema now connector key value = .ok steps) :
    ∃ tests column, value = .dict tests ∧ tests ≠ [] ∧ rootColumn schema key = .ok column ∧
      fieldTests now connector key column tests = .ok steps := by
  unfold fieldSteps at ok
  split at ok
  · rename_i first rest
    obtain ⟨column, column_ok, ok⟩ := bind_ok ok
    exact ⟨first :: rest, column, rfl, by simp, column_ok, ok⟩
  · cases ok

/-- An entry is a group or a field. -/
theorem entrySteps_ok {key : String} {value : Value}
    {inside : Connector → Except Failure (List PlanStep)}
    (ok : entrySteps schema now maxDepth connector depth key value inside = .ok steps) :
    (∃ inner others, groupConnector? key = some inner ∧ checkDepth maxDepth depth = .ok () ∧
      inside inner = .ok others ∧ steps = .opening connector :: others ++ [.closing]) ∨
    (groupConnector? key = none ∧ schema.isReadable key = true ∧
      fieldSteps schema now connector key value = .ok steps) := by
  unfold entrySteps at ok
  split at ok
  · rename_i inner names
    obtain ⟨_, shallow, ok⟩ := bind_ok ok
    obtain ⟨others, others_ok, ok⟩ := bind_ok ok
    cases pure_ok ok
    exact Or.inl ⟨inner, others, names, shallow, others_ok, rfl⟩
  · rename_i names
    split at ok
    · rename_i readable
      exact Or.inr ⟨names, readable, ok⟩
    · cases ok

theorem filterItems_cons_ok {v : Value} {rest : List Value}
    (ok : filterItems schema now maxDepth connector depth (v :: rest) = .ok steps) :
    ∃ entries first others, v = .dict entries ∧
      filterEntries schema now maxDepth connector depth entries = .ok first ∧
      filterItems schema now maxDepth connector depth rest = .ok others ∧
      steps = first ++ others := by
  cases v with
  | dict entries =>
    rw [filterItems] at ok
    obtain ⟨first, first_ok, ok⟩ := bind_ok ok
    obtain ⟨others, others_ok, ok⟩ := bind_ok ok
    cases pure_ok ok
    exact ⟨entries, first, others, rfl, first_ok, others_ok, rfl⟩
  | _ => simp [filterItems] at ok

theorem filterEntries_cons_ok {key : String} {v : Value} {rest : List (String × Value)}
    (ok : filterEntries schema now maxDepth connector depth ((key, v) :: rest) = .ok steps) :
    ∃ first others, filterEntry schema now maxDepth connector depth key v = .ok first ∧
      filterEntries schema now maxDepth connector depth rest = .ok others ∧
      steps = first ++ others := by
  rw [filterEntries] at ok
  obtain ⟨first, first_ok, ok⟩ := bind_ok ok
  obtain ⟨others, others_ok, ok⟩ := bind_ok ok
  cases pure_ok ok
  exact ⟨first, others, first_ok, others_ok, rfl⟩

/-- An entry that makes steps is a group around a filter, or a field. -/
theorem filterEntry_ok {key : String} {v : Value}
    (ok : filterEntry schema now maxDepth connector depth key v = .ok steps) :
    (∃ inner inside, groupConnector? key = some inner ∧ checkDepth maxDepth depth = .ok () ∧
      filterSteps schema now maxDepth inner (depth + 1) v = .ok inside ∧
      steps = .opening connector :: inside ++ [.closing]) ∨
    (groupConnector? key = none ∧ schema.isReadable key = true ∧
      fieldSteps schema now connector key v = .ok steps) := by
  cases v with
  | list items =>
    rw [filterEntry] at ok
    exact entrySteps_ok ok
  | dict entries =>
    rw [filterEntry] at ok
    exact entrySteps_ok ok
  | _ =>
    simp only [filterEntry] at ok
    rcases entrySteps_ok ok with ⟨_, _, _, _, inside, _⟩ | field
    · cases inside
    · exact Or.inr field

theorem filterEntry_group {key : String} {v : Value} (connects : groupConnector? key ≠ none)
    (ok : filterEntry schema now maxDepth connector depth key v = .ok steps) :
    ∃ inner inside, groupConnector? key = some inner ∧
      filterSteps schema now maxDepth inner (depth + 1) v = .ok inside ∧
      steps = .opening connector :: inside ++ [.closing] := by
  rcases filterEntry_ok ok with ⟨inner, inside, names, _, inside_ok, made⟩ | ⟨names, _, _⟩
  · exact ⟨inner, inside, names, inside_ok, made⟩
  · exact absurd names connects

theorem filterEntry_field {key : String} {v : Value} (names : groupConnector? key = none)
    (ok : filterEntry schema now maxDepth connector depth key v = .ok steps) :
    schema.isReadable key = true ∧ fieldSteps schema now connector key v = .ok steps := by
  rcases filterEntry_ok ok with ⟨inner, _, connects, _⟩ | ⟨_, readable, ok⟩
  · rw [names] at connects
    cases connects
  · exact ⟨readable, ok⟩

theorem filterSteps_plain_ok {v : Value} (plain : v.Plain)
    (ok : filterSteps schema now maxDepth connector depth v = .ok steps) : steps = [] := by
  cases v with
  | null => exact (Except.ok.inj ok).symm
  | bool _ | int _ | float _ | str _ | bytes _ =>
    simp only [filterSteps] at ok
    split at ok <;> cases ok
    rfl
  | date _ | moment _ => cases ok
  | list items => exact absurd rfl (plain.1 items)
  | dict entries => exact absurd rfl (plain.2 entries)

/-- How the steps of a filter come about: those of its entries, one behind another, each of them a
group around the steps of a filter or the tests of a readable field. -/
inductive FilterMade (schema : Schema) (now : Moment) (maxDepth : Option Int) :
    Connector → Nat → Value → List PlanStep → Prop where
  | plain {connector : Connector} {depth : Nat} {v : Value} (bare : v.Plain) :
      FilterMade schema now maxDepth connector depth v []
  | noItems {connector : Connector} {depth : Nat} :
      FilterMade schema now maxDepth connector depth (.list []) []
  | item {connector : Connector} {depth : Nat} {entries : List (String × Value)} {rest : List Value}
      {first others : List PlanStep}
      (head : FilterMade schema now maxDepth connector depth (.dict entries) first)
      (tail : FilterMade schema now maxDepth connector depth (.list rest) others) :
      FilterMade schema now maxDepth connector depth (.list (.dict entries :: rest))
        (first ++ others)
  | noEntries {connector : Connector} {depth : Nat} :
      FilterMade schema now maxDepth connector depth (.dict []) []
  | group {connector inner : Connector} {depth : Nat} {key : String} {v : Value}
      {rest : List (String × Value)} {inside others : List PlanStep}
      (names : groupConnector? key = some inner) (shallow : checkDepth maxDepth depth = .ok ())
      (within : FilterMade schema now maxDepth inner (depth + 1) v inside)
      (tail : FilterMade schema now maxDepth connector depth (.dict rest) others) :
      FilterMade schema now maxDepth connector depth (.dict ((key, v) :: rest))
        (.opening connector :: inside ++ [.closing] ++ others)
  | field {connector : Connector} {depth : Nat} {key : String} {tests rest : List (String × Value)}
      {column : Column} {first others : List PlanStep} (names : groupConnector? key = none)
      (readable : schema.isReadable key = true) (column_ok : rootColumn schema key = .ok column)
      (tests_ok : fieldTests now connector key column tests = .ok first)
      (tail : FilterMade schema now maxDepth connector depth (.dict rest) others) :
      FilterMade schema now maxDepth connector depth (.dict ((key, .dict tests) :: rest))
        (first ++ others)

theorem filterSteps_made {v : Value}
    (ok : filterSteps schema now maxDepth connector depth v = .ok steps) :
    FilterMade schema now maxDepth connector depth v steps := by
  have all : (∀ (v : Value) (connector : Connector) (depth : Nat) (steps : List PlanStep),
      filterSteps schema now maxDepth connector depth v = .ok steps →
        FilterMade schema now maxDepth connector depth v steps) ∧
      (∀ (items : List Value) (connector : Connector) (depth : Nat) (steps : List PlanStep),
        filterItems schema now maxDepth connector depth items = .ok steps →
          FilterMade schema now maxDepth connector depth (.list items) steps) ∧
      ∀ (entries : List (String × Value)) (connector : Connector) (depth : Nat)
        (steps : List PlanStep),
        filterEntries schema now maxDepth connector depth entries = .ok steps →
          FilterMade schema now maxDepth connector depth (.dict entries) steps := by
    refine Value.nested_induction ?plain ?list ?dict ?items_nil ?items_cons ?entries_nil
      ?entries_cons
    case plain =>
      intro v bare connector depth steps ok
      rw [filterSteps_plain_ok bare ok]
      exact .plain bare
    case list => exact fun _ within => within
    case dict => exact fun _ within => within
    case items_nil =>
      intro connector depth steps ok
      rw [filterItems] at ok
      cases ok
      exact .noItems
    case items_cons =>
      intro v rest _ entriesOf restOf connector depth steps ok
      obtain ⟨entries, first, others, rfl, first_ok, others_ok, rfl⟩ := filterItems_cons_ok ok
      exact .item (entriesOf entries rfl connector depth first first_ok)
        (restOf connector depth others others_ok)
    case entries_nil =>
      intro connector depth steps ok
      rw [filterEntries] at ok
      cases ok
      exact .noEntries
    case entries_cons =>
      intro key v rest valueOf restOf connector depth steps ok
      obtain ⟨first, others, first_ok, others_ok, rfl⟩ := filterEntries_cons_ok ok
      have tail := restOf connector depth others others_ok
      rcases filterEntry_ok first_ok with
        ⟨inner, inside, names, shallow, inside_ok, rfl⟩ | ⟨names, readable, field⟩
      · exact .group names shallow (valueOf inner (depth + 1) inside inside_ok) tail
      · obtain ⟨tests, column, rfl, _, column_ok, tests_ok⟩ := fieldSteps_ok field
        exact .field names readable column_ok tests_ok tail
  exact all.1 v connector depth steps ok

end Curator.Plan
