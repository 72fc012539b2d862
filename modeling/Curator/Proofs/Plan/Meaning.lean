import Curator.Proofs.Plan.Compiled
import Curator.Proofs.Plan.Readable
import Curator.Proofs.Sql.Tests
/-!
# What conditions mean

The truth of a filter, where the truth of its tests is given: at the top everything must hold, and
below a key that is a connector everything directly below is joined by it.  The steps of a filter,
replayed onto a selection, add conditions of that truth.
-/

set_option autoImplicit false

namespace Curator

open Sql Outcome Calendar

namespace Plan

/-! ## Tests -/

/-- The predicate of a test. -/
def predicate (d : Dialect) (column : Column) (operator : Operator) (operand : Value) :
    Except Failure Fragment := do
  let expr ← column.render d
  operator.render expr operand d.placeholder

/-- The truth of a test where `v` tells the truth of predicates. -/
def testTruth (d : Dialect) (v : List Token → Truth) (column : Column) (operator : Operator)
    (operand : Value) : Truth :=
  match predicate d column operator operand with
  | .ok f => v (f.tokens d)
  | .error _ => .unknown

/-- The truth of a step that tests. -/
def stepTruth (d : Dialect) (v : List Token → Truth) : PlanStep → Truth
  | .test _ column operator operand => testTruth d v column operator operand
  | .opening _ => .unknown
  | .closing => .unknown

/-! ## Filters -/

section

variable (leaf : String → String → Value → Truth)

mutual

/-- The members of a list of entries. -/
def itemsMembers : List Value → List Truth
  | [] => []
  | .dict entries :: rest => entriesMembers entries ++ itemsMembers rest
  | _ :: rest => itemsMembers rest

def entriesMembers : List (String × Value) → List Truth
  | [] => []
  | (key, value) :: rest => entryMembers key value ++ entriesMembers rest

/-- The members of an entry: a group, which counts as one unless there is no test below it, or each
test of a field. -/
def entryMembers (key : String) : Value → List Truth
  | .list items =>
    match groupConnector? key with
    | some connector => connector.joined (itemsMembers items)
    | none => []
  | .dict entries =>
    match groupConnector? key with
    | some connector => connector.joined (entriesMembers entries)
    | none => entries.map fun (name, operand) => leaf key name operand
  | _ => []

end

/-- The members of a filter where `leaf` tells the truth of the test of a field by an operator. -/
def filterMembers : Value → List Truth
  | .list items => itemsMembers leaf items
  | .dict entries => entriesMembers leaf entries
  | _ => []

end

/-- The truth of the test of a field, given as in a filter. -/
def fieldTruth (schema : Schema) (now : Moment) (d : Dialect) (v : List Token → Truth)
    (key name : String) (operand : Value) : Truth :=
  match rootColumn schema key, Operator.ofName? name, operand.expand now with
  | .ok column, some operator, .ok operand => testTruth d v column operator operand
  | _, _, _ => .unknown

/-! ## The other conditions -/

/-- The truth of what a mode asks of the mark of trashed rows. -/
def visibilityTruth (schema : Schema) (d : Dialect) (v : List Token → Truth)
    (mode : TrashedMode) : Truth :=
  let marker : Column := ⟨schema.deletedAtColumn, some schema.table, []⟩
  if schema.softDeletes then
    match mode with
    | .include_ => .yes
    | .only => testTruth d v marker .isNotNull (.bool true)
    | .exclude => testTruth d v marker .isNull (.bool true)
  else .yes

/-- The truth of a search: one of the targets holds the text. -/
def searchTruth (schema : Schema) (d : Dialect) (v : List Token → Truth) (search : String) :
    Truth :=
  if search = "" then .yes
  else Truth.any (schema.searchTargets.map fun name =>
    match rootColumn schema name with
    | .ok column => testTruth d v column .icontains (.str search)
    | .error _ => .unknown)

/-- The truth of being on the asked side of a cursor. -/
def cursorTruth (schema : Schema) (d : Dialect) (v : List Token → Truth) (spec : Spec) : Truth :=
  let compared := fun (operator : Operator) =>
    match Cursor.decode spec.cursor with
    | .ok value => testTruth d v ⟨schema.cursorField, some schema.table, []⟩ operator value
    | .error _ => .unknown
  match spec.method with
  | .page => .yes
  | .after => compared .gt
  | .before => compared .lt

end Plan

/-! ## Added conditions -/

namespace Sql.Select

/-- Conditions put one behind another where conditions are added now. -/
def addAll (s : Select) (cs : List Condition) : Select := cs.foldl add s

theorem addAll_append (s : Select) (first second : List Condition) :
    s.addAll (first ++ second) = (s.addAll first).addAll second := List.foldl_append

theorem addAll_dialect (s : Select) (cs : List Condition) : (s.addAll cs).dialect = s.dialect := by
  induction cs generalizing s with
  | nil => rfl
  | cons c rest ih =>
    have others := ih (s.add c)
    rw [add_dialect] at others
    exact others

/-- Outside of groups conditions go to the root. -/
theorem addAll_root {s : Select} (closed : s.openGroups = []) (cs : List Condition) :
    s.addAll cs = { s with root := s.root ++ cs } := by
  induction cs generalizing s with
  | nil => simp [addAll]
  | cons c rest ih =>
    have first : s.add c = { s with root := s.root ++ [c] } := by
      unfold add
      rw [closed]
    have others := ih (s := { s with root := s.root ++ [c] }) closed
    rw [addAll, List.foldl_cons, first]
    rw [addAll] at others
    rw [others]
    simp

/-- Inside of a group they go to its children. -/
theorem addAll_open (s : Select) (g : OpenGroup) (cs : List Condition) :
    addAll { s with openGroups := g :: s.openGroups } cs =
      { s with openGroups := { g with children := g.children ++ cs } :: s.openGroups } := by
  induction cs generalizing g with
  | nil => simp [addAll]
  | cons c rest ih =>
    have others := ih { g with children := g.children ++ [c] }
    rw [addAll] at others ⊢
    rw [List.foldl_cons]
    have first : add { s with openGroups := g :: s.openGroups } c =
        { s with openGroups := { g with children := g.children ++ [c] } :: s.openGroups } := rfl
    rw [first, others]
    simp

/-- What is added to a group that is closed again is added as one condition. -/
theorem endGroup_addAll (s : Select) (connector : Connector) (cs : List Condition) :
    ((s.startGroup connector).addAll cs).endGroup = .ok (s.add (.group connector cs)) := by
  rw [startGroup, addAll_open]
  rfl

end Sql.Select

namespace Plan

/-- Steps that add formulas of given truth values where conditions are added now. -/
def Adds (d : Dialect) (v : List Token → Truth) (connector : Connector) (steps : List PlanStep)
    (truths : List Truth) : Prop :=
  ∀ s t : Select, s.dialect = d → steps.foldlM replayStep s = .ok t →
    ∃ ps, t = s.addAll (Formula.conditions connector ps) ∧
      Formula.rowMembers (fun f => v (f.tokens d)) ps = truths

section

variable {d : Dialect} {v : List Token → Truth} {connector : Connector}
  {steps others : List PlanStep} {truths more : List Truth}

theorem adds_nil : Adds d v connector [] [] := by
  intro s t _ ok
  cases pure_ok ok
  exact ⟨[], rfl, rfl⟩

theorem Adds.append (first : Adds d v connector steps truths)
    (second : Adds d v connector others more) :
    Adds d v connector (steps ++ others) (truths ++ more) := by
  intro s t dialect ok
  obtain ⟨middle, front, back⟩ := foldlM_append_ok ok
  obtain ⟨ps, rfl, rfl⟩ := first s middle dialect front
  have same : (s.addAll (Formula.conditions connector ps)).dialect = d := by
    rw [Select.addAll_dialect, dialect]
  obtain ⟨qs, rfl, rfl⟩ := second _ t same back
  refine ⟨ps ++ qs, ?_, Formula.rowMembers_append _ ps qs⟩
  rw [Formula.conditions_append, Select.addAll_append]

theorem adds_test (column : Column) (operator : Operator) (operand : Value) :
    Adds d v connector [.test connector column operator operand]
      [testTruth d v column operator operand] := by
  intro s t dialect ok
  rw [List.foldlM_cons] at ok
  obtain ⟨u, tested, ok⟩ := bind_ok ok
  cases pure_ok ok
  obtain ⟨expr, expr_ok, tested⟩ := bind_ok tested
  obtain ⟨f, f_ok, tested⟩ := bind_ok tested
  cases pure_ok tested
  rw [dialect] at expr_ok f_ok
  have rendered : predicate d column operator operand = .ok f := by
    rw [predicate, expr_ok]
    exact f_ok
  refine ⟨[.test f], rfl, ?_⟩
  rw [testTruth, rendered]
  rfl

/-- Tests by one connector add what each of them tests. -/
theorem adds_tests
    (tests : ∀ step ∈ steps, ∃ column operator operand,
      step = .test connector column operator operand) :
    Adds d v connector steps (steps.map (stepTruth d v)) := by
  induction steps with
  | nil => exact adds_nil
  | cons step rest ih =>
    obtain ⟨column, operator, operand, rfl⟩ := tests step List.mem_cons_self
    have others := ih fun step member => tests step (List.mem_cons_of_mem _ member)
    exact (adds_test column operator operand).append others

/-- A group adds its members joined by the connector inside of it. -/
theorem adds_group {inner : Connector} (inside : Adds d v inner steps truths) :
    Adds d v connector (.opening connector :: steps ++ [.closing]) (inner.joined truths) := by
  intro s t dialect ok
  rw [List.cons_append, List.foldlM_cons] at ok
  obtain ⟨opened, opens, ok⟩ := bind_ok ok
  cases Except.ok.inj opens
  obtain ⟨filled, fills, ok⟩ := foldlM_append_ok ok
  rw [List.foldlM_cons] at ok
  obtain ⟨closed, closes, ok⟩ := bind_ok ok
  cases pure_ok ok
  have same : (s.startGroup connector).dialect = d := dialect
  obtain ⟨ps, rfl, rfl⟩ := inside (s.startGroup connector) filled same fills
  have ending := Select.endGroup_addAll s connector (Formula.conditions inner ps)
  cases Except.ok.inj (closes.symm.trans ending)
  refine ⟨[.joined inner ps], rfl, ?_⟩
  simp [Formula.rowMembers, Formula.members]

theorem adds_fieldTests {schema : Schema} {now : Moment} {key : String} {column : Column}
    {tests : List (String × Value)} (column_ok : rootColumn schema key = .ok column)
    (ok : fieldTests now connector key column tests = .ok steps) :
    Adds d v connector steps
      (tests.map fun (name, operand) => fieldTruth schema now d v key name operand) := by
  induction tests generalizing steps with
  | nil =>
    cases ok
    exact adds_nil
  | cons test rest ih =>
    obtain ⟨name, operand⟩ := test
    obtain ⟨operator, expanded, others, named, expands, others_ok, rfl⟩ := fieldTests_cons_ok ok
    have truth : fieldTruth schema now d v key name operand =
        testTruth d v column operator expanded := by
      rw [fieldTruth, column_ok, named, expands]
    have first : Adds d v connector [.test connector column operator expanded]
        [testTruth d v column operator expanded] := adds_test column operator expanded
    rw [← truth] at first
    exact first.append (ih others_ok)

/-- The entry of a group has its members joined by the connector its key names. -/
theorem entryMembers_group {leaf : String → String → Value → Truth} {key : String}
    {inner : Connector} (names : groupConnector? key = some inner) (w : Value) :
    entryMembers leaf key w = inner.joined (filterMembers leaf w) := by
  cases w with
  | list items => rw [entryMembers, names, filterMembers]
  | dict entries => rw [entryMembers, names, filterMembers]
  | _ => rfl

/-- The steps of a filter add what the filter means. -/
theorem adds_filter {schema : Schema} {now : Moment} {maxDepth : Option Int} {depth : Nat}
    {w : Value} (ok : filterSteps schema now maxDepth connector depth w = .ok steps) :
    Adds d v connector steps (filterMembers (fieldTruth schema now d v) w) := by
  have made := filterSteps_made ok
  clear ok
  induction made with
  | @plain connector depth w bare =>
    have empty : filterMembers (fieldTruth schema now d v) w = [] := by
      cases w with
      | list items => exact absurd rfl (bare.1 items)
      | dict entries => exact absurd rfl (bare.2 entries)
      | _ => rfl
    rw [empty]
    exact adds_nil
  | noItems => exact adds_nil
  | item _ _ head tail => exact head.append tail
  | noEntries => exact adds_nil
  | group names _ _ _ within tail =>
    rw [filterMembers, entriesMembers, entryMembers_group names]
    exact (adds_group within).append tail
  | field names _ column_ok tests_ok _ tail =>
    rw [filterMembers, entriesMembers, entryMembers, names]
    exact (adds_fieldTests column_ok tests_ok).append tail

theorem adds_search {schema : Schema} {search : String} (checked : schema.Checked)
    (ok : searchSteps schema search = .ok steps) : ∃ truths, Adds d v .and steps truths ∧
      Truth.all truths = searchTruth schema d v search := by
  rcases searchSteps_ok ok with ⟨empty, rfl⟩ | ⟨given, tests, rfl, made⟩
  · refine ⟨[], adds_nil, ?_⟩
    rw [searchTruth, if_pos empty]
    rfl
  · have each : ∀ step ∈ tests, ∃ column operator operand,
        step = .test .or column operator operand := by
      intro step member
      obtain ⟨name, _, column, _, rfl⟩ := mem_of_forall₂ made member
      exact ⟨column, .icontains, .str search, rfl⟩
    have truths : tests.map (stepTruth d v) = schema.searchTargets.map fun name =>
        match rootColumn schema name with
        | .ok column => testTruth d v column .icontains (.str search)
        | .error _ => .unknown := by
      generalize schema.searchTargets = names at made ⊢
      clear each ok
      induction made with
      | nil => rfl
      | cons head _ ih =>
        obtain ⟨column, column_ok, rfl⟩ := head
        rw [List.map_cons, List.map_cons, ih, column_ok]
        rfl
    refine ⟨_, adds_group (adds_tests each), ?_⟩
    rw [searchTruth, if_neg given, truths]
    cases targets : schema.searchTargets with
    | nil => exact absurd targets checked.searchTargets.1
    | cons first rest => exact Truth.all_singleton _

theorem adds_visibility {schema : Schema} {mode : TrashedMode} :
    ∃ truths, Adds d v .and (visibilitySteps schema mode) truths ∧
      Truth.all truths = visibilityTruth schema d v mode := by
  unfold visibilitySteps visibilityTruth
  cases schema.softDeletes with
  | false => exact ⟨[], adds_nil, rfl⟩
  | true =>
    cases mode with
    | include_ => exact ⟨[], adds_nil, rfl⟩
    | only => exact ⟨_, adds_test _ _ _, Truth.all_singleton _⟩
    | exclude => exact ⟨_, adds_test _ _ _, Truth.all_singleton _⟩

theorem adds_equality {schema : Schema} (equals : Record) :
    Adds d v .and (equalitySteps schema equals) (equals.map fun (name, value) =>
      testTruth d v ⟨name, some schema.table, []⟩ .eq value) := by
  have each : ∀ step ∈ equalitySteps schema equals, ∃ column operator operand,
      step = .test .and column operator operand := by
    intro step member
    obtain ⟨⟨name, value⟩, _, rfl⟩ := List.mem_map.mp member
    exact ⟨_, _, _, rfl⟩
  have added : Adds d v .and (equalitySteps schema equals) _ := adds_tests each
  rw [equalitySteps, List.map_map] at added
  exact added

theorem adds_cursor {schema : Schema} {spec : Spec} (ok : cursorSteps schema spec = .ok steps) :
    ∃ truths, Adds d v .and steps truths ∧ Truth.all truths = cursorTruth schema d v spec := by
  rcases cursorSteps_ok ok with ⟨page, rfl⟩ | ⟨value, operator, decodes, direction, rfl⟩
  · refine ⟨[], adds_nil, ?_⟩
    rw [cursorTruth, page]
    rfl
  · refine ⟨_, adds_test _ _ _, ?_⟩
    rw [Truth.all_singleton, cursorTruth, decodes]
    rcases direction with ⟨method, rfl⟩ | ⟨method, rfl⟩
    · rw [method]
    · rw [method]

end

end Plan

end Curator
