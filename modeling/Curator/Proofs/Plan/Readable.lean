import Curator.Proofs.Database.Recorded
import Curator.Proofs.Plan.Compiled
import Curator.Proofs.Plan.Fields
/-!
# What a plan reads

No request reaches a column that its resource does not show: what is selected is readable where it is
taken from, and filters, searches, cursors, orders, groups and aggregates go by readable columns of
the root.
-/

set_option autoImplicit false

namespace Curator

open Sql Outcome Calendar

/-! ## Conditions -/

/-- A column of the root that can be read; of keys inside a column, the column counts. -/
def Schema.Shows (schema : Schema) (column : Column) : Prop :=
  column.table = some schema.table ∧ column.name ∈ schema.readable

/-- A step whose column, if it tests one, is a readable column of the root. -/
def PlanStep.OnReadable (schema : Schema) : PlanStep → Prop
  | .test _ column _ _ => schema.Shows column
  | .opening _ => True
  | .closing => True

namespace Plan

variable {schema : Schema} {now : Moment} {maxDepth : Option Int}

theorem onReadable_append {first second : List PlanStep}
    (before : ∀ step ∈ first, step.OnReadable schema)
    (after : ∀ step ∈ second, step.OnReadable schema) :
    ∀ step ∈ first ++ second, step.OnReadable schema := by
  intro step member
  rcases List.mem_append.mp member with member | member
  · exact before step member
  · exact after step member

theorem rootColumn_shows {name : String} {column : Column}
    (readable : baseField name ∈ schema.readable) (ok : rootColumn schema name = .ok column) :
    schema.Shows column := by
  obtain ⟨_, rfl⟩ := rootColumn_ok ok
  exact ⟨rfl, readable⟩

theorem fieldTests_onReadable {connector : Connector} {key : String} {column : Column}
    {tests : List (String × Value)} {steps : List PlanStep} (shows : schema.Shows column)
    (ok : fieldTests now connector key column tests = .ok steps) :
    ∀ step ∈ steps, step.OnReadable schema := by
  induction tests generalizing steps with
  | nil =>
    cases ok
    exact fun _ member => nomatch member
  | cons entry rest ih =>
    obtain ⟨operator, expanded, others, _, _, others_ok, rfl⟩ := fieldTests_cons_ok ok
    intro step member
    rcases List.mem_cons.mp member with rfl | member
    · exact shows
    · exact ih others_ok step member

theorem onReadable_group {connector : Connector} {inside : List PlanStep}
    (within : ∀ step ∈ inside, step.OnReadable schema) :
    ∀ step ∈ .opening connector :: inside ++ [.closing], step.OnReadable schema := by
  have opening : ∀ step ∈ [PlanStep.opening connector], step.OnReadable schema := by
    intro step member
    rw [List.mem_singleton.mp member]
    trivial
  have closing : ∀ step ∈ [PlanStep.closing], step.OnReadable schema := by
    intro step member
    rw [List.mem_singleton.mp member]
    trivial
  exact onReadable_append (onReadable_append opening within) closing

/-- However a filter nests, each of its conditions tests a readable column of the root. -/
theorem filterSteps_onReadable {connector : Connector} {depth : Nat} {v : Value}
    {steps : List PlanStep}
    (ok : filterSteps schema now maxDepth connector depth v = .ok steps) :
    ∀ step ∈ steps, step.OnReadable schema := by
  have made := filterSteps_made ok
  clear ok
  induction made with
  | plain _ => exact fun _ member => nomatch member
  | noItems => exact fun _ member => nomatch member
  | item _ _ head tail => exact onReadable_append head tail
  | noEntries => exact fun _ member => nomatch member
  | group _ _ _ _ within tail => exact onReadable_append (onReadable_group within) tail
  | field _ readable column_ok tests_ok _ tail =>
    have shows := rootColumn_shows (List.contains_iff_mem.mp readable) column_ok
    exact onReadable_append (fieldTests_onReadable shows tests_ok) tail

theorem searchSteps_ok {search : String} {steps : List PlanStep}
    (ok : searchSteps schema search = .ok steps) :
    (search = "" ∧ steps = []) ∨
    (search ≠ "" ∧ ∃ tests, steps = .opening .and :: tests ++ [.closing] ∧
      List.Forall₂ (fun name test => ∃ column, rootColumn schema name = .ok column ∧
        test = PlanStep.test .or column .icontains (.str search)) schema.searchTargets tests) := by
  unfold searchSteps at ok
  split at ok
  · rename_i empty
    cases ok
    exact Or.inl ⟨empty, rfl⟩
  · rename_i given
    obtain ⟨tests, tests_ok, ok⟩ := bind_ok ok
    cases pure_ok ok
    refine Or.inr ⟨given, tests, rfl, (mapM_ok tests_ok).imp ?_⟩
    intro name test made
    obtain ⟨column, column_ok, made⟩ := bind_ok made
    exact ⟨column, column_ok, (pure_ok made).symm⟩

theorem searchSteps_onReadable (checked : schema.Checked) {search : String}
    {steps : List PlanStep} (ok : searchSteps schema search = .ok steps) :
    ∀ step ∈ steps, step.OnReadable schema := by
  rcases searchSteps_ok ok with ⟨_, rfl⟩ | ⟨_, tests, rfl, made⟩
  · exact fun _ member => nomatch member
  · refine onReadable_append ?_ (fun step member => ?_)
    · intro step member
      rcases List.mem_cons.mp member with rfl | member
      · trivial
      · obtain ⟨name, target, column, column_ok, rfl⟩ :=
          mem_of_forall₂ made member
        exact rootColumn_shows (checked.searchTargets.2 name target) column_ok
    · rw [List.mem_singleton.mp member]
      trivial

theorem cursorSteps_ok {spec : Spec} {steps : List PlanStep}
    (ok : cursorSteps schema spec = .ok steps) :
    (spec.method = .page ∧ steps = []) ∨
    ∃ value operator, Cursor.decode spec.cursor = .ok value ∧
      (spec.method = .after ∧ operator = .gt ∨ spec.method = .before ∧ operator = .lt) ∧
      steps = [.test .and ⟨schema.cursorField, some schema.table, []⟩ operator value] := by
  unfold cursorSteps at ok
  simp only at ok
  split at ok
  · rename_i method
    cases ok
    exact Or.inl ⟨method, rfl⟩
  · rename_i method
    obtain ⟨value, decodes, ok⟩ := bind_ok ok
    exact Or.inr ⟨value, .gt, decodes, Or.inl ⟨method, rfl⟩, (pure_ok ok).symm⟩
  · rename_i method
    obtain ⟨value, decodes, ok⟩ := bind_ok ok
    exact Or.inr ⟨value, .lt, decodes, Or.inr ⟨method, rfl⟩, (pure_ok ok).symm⟩

theorem cursorSteps_onReadable (checked : schema.Checked) {spec : Spec} {steps : List PlanStep}
    (ok : cursorSteps schema spec = .ok steps) : ∀ step ∈ steps, step.OnReadable schema := by
  rcases cursorSteps_ok ok with ⟨_, rfl⟩ | ⟨value, operator, _, _, rfl⟩
  · exact fun _ member => nomatch member
  · intro step member
    rw [List.mem_singleton.mp member]
    exact ⟨rfl, checked.cursorField⟩

/-- The steps for visibility test the mark of trashed rows and nothing else. -/
theorem visibilitySteps_marker {mode : TrashedMode} :
    ∀ step ∈ visibilitySteps schema mode, schema.softDeletes = true ∧ ∃ operator,
      step = .test .and ⟨schema.deletedAtColumn, some schema.table, []⟩ operator (.bool true) := by
  unfold visibilitySteps
  intro step member
  split at member
  · cases member
  · rename_i keeps
    refine ⟨by simpa using keeps, ?_⟩
    cases mode with
    | include_ => cases member
    | only => exact ⟨.isNotNull, List.mem_singleton.mp member⟩
    | exclude => exact ⟨.isNull, List.mem_singleton.mp member⟩

/-! ## Order and groups -/

theorem Column.parse_qualified {table : String} (apart : '.' ∉ table.toList) (name : String) :
    Column.parse (table ++ "." ++ name) = ⟨name, some table, []⟩ := by
  have cut : Text.splitOnce? (table ++ "." ++ name) "." = some (table, name) := by
    have lists : (table ++ "." ++ name).toList = table.toList ++ '.' :: name.toList := by simp
    have dot : ".".toList = ['.'] := rfl
    rw [Text.splitOnce?, lists, dot, Text.cut?_append apart]
    simp
  rw [Column.parse, cut]

/-- The signs that may stand before a field of an order. -/
def isSign (c : Char) : Bool := c == '+' || c == '-'

/-- The column that a field of an order stands for. -/
def orderColumn (item : String) : Column := Column.parse (Text.dropLeading isSign item)

theorem orderColumn_qualified {table : String} (identifier : Text.isIdentifier table = true)
    (minus : Bool) (name : String) :
    orderColumn ((if minus then "-" else "") ++ table ++ "." ++ name) = ⟨name, some table, []⟩ := by
  have unsigned : ∀ c ∈ table.toList, isSign c = false := by
    intro c member
    rcases Text.isNameChar_of_isIdentifier identifier member with rest | final
    · by_contra sign
      simp only [isSign, Bool.not_eq_false, Bool.or_eq_true, beq_iff_eq] at sign
      rcases sign with rfl | rfl
      · exact absurd rest (by decide)
      · exact absurd rest (by decide)
    · rw [final]
      decide
  have bare : (table.toList ++ '.' :: name.toList).dropWhile isSign =
      table.toList ++ '.' :: name.toList := by
    cases chars : table.toList with
    | nil => rfl
    | cons c rest => simp [unsigned c (by rw [chars]; exact List.mem_cons_self)]
  have dropped : Text.dropLeading isSign ((if minus then "-" else "") ++ table ++ "." ++ name) =
      table ++ "." ++ name := by
    apply String.toList_inj.mp
    cases minus with
    | false => simpa [Text.dropLeading] using bare
    | true => simpa [Text.dropLeading, isSign] using bare
  rw [orderColumn, dropped]
  exact Column.parse_qualified (Text.not_mem_of_isIdentifier identifier (by decide)) name

theorem sortItem_ok {token item : String} (checked : schema.Checked)
    (ok : sortItem schema token = .ok item) :
    ∃ name ∈ schema.readable, orderColumn item = ⟨name, some schema.table, []⟩ := by
  unfold sortItem at ok
  simp only at ok
  split at ok
  · rename_i readable
    cases ok
    exact ⟨_, List.contains_iff_mem.mp readable, orderColumn_qualified checked.table _ _⟩
  · cases ok

theorem sortOrder_ok {tokens order : List String} (checked : schema.Checked)
    (ok : sortOrder schema tokens = .ok order) :
    ∀ item ∈ order, ∃ name ∈ schema.readable, orderColumn item = ⟨name, some schema.table, []⟩ := by
  unfold sortOrder at ok
  split at ok
  · cases ok
    intro item member
    rw [List.mem_singleton.mp member]
    have plain := orderColumn_qualified checked.table false schema.primaryKey
    exact ⟨schema.primaryKey, checked.primaryKey, by simpa using plain⟩
  · intro item member
    obtain ⟨token, _, made⟩ := mem_of_mapM_ok ok member
    exact sortItem_ok checked made

theorem groupColumn_ok {name item : String} (checked : schema.Checked)
    (ok : groupColumn schema name = .ok item) :
    name ∈ schema.readable ∧ Column.parse item = ⟨name, some schema.table, []⟩ := by
  unfold groupColumn at ok
  split at ok
  · rename_i readable
    cases ok
    have apart : '.' ∉ schema.table.toList :=
      Text.not_mem_of_isIdentifier checked.table (by decide)
    exact ⟨List.contains_iff_mem.mp readable, Column.parse_qualified apart name⟩
  · cases ok

end Plan

end Curator

/-!
## Balanced steps

The conditions of a request are put together so that every group that is opened is closed again, and
of keys inside of columns only checked ones are named.  So nothing but its tests can stop such steps
from being replayed.
-/

namespace Curator.Plan

open Sql Outcome Calendar

/-! ### Groups -/

/-- Steps whose groups are all closed again. -/
inductive Balanced : List PlanStep → Prop where
  | nil : Balanced []
  | test (connector : Connector) (column : Column) (operator : Operator) (operand : Value) :
      Balanced [.test connector column operator operand]
  | append {first second : List PlanStep} (before : Balanced first) (after : Balanced second) :
      Balanced (first ++ second)
  | group {steps : List PlanStep} (connector : Connector) (inside : Balanced steps) :
      Balanced (.opening connector :: steps ++ [.closing])

def IsTest (step : PlanStep) : Prop :=
  ∃ connector column operator operand, step = .test connector column operator operand

theorem balanced_tests {steps : List PlanStep} (tests : ∀ step ∈ steps, IsTest step) :
    Balanced steps := by
  induction steps with
  | nil => exact .nil
  | cons step rest ih =>
    obtain ⟨connector, column, operator, operand, rfl⟩ := tests step List.mem_cons_self
    have others := ih fun step member => tests step (List.mem_cons_of_mem _ member)
    exact .append (.test connector column operator operand) others

theorem add_openGroups (s : Select) (c : Condition) :
    (s.add c).openGroups.length = s.openGroups.length ∧ (s.add c).table = s.table := by
  unfold Select.add
  split
  · rename_i closed
    rw [closed]
    exact ⟨rfl, rfl⟩
  · rename_i innermost outer opened
    rw [opened]
    exact ⟨rfl, rfl⟩

/-- Balanced steps leave as many groups open as there were, and fail only where a test fails. -/
theorem Balanced.replays {P : Failure → Prop} {steps : List PlanStep} (balanced : Balanced steps)
    (each : ∀ connector column operator operand,
      PlanStep.test connector column operator operand ∈ steps →
        ∀ s : Select, FailsOnly (s.where_ connector column operator operand) P) (s : Select) :
    FailsOnly (steps.foldlM replayStep s) P ∧ ∀ t, steps.foldlM replayStep s = .ok t →
      t.openGroups.length = s.openGroups.length ∧ t.table = s.table := by
  induction balanced generalizing s with
  | nil =>
    refine ⟨failsOnly_pure _, fun t ok => ?_⟩
    cases pure_ok ok
    exact ⟨rfl, rfl⟩
  | test connector column operator operand =>
    rw [List.foldlM_cons]
    have tested := each connector column operator operand List.mem_cons_self s
    refine ⟨tested.bind fun _ _ => failsOnly_pure _, fun t ok => ?_⟩
    obtain ⟨u, added, ok⟩ := bind_ok ok
    cases pure_ok ok
    obtain ⟨expr, _, added⟩ := bind_ok added
    obtain ⟨fragment, _, added⟩ := bind_ok added
    cases pure_ok added
    exact add_openGroups s _
  | append _ _ first second =>
    rw [List.foldlM_append]
    have front := first (fun connector column operator operand member =>
      each connector column operator operand (List.mem_append_left _ member)) s
    have back := second fun connector column operator operand member =>
      each connector column operator operand (List.mem_append_right _ member)
    refine ⟨front.1.bind fun u _ => (back u).1, fun t ok => ?_⟩
    obtain ⟨u, front_ok, ok⟩ := bind_ok ok
    obtain ⟨groups, table⟩ := front.2 u front_ok
    obtain ⟨groups', table'⟩ := (back u).2 t ok
    exact ⟨groups'.trans groups, table'.trans table⟩
  | @group steps connector _ ih =>
    have inside := ih (fun inner column operator operand member =>
      each inner column operator operand
        (List.mem_append_left _ (List.mem_cons_of_mem _ member))) (s.startGroup connector)
    rw [List.cons_append, List.foldlM_cons, replayStep, ok_bind, List.foldlM_append]
    -- the group that was opened is still open at its end
    have closes : ∀ u, steps.foldlM replayStep (s.startGroup connector) = .ok u →
        ∃ g outer, u.openGroups = g :: outer ∧ outer.length = s.openGroups.length ∧
          u.table = s.table := by
      intro u filled
      obtain ⟨groups, table⟩ := inside.2 u filled
      have opened : u.openGroups.length = s.openGroups.length + 1 := groups
      cases found : u.openGroups with
      | nil =>
        rw [found] at opened
        simp at opened
      | cons g outer =>
        rw [found, List.length_cons] at opened
        exact ⟨g, outer, rfl, by omega, table⟩
    constructor
    · apply inside.1.bind
      intro u filled
      obtain ⟨g, outer, opened, _, _⟩ := closes u filled
      rw [List.foldlM_cons, replayStep, Select.endGroup, opened, ok_bind]
      exact failsOnly_pure _
    · intro t ok
      obtain ⟨u, filled, ok⟩ := bind_ok ok
      obtain ⟨g, outer, opened, depth, table⟩ := closes u filled
      rw [List.foldlM_cons, replayStep, Select.endGroup, opened, ok_bind] at ok
      cases pure_ok ok
      obtain ⟨groups, same⟩ := add_openGroups { u with openGroups := outer }
        (.group g.connector g.children)
      exact ⟨groups.trans depth, same.trans table⟩

/-! ### Conditions -/

/-- A step whose keys inside of a column have been checked. -/
def Keyed (step : PlanStep) : Prop :=
  ∀ connector column operator operand, step = .test connector column operator operand →
    ∀ key ∈ column.path, Text.isJsonKey key = true

theorem keyed_of_bare {connector : Connector} {name : String} {table : Option String}
    {operator : Operator} {operand : Value} :
    Keyed (.test connector ⟨name, table, []⟩ operator operand) := by
  intro _ _ _ _ same
  cases same
  exact nofun

theorem keyed_root {schema : Schema} {name : String} {column : Column} {connector : Connector}
    {operator : Operator} {operand : Value} (ok : rootColumn schema name = .ok column) :
    Keyed (.test connector column operator operand) := by
  obtain ⟨keys, rfl⟩ := rootColumn_ok ok
  intro _ _ _ _ same
  cases same
  exact List.all_eq_true.mp keys

theorem keyed_append {first second : List PlanStep} (before : ∀ step ∈ first, Keyed step)
    (after : ∀ step ∈ second, Keyed step) : ∀ step ∈ first ++ second, Keyed step := by
  intro step member
  rcases List.mem_append.mp member with member | member
  · exact before step member
  · exact after step member

theorem keyed_group {connector : Connector} {steps : List PlanStep}
    (inside : ∀ step ∈ steps, Keyed step) :
    ∀ step ∈ .opening connector :: steps ++ [.closing], Keyed step := by
  have opening : Keyed (.opening connector) := nofun
  have closing : Keyed .closing := nofun
  apply keyed_append
  · exact List.forall_mem_cons.mpr ⟨opening, inside⟩
  · exact List.forall_mem_singleton.mpr closing

theorem fieldTests_made {now : Moment} {connector : Connector} {key : String} {column : Column}
    {tests : List (String × Value)} {steps : List PlanStep}
    (ok : fieldTests now connector key column tests = .ok steps) :
    ∀ step ∈ steps, ∃ operator operand, step = .test connector column operator operand := by
  induction tests generalizing steps with
  | nil =>
    cases ok
    simp
  | cons test rest ih =>
    obtain ⟨name, operand⟩ := test
    obtain ⟨operator, expanded, others, _, _, others_ok, rfl⟩ := fieldTests_cons_ok ok
    exact List.forall_mem_cons.mpr ⟨⟨operator, expanded, rfl⟩, ih others_ok⟩

/-- The steps of a filter are balanced, and their keys have been checked. -/
theorem filterSteps_written {schema : Schema} {now : Moment} {maxDepth : Option Int}
    {connector : Connector} {depth : Nat} {v : Value} {steps : List PlanStep}
    (ok : filterSteps schema now maxDepth connector depth v = .ok steps) :
    Balanced steps ∧ ∀ step ∈ steps, Keyed step := by
  have made := filterSteps_made ok
  clear ok
  induction made with
  | plain _ => exact ⟨.nil, by simp⟩
  | noItems => exact ⟨.nil, by simp⟩
  | noEntries => exact ⟨.nil, by simp⟩
  | item _ _ head tail => exact ⟨.append head.1 tail.1, keyed_append head.2 tail.2⟩
  | group _ _ _ _ within tail =>
    exact ⟨.append (.group _ within.1) tail.1, keyed_append (keyed_group within.2) tail.2⟩
  | field _ _ column_ok tests_ok _ tail =>
    have tests := fieldTests_made tests_ok
    refine ⟨.append (balanced_tests fun step member => ?_) tail.1, keyed_append ?_ tail.2⟩
    · obtain ⟨operator, operand, rfl⟩ := tests step member
      exact ⟨_, _, operator, operand, rfl⟩
    · intro step member
      obtain ⟨operator, operand, rfl⟩ := tests step member
      exact keyed_root column_ok

theorem searchSteps_written {schema : Schema} {search : String} {steps : List PlanStep}
    (ok : searchSteps schema search = .ok steps) : Balanced steps ∧ ∀ step ∈ steps, Keyed step := by
  rcases searchSteps_ok ok with ⟨_, rfl⟩ | ⟨_, tests, rfl, made⟩
  · exact ⟨.nil, by simp⟩
  · have each : ∀ step ∈ tests, IsTest step ∧ Keyed step := by
      intro step member
      obtain ⟨name, _, column, column_ok, rfl⟩ := mem_of_forall₂ made member
      exact ⟨⟨_, _, _, _, rfl⟩, keyed_root column_ok⟩
    constructor
    · exact .group _ (balanced_tests fun step member => (each step member).1)
    · exact keyed_group fun step member => (each step member).2

theorem cursorSteps_written {schema : Schema} {spec : Spec} {steps : List PlanStep}
    (ok : cursorSteps schema spec = .ok steps) : Balanced steps ∧ ∀ step ∈ steps, Keyed step := by
  rcases cursorSteps_ok ok with ⟨_, rfl⟩ | ⟨value, operator, _, _, rfl⟩
  · exact ⟨.nil, by simp⟩
  · refine ⟨.test _ _ _ _, fun step member => ?_⟩
    rw [List.mem_singleton.mp member]
    exact keyed_of_bare

end Curator.Plan
