import Curator.Proofs.Plan.Reached
/-!
# Trashed rows of joined resources

One condition for each alias that columns are taken from keeps the trashed rows of a related
resource out.  A resource that is only passed through on the way to another is joined without one.
-/

set_option autoImplicit false

namespace Curator

open Sql

/-- The column that a step tests. -/
def PlanStep.column? : PlanStep → Option Column
  | .test _ column _ _ => some column
  | .opening _ => none
  | .closing => none

/-- Whether a step tests a column of a table or alias. -/
def PlanStep.tests (label : String) (step : PlanStep) : Bool :=
  step.column?.any fun column => column.table == some label

theorem PlanStep.OnReadable.table {schema : Schema} {step : PlanStep} {column : Column}
    (shown : step.OnReadable schema) (tested : step.column? = some column) :
    column.table = some schema.table := by
  cases step with
  | test connector other operator operand =>
    cases tested
    exact shown.1
  | opening => cases tested
  | closing => cases tested

namespace FieldSelection

/-- Each alias that has been dealt with is tested by one condition, and no other alias by any. -/
structure ExcludesOnce (s : FieldSelection) : Prop where
  distinct : s.excluded.Nodup
  counted : ∀ label, s.exclusions.countP (·.tests label) = s.excluded.count label

section

variable {registry : Registry} {root : Schema} {maxDepth : Int} {s t : FieldSelection}

theorem marker_tests (schema : Schema) (label other : String) :
    (marker schema label).tests other = (label == other) := by
  simp [marker, PlanStep.tests, PlanStep.column?]

theorem ExcludesOnce.excludeTrashed (once : s.ExcludesOnce) (schema : Schema) (label : String) :
    (s.excludeTrashed schema label).ExcludesOnce := by
  rcases excludeTrashed_eq s schema label with ⟨_, same⟩ | ⟨_, fresh, same⟩
  · rw [same]
    exact once
  · rw [same]
    constructor
    · rw [List.nodup_append]
      refine ⟨once.distinct, List.nodup_singleton _, ?_⟩
      intro earlier isEarlier new isNew equal
      rw [equal, List.mem_singleton.mp isNew] at isEarlier
      exact fresh isEarlier
    · intro other
      have new := marker_tests schema label other
      unfold marker at new
      rw [List.countP_append, List.count_append, once.counted other, List.countP_singleton, new,
        List.count_singleton]

theorem ExcludesOnce.step (once : s.ExcludesOnce) (step : Step registry root maxDepth s t) :
    t.ExcludesOnce := by
  cases step with
  | column _ _ _ _ added =>
    rcases addColumn_ok added with ⟨_, rfl⟩ | ⟨_, _, rfl⟩
    · exact once
    · split
      · exact ⟨once.distinct, once.counted⟩
      · apply ExcludesOnce.excludeTrashed
        exact ⟨once.distinct, once.counted⟩
  | @join path schema next table column =>
    obtain ⟨exclusions, excluded⟩ := join_exclusions s (path ++ [column]) table column next
    constructor
    · rw [excluded]
      exact once.distinct
    · rw [exclusions, excluded]
      exact once.counted

theorem Steps.excludesOnce (steps : Steps registry root maxDepth empty s) : s.ExcludesOnce := by
  induction steps with
  | refl => exact ⟨List.nodup_nil, fun _ => rfl⟩
  | tail _ step once => exact once.step step

theorem Steps.tableAt?_join (steps : Steps registry root maxDepth empty s) {join : Join}
    (member : join ∈ s.joins) (some_field : join.path ≠ []) :
    s.tableAt? root join.path = some join.label := by
  rw [FieldSelection.tableAt?, if_neg some_field, Option.map_eq_some_iff]
  have found : (s.joinAt? join.path).isSome = true := by
    rw [joinAt?, List.find?_isSome]
    exact ⟨join, member, beq_self_eq_true _⟩
  obtain ⟨other, found⟩ := Option.isSome_iff_exists.mp found
  refine ⟨other, found, ?_⟩
  rw [List.inj_on_of_nodup_map steps.paths_distinct (List.mem_of_find?_eq_some found) member
    (joinAt?_path found)]

/-- Whether a column is selected of the resource at a path. -/
def selectsFrom (columns : List PlanColumn) (path : List String) : Bool :=
  columns.any fun c => (Text.split c.label ".").dropLast == path

/-- The condition that keeps trashed rows of a joined resource out is there once where columns are
taken from its alias, and not at all where none are. -/
theorem Steps.excluded_once (declared : registry.Declared) (rootChecked : root.Checked)
    (steps : Steps registry root maxDepth empty s) {join : Join} {next : Schema}
    (member : join ∈ s.joins) (some_field : join.path ≠ [])
    (reaches : Reaches registry root join.path next) :
    (next.softDeletes = true → selectsFrom s.columns join.path = true →
      marker next join.label ∈ s.exclusions ∧ s.exclusions.countP (·.tests join.label) = 1) ∧
    (next.softDeletes = false ∨ selectsFrom s.columns join.path = false →
      s.exclusions.countP (·.tests join.label) = 0) := by
  have once := steps.excludesOnce
  have exclusions := steps.exclusionsMatch declared rootChecked
  have place := steps.tableAt?_join member some_field
  constructor
  · intro trashes selects
    obtain ⟨c, selected, parts⟩ := List.any_eq_true.mp selects
    obtain ⟨path, schema, table, name, at_path⟩ :=
      steps.columnAt declared rootChecked c selected
    rw [beq_iff_eq, at_path.label, List.dropLast_concat] at parts
    subst parts
    cases reaches.functional at_path.reaches
    cases Option.some.inj (place.symm.trans at_path.place)
    have held := exclusions.complete c selected _ next _ name at_path some_field trashes
    refine ⟨held, ?_⟩
    have some_time : 0 < s.exclusions.countP (·.tests join.label) := by
      apply List.countP_pos_iff.mpr
      exact ⟨_, held, by rw [marker_tests, beq_self_eq_true]⟩
    have one_time := List.nodup_iff_count_le_one.mp once.distinct join.label
    rw [once.counted] at some_time ⊢
    omega
  · intro spared
    apply List.countP_eq_zero.mpr
    intro step condition about
    obtain ⟨c, selected, path, schema, label, name, at_path, field, trashes, rfl⟩ :=
      exclusions.caused step condition
    -- a condition about this alias is due to a column of the resource that was joined
    rw [marker_tests, beq_iff_eq] at about
    rw [about] at at_path
    have same := steps.tableAt?_injective field some_field at_path.place place
    rw [same] at at_path
    cases reaches.functional at_path.reaches
    rcases spared with keeps | passed
    · rw [keeps] at trashes
      cases trashes
    · rw [selectsFrom, List.any_eq_false] at passed
      apply passed c selected
      rw [at_path.label, List.dropLast_concat, beq_self_eq_true]

end

end FieldSelection

namespace Plan

/-- The steps that do not exclude trashed rows of joined resources test columns of the root. -/
theorem Compiled.others_test_root {setting : Setting} {schema : Schema} {spec : Spec}
    {trashed : TrashedMode} {listAll : Bool} {equals : Record} {plan : Plan}
    {selected : FieldSelection} {filter search cursor : List PlanStep}
    (declared : schema.Declared)
    (compiled :
      Compiled setting schema spec trashed listAll equals plan selected filter search cursor) :
    ∀ step ∈ filter ++ visibilitySteps schema trashed ++ equalitySteps schema equals ++ search ++
      cursor, ∀ column, step.column? = some column → column.table = some schema.table := by
  intro step member column tested
  have readable := compiled.onReadable declared step
  simp only [List.mem_append] at member readable
  rcases member with (((member | member) | member) | member) | member
  · exact (readable (Or.inl (Or.inl member))).table tested
  · obtain ⟨_, operator, rfl⟩ := visibilitySteps_marker step member
    cases tested
    rfl
  · obtain ⟨⟨name, value⟩, _, rfl⟩ := List.mem_map.mp member
    cases tested
    rfl
  · exact (readable (Or.inl (Or.inr member))).table tested
  · exact (readable (Or.inr member)).table tested

/-- Trashed rows are excluded once for each alias that columns are taken from.  The conditions that
exclude trashed rows of joined resources stand before all others, which test columns of the root.
A joined resource that keeps trashed rows has exactly one such condition if a column is selected of
it; if none is, and where a resource keeps no trashed rows, none of them tests its alias. -/
theorem trashed_rows_excluded_once {setting : Setting} {schema : Schema} {spec : Spec}
    {trashed : TrashedMode} {listAll : Bool} {equals : Record} {plan : Plan}
    (declared : schema.Declared) (registered : setting.registry.Declared)
    (ok : compile setting schema spec trashed listAll equals = .ok plan) :
    ∃ exclusions others, plan.steps = exclusions ++ others ∧
      (∀ step ∈ exclusions, ExcludesTrashed setting.registry plan step) ∧
      (∀ step ∈ others, ∀ column, step.column? = some column →
        column.table = some schema.table) ∧
      ∀ join ∈ plan.joins, ∃ next, Reaches setting.registry schema join.path next ∧
        (next.softDeletes = true → FieldSelection.selectsFrom plan.columns join.path = true →
          FieldSelection.marker next join.label ∈ exclusions ∧
            exclusions.countP (·.tests join.label) = 1) ∧
        (next.softDeletes = false ∨ FieldSelection.selectsFrom plan.columns join.path = false →
          exclusions.countP (·.tests join.label) = 0) := by
  obtain ⟨selected, filter, search, cursor, compiled⟩ := compile_ok ok
  have steps := FieldSelection.ofFields_steps registered declared.checked compiled.fields_ok
  refine ⟨selected.exclusions, filter ++ visibilitySteps schema trashed ++
    equalitySteps schema equals ++ search ++ cursor, ?_,
    (compiled.exclusions declared registered).1, compiled.others_test_root declared, ?_⟩
  · rw [compiled.steps_eq]
    simp only [List.append_assoc]
  · intro join member
    rw [compiled.joins_eq] at member
    obtain ⟨next, front, before, joined⟩ := steps.joinedAt join member
    have some_field : join.path ≠ [] := by
      rw [joined.path]
      simp
    rw [compiled.columns_eq]
    exact ⟨next, joined.reaches,
      steps.excluded_once registered declared.checked member some_field joined.reaches⟩

theorem folder_above : Reaches Sample.folderRegistry Sample.folderSchema ["parent_id"]
    Sample.folderSchema :=
  .field .root (by decide) rfl rfl

/-- The folder above is named, so its alias is tested once. -/
theorem folder_above_excluded_once : ∃ plan exclusions others,
    compile Sample.folderSetting Sample.folderSchema Sample.folderRequest .exclude false [] =
      .ok plan ∧
    plan.joins.map (·.label) = ["folders_1"] ∧ plan.steps = exclusions ++ others ∧
    FieldSelection.marker Sample.folderSchema "folders_1" ∈ exclusions ∧
    exclusions.countP (·.tests "folders_1") = 1 := by
  obtain ⟨exclusions, others, steps, _, _, each⟩ := @trashed_rows_excluded_once
    Sample.folderSetting Sample.folderSchema Sample.folderRequest .exclude false [] _
    Sample.folder_declared Sample.folderRegistry_declared rfl
  refine ⟨_, exclusions, others, rfl, rfl, steps, ?_⟩
  obtain ⟨next, reaches, once, _⟩ := each _ (List.mem_singleton_self _)
  cases reaches.functional folder_above
  exact once rfl rfl

/-- On the way to the name of the folder two levels above, the rows of the folder between are not
tested: it may be in the trash. -/
theorem folder_between_not_excluded : ∃ plan,
    compile Sample.folderSetting Sample.folderSchema
      { Spec.all with fields := ["parent_id.parent_id.name"] } .exclude false [] = .ok plan ∧
    (∃ join ∈ plan.joins, join.label = "folders_1" ∧ join.path = ["parent_id"]) ∧
    Reaches Sample.folderRegistry Sample.folderSchema ["parent_id"] Sample.folderSchema ∧
    Sample.folderSchema.softDeletes = true ∧
    plan.steps.countP (·.tests "folders_1") = 0 := by
  refine ⟨_, rfl, ⟨_, List.mem_cons_self, rfl, rfl⟩, folder_above, rfl, ?_⟩
  decide

end Plan

end Curator
