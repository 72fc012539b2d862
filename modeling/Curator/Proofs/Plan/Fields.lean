import Curator.Proofs.Plan.Joins
/-!
# Selected columns

Each column that is selected is a readable field of the resource its name leads to, taken from the
table or alias of that resource.  The related resources some column is selected of, and no others,
have their trashed rows excluded.
-/

set_option autoImplicit false

namespace Curator

open Sql

namespace FieldSelection

/-- The condition that keeps the rows of a related resource which are not trashed. -/
def marker (schema : Schema) (label : String) : PlanStep :=
  .test .and ⟨schema.deletedAtColumn, some label, []⟩ .isNull (.bool true)

/-- A selected column stands for a readable field `name` of the resource at a path. -/
structure ColumnAt (registry : Registry) (root : Schema) (s : FieldSelection) (c : PlanColumn)
    (path : List String) (schema : Schema) (table name : String) : Prop where
  reaches : Reaches registry root path schema
  place : s.tableAt? root path = some table
  readable : baseField name ∈ schema.readable
  label : Text.split c.label "." = path ++ [name]
  column : c.column = ⟨baseField name, some table, jsonPath name⟩

/-- The exclusions of a selection are those of the related resources its columns are taken from. -/
structure ExclusionsMatch (registry : Registry) (root : Schema) (s : FieldSelection) : Prop where
  caused : ∀ step ∈ s.exclusions, ∃ c ∈ s.columns, ∃ path schema label name,
    ColumnAt registry root s c path schema label name ∧ path ≠ [] ∧ schema.softDeletes = true ∧
      step = marker schema label
  complete : ∀ c ∈ s.columns, ∀ path schema label name,
    ColumnAt registry root s c path schema label name → path ≠ [] → schema.softDeletes = true →
      marker schema label ∈ s.exclusions
  excluded : ∀ label ∈ s.excluded, ∃ path schema, path ≠ [] ∧ Reaches registry root path schema ∧
    s.tableAt? root path = some label ∧ marker schema label ∈ s.exclusions

section

variable {registry : Registry} {root : Schema} {maxDepth : Int} {s t : FieldSelection}

theorem ColumnAt.step {c : PlanColumn} {path : List String} {schema : Schema}
    {table name : String} (at_path : ColumnAt registry root s c path schema table name)
    (step : Step registry root maxDepth s t) : ColumnAt registry root t c path schema table name :=
  { at_path with place := step.tableAt? at_path.place }

/-- A column that is new stands at the path it was added for. -/
theorem columnAt_new {path : List String} {schema : Schema} {table name : String}
    (declared : registry.Declared) (rootChecked : root.Checked)
    (reaches : Reaches registry root path schema) (place : s.tableAt? root path = some table)
    (readable : baseField name ∈ schema.readable) (whole : '.' ∉ name.toList) :
    ColumnAt registry root s ⟨fullName path name, ⟨baseField name, some table, jsonPath name⟩⟩
      path schema table name := by
  refine ⟨reaches, place, readable, ?_, rfl⟩
  refine Text.split_join '.' (by simp) ?_
  intro part member
  rcases List.mem_append.mp member with member | member
  · exact reaches.whole declared rootChecked part member
  · rw [List.mem_singleton.mp member]
    exact whole

theorem addColumn_columns {path : List String} {schema : Schema} {table name : String}
    (ok : s.addColumn schema path table name = .ok t) :
    (s.hasAlias (fullName path name) = true ∧ t.columns = s.columns) ∨
      (s.hasAlias (fullName path name) = false ∧ t.columns = s.columns ++
        [⟨fullName path name, ⟨baseField name, some table, jsonPath name⟩⟩]) := by
  rcases addColumn_ok ok with ⟨known, rfl⟩ | ⟨fresh, _, rfl⟩
  · exact Or.inl ⟨known, rfl⟩
  · refine Or.inr ⟨fresh, ?_⟩
    split
    · rfl
    · rcases excludeTrashed_eq _ schema table with ⟨_, same⟩ | ⟨_, _, same⟩
      · rw [same]
      · rw [same]

theorem join_columns (s : FieldSelection) (path : List String) (owner column : String)
    (related : Schema) : (s.join path owner column related).1.columns = s.columns := by
  rcases join_eq s path owner column related with ⟨_, _, same⟩ | ⟨_, _, _, _, _, same⟩
  · rw [same]
  · rw [same]

/-- Each selected column is readable where its name leads. -/
theorem Steps.columnAt (declared : registry.Declared) (rootChecked : root.Checked)
    (steps : Steps registry root maxDepth empty s) :
    ∀ c ∈ s.columns, ∃ path schema table name, ColumnAt registry root s c path schema table name := by
  induction steps with
  | refl => exact fun _ member => nomatch member
  | @tail s t _ step ih =>
    have kept : ∀ c ∈ s.columns, ∃ path schema table name,
        ColumnAt registry root t c path schema table name := by
      intro c member
      obtain ⟨path, schema, table, name, at_path⟩ := ih c member
      exact ⟨path, schema, table, name, at_path.step step⟩
    have change := step
    cases step with
    | column reaches place readable whole added =>
      have place := change.tableAt? place
      rcases addColumn_columns added with ⟨_, same⟩ | ⟨_, same⟩
      · rw [same]
        exact kept
      · rw [same]
        intro c member
        rcases List.mem_append.mp member with member | member
        · exact kept c member
        · cases List.mem_singleton.mp member
          exact ⟨_, _, _, _, columnAt_new declared rootChecked reaches place readable whole⟩
    | join reaches place readable related found shallow =>
      rw [join_columns]
      exact kept

/-- The place a selected column stands for is determined by its name. -/
theorem ColumnAt.unique {c : PlanColumn} {path other : List String} {schema others : Schema}
    {table label name field : String} (at_path : ColumnAt registry root s c path schema table name)
    (at_other : ColumnAt registry root s c other others label field) :
    path = other ∧ schema = others ∧ table = label ∧ name = field := by
  have parts := at_path.label.symm.trans at_other.label
  obtain ⟨rfl, last⟩ := List.append_inj' parts rfl
  cases last
  refine ⟨rfl, at_path.reaches.functional at_other.reaches, ?_, rfl⟩
  exact Option.some.inj (at_path.place.symm.trans at_other.place)

/-- What was added before a change stays in order; what the change adds has to be. -/
theorem ExclusionsMatch.grow (known : ExclusionsMatch registry root s)
    (columns : List PlanColumn) (exclusions : List PlanStep) (labels : List String)
    (columnAt : ∀ c ∈ s.columns, ∃ path schema table name,
      ColumnAt registry root s c path schema table name)
    (step : Step registry root maxDepth s t)
    (growsColumns : t.columns = s.columns ++ columns)
    (growsExclusions : t.exclusions = s.exclusions ++ exclusions)
    (growsLabels : t.excluded = s.excluded ++ labels)
    (caused : ∀ condition ∈ exclusions, ∃ c ∈ t.columns, ∃ path schema label name,
      ColumnAt registry root t c path schema label name ∧ path ≠ [] ∧ schema.softDeletes = true ∧
        condition = marker schema label)
    (complete : ∀ c ∈ columns, ∀ path schema label name,
      ColumnAt registry root t c path schema label name → path ≠ [] → schema.softDeletes = true →
        marker schema label ∈ t.exclusions)
    (excluded : ∀ label ∈ labels, ∃ path schema, path ≠ [] ∧ Reaches registry root path schema ∧
      t.tableAt? root path = some label ∧ marker schema label ∈ t.exclusions) :
    ExclusionsMatch registry root t := by
  constructor
  · rw [growsExclusions]
    intro condition member
    rcases List.mem_append.mp member with member | member
    · obtain ⟨c, selected, path, schema, label, name, at_path, rest⟩ := known.caused condition member
      refine ⟨c, ?_, path, schema, label, name, at_path.step step, rest⟩
      rw [growsColumns]
      exact List.mem_append_left _ selected
    · exact caused condition member
  · intro c member path schema label name at_path some_field trashes
    rw [growsColumns] at member
    rcases List.mem_append.mp member with member | member
    · obtain ⟨_, _, _, _, before⟩ := columnAt c member
      obtain ⟨rfl, rfl, rfl, rfl⟩ := (before.step step).unique at_path
      rw [growsExclusions]
      exact List.mem_append_left _ (known.complete c member _ _ _ _ before some_field trashes)
    · exact complete c member path schema label name at_path some_field trashes
  · intro label member
    rw [growsLabels] at member
    rcases List.mem_append.mp member with member | member
    · obtain ⟨path, schema, some_field, reaches, place, held⟩ := known.excluded label member
      refine ⟨path, schema, some_field, reaches, step.tableAt? place, ?_⟩
      rw [growsExclusions]
      exact List.mem_append_left _ held
    · exact excluded label member

theorem join_exclusions (s : FieldSelection) (path : List String) (owner column : String)
    (related : Schema) :
    (s.join path owner column related).1.exclusions = s.exclusions ∧
      (s.join path owner column related).1.excluded = s.excluded := by
  rcases join_eq s path owner column related with ⟨_, _, same⟩ | ⟨_, _, _, _, _, same⟩
  · rw [same]
    exact ⟨rfl, rfl⟩
  · rw [same]
    exact ⟨rfl, rfl⟩

theorem ExclusionsMatch.unchanged (known : ExclusionsMatch registry root s)
    (columnAt : ∀ c ∈ s.columns, ∃ path schema table name,
      ColumnAt registry root s c path schema table name)
    (step : Step registry root maxDepth s t) (columns : t.columns = s.columns)
    (exclusions : t.exclusions = s.exclusions) (excluded : t.excluded = s.excluded) :
    ExclusionsMatch registry root t :=
  known.grow [] [] [] columnAt step (by simpa using columns) (by simpa using exclusions)
    (by simpa using excluded) (fun _ member => nomatch member) (fun _ member => nomatch member)
    (fun _ member => nomatch member)

theorem ExclusionsMatch.step (declared : registry.Declared) (rootChecked : root.Checked)
    (before : Steps registry root maxDepth empty s) (known : ExclusionsMatch registry root s)
    (change : Step registry root maxDepth s t) : ExclusionsMatch registry root t := by
  have columnAt := Steps.columnAt declared rootChecked before
  have step := change
  cases step with
  | join reaches place readable related found shallow =>
    obtain ⟨exclusions, excluded⟩ := join_exclusions s _ _ _ _
    exact known.unchanged columnAt change (join_columns s _ _ _ _) exclusions excluded
  | @column _ path schema table name reaches place readable whole added =>
    have new : ColumnAt registry root t _ path schema table name :=
      columnAt_new declared rootChecked reaches (change.tableAt? place) readable whole
    rcases addColumn_ok added with ⟨_, rfl⟩ | ⟨_, _, result⟩
    · exact known.unchanged columnAt change rfl rfl rfl
    · split at result
      · -- a column of the root: nothing to exclude
        rename_i empty
        cases List.isEmpty_iff.mp empty
        refine known.grow [_] [] [] columnAt change (by rw [result]) (by rw [result]; simp)
          (by rw [result]; simp) (fun _ member => nomatch member) ?_ (fun _ member => nomatch member)
        intro c member other _ _ _ at_other some_field _
        cases List.mem_singleton.mp member
        exact absurd (new.unique at_other).1.symm some_field
      · rename_i some_field
        have some_field : path ≠ [] := fun empty => some_field (by simp [empty])
        rcases excludeTrashed_eq _ schema table with ⟨reason, same⟩ | ⟨trashes, _, same⟩
        · rw [same] at result
          refine known.grow [_] [] [] columnAt change (by rw [result]) (by rw [result]; simp)
            (by rw [result]; simp) (fun _ member => nomatch member) ?_ (fun _ member => nomatch member)
          intro c member other _ _ _ at_other _ trashes
          cases List.mem_singleton.mp member
          obtain ⟨rfl, rfl, rfl, _⟩ := new.unique at_other
          rcases reason with keeps | excluded
          · simp [trashes] at keeps
          · -- its alias has been dealt with, and an alias belongs to one path only
            obtain ⟨known_path, schemaThere, known_field, reached, there, held⟩ :=
              known.excluded table excluded
            cases Steps.tableAt?_injective before known_field some_field there place
            cases reached.functional reaches
            rw [result]
            exact held
        · rw [same] at result
          have held : marker schema table ∈ t.exclusions := by
            rw [result]
            simp [marker]
          refine known.grow [_] [_] [_] columnAt change (by rw [result]) (by rw [result])
            (by rw [result]) ?_ ?_ ?_
          · intro condition member
            cases List.mem_singleton.mp member
            refine ⟨_, ?_, path, schema, table, name, new, some_field, trashes, rfl⟩
            rw [result]
            simp
          · intro c member other _ _ _ at_other _ _
            cases List.mem_singleton.mp member
            obtain ⟨rfl, rfl, rfl, _⟩ := new.unique at_other
            exact held
          · intro label member
            cases List.mem_singleton.mp member
            exact ⟨path, schema, some_field, reaches, change.tableAt? place, held⟩

/-- Trashed rows are excluded for exactly the related resources that columns are taken from. -/
theorem Steps.exclusionsMatch (declared : registry.Declared) (rootChecked : root.Checked)
    (steps : Steps registry root maxDepth empty s) : ExclusionsMatch registry root s := by
  induction steps with
  | refl =>
    exact ⟨fun _ member => (nomatch member), fun _ member => (nomatch member),
      fun _ member => (nomatch member)⟩
  | tail before change known => exact known.step declared rootChecked before change

end

end FieldSelection

end Curator
