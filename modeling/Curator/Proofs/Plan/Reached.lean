import Curator.Proofs.Plan.Compiled
import Curator.Proofs.Plan.Readable
import Curator.Proofs.Schema.Sample
/-!
# Columns a request reaches

Everything that a plan reads is shown by the resource it is read from, except for the marks of
trashed rows, the keys of joins, and the columns its caller compares.
-/

set_option autoImplicit false

namespace Curator

open Sql Outcome

namespace Plan

/-- The table or alias whose columns are those of the resource at a path. -/
def tableAt? (plan : Plan) (path : List String) : Option String :=
  if path = [] then some plan.schema.table
  else (plan.joins.find? fun join => join.path == path).map (·.label)

/-- A column of the plan is a readable field `name` of the resource that its label leads to, taken
from the root's table or from the alias of the join for exactly that path. -/
def SelectsReadable (registry : Registry) (plan : Plan) (c : PlanColumn) : Prop :=
  ∃ path schema table name, Reaches registry plan.schema path schema ∧
    Text.split c.label "." = path ++ [name] ∧ baseField name ∈ schema.readable ∧
    plan.tableAt? path = some table ∧ c.column = ⟨baseField name, some table, jsonPath name⟩

/-- A join leads from a readable related field of a resource that is reached to the rows of the
related resource with that key. -/
def JoinsReadable (registry : Registry) (plan : Plan) (join : Join) : Prop :=
  ∃ front schema next, Reaches registry plan.schema front schema ∧
    Reaches registry plan.schema join.path next ∧ join.path = front ++ [join.column] ∧
    join.column ∈ schema.readable ∧ plan.tableAt? front = some join.owner ∧
    join.table = next.table ∧ join.primaryKey = next.primaryKey

/-- A condition that excludes the trashed rows of a joined resource. -/
def ExcludesTrashed (registry : Registry) (plan : Plan) (step : PlanStep) : Prop :=
  ∃ path schema label, path ≠ [] ∧ Reaches registry plan.schema path schema ∧
    plan.tableAt? path = some label ∧ schema.softDeletes = true ∧
    step = .test .and ⟨schema.deletedAtColumn, some label, []⟩ .isNull (.bool true)

/-- Conditions that exclude the trashed rows of every related resource a column is selected of. -/
def CoversColumns (registry : Registry) (plan : Plan) (exclusions : List PlanStep) : Prop :=
  ∀ c ∈ plan.columns, ∀ path next label name, Reaches registry plan.schema path next →
    Text.split c.label "." = path ++ [name] → plan.tableAt? path = some label → path ≠ [] →
      next.softDeletes = true → FieldSelection.marker next label ∈ exclusions

section

variable {setting : Setting} {schema : Schema} {spec : Spec} {trashed : TrashedMode}
  {listAll : Bool} {equals : Record} {plan : Plan} {selected : FieldSelection}
  {filter search cursor : List PlanStep}

theorem Compiled.tableAt?
    (compiled :
      Compiled setting schema spec trashed listAll equals plan selected filter search cursor)
    (path : List String) : plan.tableAt? path = selected.tableAt? schema path := by
  rw [Plan.tableAt?, FieldSelection.tableAt?, FieldSelection.joinAt?, compiled.schema_eq,
    compiled.joins_eq]

/-- The exclusions of a compiled plan are those of the related resources it selects columns of. -/
theorem Compiled.exclusions (declared : schema.Declared) (registered : setting.registry.Declared)
    (compiled :
      Compiled setting schema spec trashed listAll equals plan selected filter search cursor) :
    (∀ step ∈ selected.exclusions, ExcludesTrashed setting.registry plan step) ∧
      CoversColumns setting.registry plan selected.exclusions := by
  have checked := declared.checked
  have steps := FieldSelection.ofFields_steps registered checked compiled.fields_ok
  have exclusions := FieldSelection.Steps.exclusionsMatch registered checked steps
  refine ⟨?_, ?_⟩
  · intro step member
    obtain ⟨c, _, path, next, label, name, at_path, some_field, trashes, rfl⟩ :=
      exclusions.caused step member
    refine ⟨path, next, label, some_field, ?_, ?_, trashes, rfl⟩
    · rw [compiled.schema_eq]
      exact at_path.reaches
    · rw [compiled.tableAt?]
      exact at_path.place
  · intro c member path next label name reaches parts place some_field trashes
    rw [compiled.columns_eq] at member
    rw [compiled.schema_eq] at reaches
    rw [compiled.tableAt?] at place
    obtain ⟨front, schema, table, field, at_path⟩ :=
      FieldSelection.Steps.columnAt registered checked steps c member
    obtain ⟨rfl, _⟩ := List.append_inj' (parts.symm.trans at_path.label) rfl
    cases reaches.functional at_path.reaches
    cases Option.some.inj (place.symm.trans at_path.place)
    exact exclusions.complete c member path next label field at_path some_field trashes

/-- Each selected column is readable where its path leads. -/
theorem Compiled.selectsReadable (declared : schema.Declared)
    (registered : setting.registry.Declared)
    (compiled :
      Compiled setting schema spec trashed listAll equals plan selected filter search cursor) :
    ∀ c ∈ plan.columns, SelectsReadable setting.registry plan c := by
  have steps := FieldSelection.ofFields_steps registered declared.checked compiled.fields_ok
  intro c member
  rw [compiled.columns_eq] at member
  obtain ⟨path, next, table, name, at_path⟩ :=
    FieldSelection.Steps.columnAt registered declared.checked steps c member
  refine ⟨path, next, table, name, ?_, at_path.label, at_path.readable, ?_, at_path.column⟩
  · rw [compiled.schema_eq]
    exact at_path.reaches
  · rw [compiled.tableAt?]
    exact at_path.place

/-- Each join goes by a readable related field, and no path and no alias is joined twice. -/
theorem Compiled.joinsReadable (declared : schema.Declared) (registered : setting.registry.Declared)
    (compiled :
      Compiled setting schema spec trashed listAll equals plan selected filter search cursor) :
    (∀ join ∈ plan.joins, JoinsReadable setting.registry plan join) ∧
      (plan.joins.map (·.path)).Nodup ∧ (plan.joins.map (·.label)).Nodup := by
  have steps := FieldSelection.ofFields_steps registered declared.checked compiled.fields_ok
  refine ⟨?_, ?_, ?_⟩
  · intro join member
    rw [compiled.joins_eq] at member
    obtain ⟨next, front, before, joined⟩ := FieldSelection.Steps.joinedAt steps join member
    refine ⟨front, before, next, ?_, ?_, joined.path, joined.readable, ?_, joined.table,
      joined.primaryKey⟩
    · rw [compiled.schema_eq]
      exact joined.before
    · rw [compiled.schema_eq]
      exact joined.reaches
    · rw [compiled.tableAt?]
      exact joined.owner
  · rw [compiled.joins_eq]
    exact FieldSelection.Steps.paths_distinct steps
  · rw [compiled.joins_eq]
    exact (FieldSelection.Steps.aliasesCount steps).distinct

/-- Nothing a request may word tests a column of the root that cannot be read. -/
theorem Compiled.onReadable (declared : schema.Declared)
    (compiled :
      Compiled setting schema spec trashed listAll equals plan selected filter search cursor) :
    ∀ step ∈ filter ++ search ++ cursor, step.OnReadable schema := by
  refine onReadable_append (onReadable_append ?_ ?_) ?_
  · exact filterSteps_onReadable compiled.filter_ok
  · exact searchSteps_onReadable declared.checked compiled.search_ok
  · have ok := compiled.cursor_ok
    cases listAll with
    | true =>
      cases pure_ok ok
      exact fun _ member => nomatch member
    | false => exact cursorSteps_onReadable declared.checked ok

end

/-- What a compiled request reads.  Each selected column is a readable field of the resource at the
end of its path, a path of readable related fields of which each is joined once; the steps of the
filter, the search and the cursor, the order and the groups go by readable columns of the root; the
remaining steps exclude trashed rows, of joined resources and of the root, or compare the columns
the caller named.  Whatever is asked of a collection, its aggregates reduce readable columns of the
root. -/
theorem compile_reads_readable {setting : Setting} {schema : Schema} {spec : Spec}
    {trashed : TrashedMode} {listAll : Bool} {equals : Record} {plan : Plan}
    (declared : schema.Declared) (registered : setting.registry.Declared)
    (ok : compile setting schema spec trashed listAll equals = .ok plan) :
    plan.schema = schema ∧
    (∀ c ∈ plan.columns, SelectsReadable setting.registry plan c) ∧
    (∀ join ∈ plan.joins, JoinsReadable setting.registry plan join) ∧
    (plan.joins.map (·.path)).Nodup ∧ (plan.joins.map (·.label)).Nodup ∧
    (∃ exclusions filter search cursor,
      plan.steps = exclusions ++ filter ++ visibilitySteps schema trashed ++
        equalitySteps schema equals ++ search ++ cursor ∧
      filterSteps schema setting.now setting.settings.maxFilterDepth .and 0 spec.filter =
        .ok filter ∧
      searchSteps schema spec.search = .ok search ∧
      (if listAll then pure [] else cursorSteps schema spec) = .ok cursor ∧
      (∀ step ∈ exclusions, ExcludesTrashed setting.registry plan step) ∧
      (∀ step ∈ filter ++ search ++ cursor, step.OnReadable schema) ∧
      (∀ step ∈ visibilitySteps schema trashed, schema.softDeletes = true ∧ ∃ operator,
        step = .test .and ⟨schema.deletedAtColumn, some schema.table, []⟩ operator (.bool true)) ∧
      ∀ step ∈ equalitySteps schema equals, ∃ name value, (name, value) ∈ equals ∧
        step = .test .and ⟨name, some schema.table, []⟩ .eq value) ∧
    (∀ item ∈ plan.order, ∃ name ∈ schema.readable,
      orderColumn item = ⟨name, some schema.table, []⟩) ∧
    (∀ item ∈ plan.group, ∃ name ∈ schema.readable,
      Column.parse item = ⟨name, some schema.table, []⟩) ∧
    ∀ (c : Collection) (found : Record) (clauses : List Value) (s : SessionState),
      ∀ entry ∈ (c.aggregates found clauses s).entries, c.plan.OfAggregate entry := by
  obtain ⟨selected, filter, search, cursor, compiled⟩ := compile_ok ok
  obtain ⟨joins, paths, labels⟩ := compiled.joinsReadable declared registered
  refine ⟨compiled.schema_eq, compiled.selectsReadable declared registered, joins, paths, labels,
    ?_, ?_, ?_, ?_⟩
  · refine ⟨selected.exclusions, filter, search, cursor, compiled.steps_eq, compiled.filter_ok,
      compiled.search_ok, compiled.cursor_ok, (compiled.exclusions declared registered).1,
      compiled.onReadable declared, visibilitySteps_marker, ?_⟩
    intro step member
    obtain ⟨⟨name, value⟩, given, rfl⟩ := List.mem_map.mp member
    exact ⟨name, value, given, rfl⟩
  · exact sortOrder_ok declared.checked compiled.order_ok
  · intro item member
    obtain ⟨name, _, made⟩ := mem_of_mapM_ok compiled.group_ok member
    obtain ⟨readable, column⟩ := groupColumn_ok declared.checked made
    exact ⟨name, readable, column⟩
  · intro c found clauses s
    exact (Collection.records_aggregates c found clauses).entries s

/-- A request that goes through a resource to itself compiles, and reads what it may. -/
theorem folders_read_readable : ∃ plan,
    compile Sample.folderSetting Sample.folderSchema Sample.folderRequest .exclude false [] =
      .ok plan ∧
    plan.columns.map (·.label) = ["name", "parent_id.name", "id"] ∧
    (∀ c ∈ plan.columns, SelectsReadable Sample.folderRegistry plan c) ∧
    ∀ join ∈ plan.joins, JoinsReadable Sample.folderRegistry plan join := by
  refine ⟨_, rfl, rfl, ?_⟩
  have reads := @compile_reads_readable Sample.folderSetting Sample.folderSchema
    Sample.folderRequest .exclude false [] _ Sample.folder_declared Sample.folderRegistry_declared
    rfl
  exact ⟨reads.2.1, reads.2.2.1⟩

end Plan

end Curator
