import Curator.Proofs.Plan.Exclusions
import Curator.Proofs.Plan.JoinOrder
/-!
# Where columns are taken from

The names that rows go by in the statement of a plan, the root's table and the aliases of the joins,
and the columns that are taken from them.  The aliases of a table are numbered in the order of its
joins, so a column is ambiguous only if the root's table has the name of such an alias.
-/

set_option autoImplicit false

namespace Curator

open Sql Outcome

namespace FieldSelection

/-- An alias that is the table's name with the number of the join among those of the table. -/
def Numbered (before : List Join) (join : Join) : Prop :=
  join.label = join.table ++ "_" ++ toString (before.countP (·.table == join.table) + 1)

section

variable {registry : Registry} {root : Schema} {maxDepth : Int} {s t : FieldSelection}

/-- The counts of a selection are how often each table was joined. -/
theorem Steps.numbered (steps : Steps registry root maxDepth empty s) :
    InOrder Numbered s.joins ∧
      ∀ table, (s.aliasCounts.value? table).getD 0 = s.joins.countP (·.table == table) := by
  induction steps with
  | refl => exact ⟨inOrder_nil _, fun _ => rfl⟩
  | @tail s t _ step ih =>
    obtain ⟨ordered, counted⟩ := ih
    cases step with
    | column _ _ _ _ added =>
      obtain ⟨joins, _, counts⟩ := addColumn_keeps added
      rw [joins, counts]
      exact ⟨ordered, counted⟩
    | @join path schema next table column _ _ _ _ _ _ _ =>
      rcases join_eq s (path ++ [column]) table column next with
        ⟨_, _, same⟩ | ⟨_, count, label, isCount, isLabel, same⟩
      · rw [same]
        exact ⟨ordered, counted⟩
      · rw [same]
        rw [counted] at isCount
        constructor
        · apply ordered.snoc
          rw [Numbered, isLabel, isCount]
        · intro other
          rw [Mapping.value?_put, List.countP_append, List.countP_singleton]
          by_cases this : other = next.table
          · rw [if_pos this, this, isCount]
            simp
          · rw [if_neg this, counted]
            simp [Ne.symm this]

/-- Every number up to the number of a table's joins is that of an alias. -/
theorem InOrder.exists_numbered {joins : List Join} (ordered : InOrder Numbered joins)
    {table : String} {n : Nat} (few : n < joins.countP (·.table == table)) :
    ∃ join ∈ joins, join.label = table ++ "_" ++ toString (n + 1) := by
  induction joins using List.reverseRecOn with
  | nil => cases few
  | append_singleton joins last ih =>
    have earlier : InOrder Numbered joins := by
      intro before join behind parts
      apply ordered before join (behind ++ [last])
      rw [parts, List.append_assoc, List.cons_append]
    by_cases known : n < joins.countP (·.table == table)
    · obtain ⟨join, member, label⟩ := ih earlier known
      exact ⟨join, List.mem_append_left _ member, label⟩
    · -- the last join is of this table, and has its highest number
      have label := ordered joins last [] rfl
      rw [List.countP_append, List.countP_singleton] at few
      by_cases this : last.table = table
      · rw [if_pos (beq_iff_eq.mpr this)] at few
        have number : n = joins.countP (·.table == table) := by omega
        rw [Numbered, this, ← number] at label
        exact ⟨last, List.mem_append_right _ (List.mem_singleton_self last), label⟩
      · rw [if_neg (fun same => this (beq_iff_eq.mp same))] at few
        omega

theorem InOrder.number_counted {joins : List Join} (ordered : InOrder Numbered joins)
    {join : Join} (member : join ∈ joins) :
    ∃ n, n < joins.countP (·.table == join.table) ∧
      join.label = join.table ++ "_" ++ toString (n + 1) := by
  obtain ⟨before, behind, parts⟩ := List.append_of_mem member
  have label := ordered before join behind parts
  rw [Numbered] at label
  refine ⟨_, ?_, label⟩
  have counted : (join.table == join.table) = true := beq_self_eq_true _
  rw [parts, List.countP_append, List.countP_cons, if_pos counted]
  omega

end

end FieldSelection

namespace Plan

/-- The names under which the statement of a plan has rows. -/
def sources (plan : Plan) : List String :=
  plan.schema.table :: plan.joins.map (·.label)

/-- The columns that the statement of a plan names: those it fetches, joins by, tests, orders by and
groups by. -/
def namedColumns (plan : Plan) : List Column :=
  plan.columns.map (·.column) ++
    plan.joins.flatMap (fun join =>
      [⟨join.column, some join.owner, []⟩, ⟨join.primaryKey, some join.label, []⟩]) ++
    plan.steps.filterMap (·.column?) ++ plan.order.map orderColumn ++ plan.group.map Column.parse

/-- A column that is taken from the root's table or from the alias of a join. -/
def Supplies (plan : Plan) (column : Column) : Prop :=
  ∃ source ∈ plan.sources, column.table = some source

section

variable {plan : Plan}

theorem supplies_root {column : Column} (place : column.table = some plan.schema.table) :
    plan.Supplies column :=
  ⟨_, List.mem_cons_self, place⟩

theorem supplies_join {column : Column} {join : Join} (member : join ∈ plan.joins)
    (place : column.table = some join.label) : plan.Supplies column :=
  ⟨_, List.mem_cons_of_mem _ (List.mem_map_of_mem member), place⟩

theorem supplies_of_tableAt? {column : Column} {path : List String} {table : String}
    (found : plan.tableAt? path = some table) (place : column.table = some table) :
    plan.Supplies column := by
  unfold tableAt? at found
  split at found
  · cases found
    exact supplies_root place
  · obtain ⟨join, joined, rfl⟩ := Option.map_eq_some_iff.mp found
    exact supplies_join (List.mem_of_find?_eq_some joined) place

variable {setting : Setting} {schema : Schema} {spec : Spec} {trashed : TrashedMode}
  {listAll : Bool} {equals : Record} {selected : FieldSelection}
  {filter search cursor : List PlanStep}

theorem Compiled.steps_supplied (declared : schema.Declared)
    (registered : setting.registry.Declared)
    (compiled :
      Compiled setting schema spec trashed listAll equals plan selected filter search cursor) :
    ∀ step ∈ plan.steps, ∀ column, step.column? = some column → plan.Supplies column := by
  intro step member column tested
  simp only [compiled.steps_eq, List.append_assoc] at member
  rcases List.mem_append.mp member with member | member
  · obtain ⟨path, next, label, _, _, place, _, rfl⟩ :=
      (compiled.exclusions declared registered).1 step member
    cases tested
    exact supplies_of_tableAt? place rfl
  · apply supplies_root
    rw [compiled.schema_eq]
    apply compiled.others_test_root declared step ?_ column tested
    simpa only [List.append_assoc] using member

theorem Compiled.supplied (declared : schema.Declared) (registered : setting.registry.Declared)
    (compiled :
      Compiled setting schema spec trashed listAll equals plan selected filter search cursor) :
    ∀ column ∈ plan.namedColumns, plan.Supplies column := by
  intro column member
  simp only [namedColumns, List.mem_append] at member
  rcases member with (((member | member) | member) | member) | member
  · obtain ⟨c, chosen, rfl⟩ := List.mem_map.mp member
    obtain ⟨path, next, table, name, _, _, _, place, same⟩ :=
      compiled.selectsReadable declared registered c chosen
    rw [same]
    exact supplies_of_tableAt? place rfl
  · obtain ⟨join, joined, either⟩ := List.mem_flatMap.mp member
    obtain ⟨front, before, next, _, _, _, _, owner, _⟩ :=
      (compiled.joinsReadable declared registered).1 join joined
    rcases List.mem_pair.mp either with rfl | rfl
    · exact supplies_of_tableAt? owner rfl
    · exact supplies_join joined rfl
  · obtain ⟨step, among, tested⟩ := List.mem_filterMap.mp member
    exact compiled.steps_supplied declared registered step among column tested
  · obtain ⟨item, among, rfl⟩ := List.mem_map.mp member
    obtain ⟨name, _, same⟩ := sortOrder_ok declared.checked compiled.order_ok item among
    apply supplies_root
    rw [same, compiled.schema_eq]
  · obtain ⟨item, among, rfl⟩ := List.mem_map.mp member
    obtain ⟨name, _, made⟩ := mem_of_mapM_ok compiled.group_ok among
    apply supplies_root
    rw [(groupColumn_ok declared.checked made).2, compiled.schema_eq]

end

/-- Columns are taken from the root or from a join.  The aliases of a table's joins are its name with
the numbers from one on, so no two joins share one.  They differ from the root's table too, unless
it is named like one of them; if they do, each column is that of one source. -/
theorem columns_have_one_source {setting : Setting} {schema : Schema} {spec : Spec}
    {trashed : TrashedMode} {listAll : Bool} {equals : Record} {plan : Plan}
    (declared : schema.Declared) (registered : setting.registry.Declared)
    (ok : compile setting schema spec trashed listAll equals = .ok plan) :
    plan.schema = schema ∧ (plan.joins.map (·.label)).Nodup ∧
    FieldSelection.InOrder FieldSelection.Numbered plan.joins ∧
    (plan.sources.Nodup ↔ ∀ table n, n < plan.joins.countP (·.table == table) →
      schema.table ≠ table ++ "_" ++ toString (n + 1)) ∧
    (∀ column ∈ plan.namedColumns, plan.Supplies column) ∧
    (plan.sources.Nodup → ∀ column ∈ plan.namedColumns, ∃ source, column.table = some source ∧
      plan.sources.count source = 1) := by
  obtain ⟨selected, filter, search, cursor, compiled⟩ := compile_ok ok
  have steps := FieldSelection.ofFields_steps registered declared.checked compiled.fields_ok
  have ordered := steps.numbered.1
  have labels := (compiled.joinsReadable declared registered).2.2
  have supplied := compiled.supplied declared registered
  rw [← compiled.joins_eq] at ordered
  refine ⟨compiled.schema_eq, labels, ordered, ?_, supplied, ?_⟩
  · rw [sources, List.nodup_cons, compiled.schema_eq]
    constructor
    · intro distinct table n few same
      -- each number up to the number of a table's joins is taken
      obtain ⟨join, member, label⟩ := ordered.exists_numbered few
      apply distinct.1
      rw [same, ← label]
      exact List.mem_map_of_mem member
    · intro unlike
      refine ⟨?_, labels⟩
      intro taken
      obtain ⟨join, member, same⟩ := List.mem_map.mp taken
      obtain ⟨n, few, label⟩ := ordered.number_counted member
      exact unlike join.table n few (same.symm.trans label)
  · intro distinct column member
    obtain ⟨source, among, place⟩ := supplied column member
    exact ⟨source, place, List.count_eq_one_of_mem distinct among⟩

theorem folder_columns_have_one_source : ∃ plan,
    compile Sample.folderSetting Sample.folderSchema Sample.folderRequest .exclude false [] =
      .ok plan ∧
    plan.sources = ["folders", "folders_1"] ∧
    ∀ column ∈ plan.namedColumns, ∃ source, column.table = some source ∧
      plan.sources.count source = 1 := by
  refine ⟨_, rfl, rfl, ?_⟩
  have taken := @columns_have_one_source Sample.folderSetting Sample.folderSchema
    Sample.folderRequest .exclude false [] _ Sample.folder_declared
    Sample.folderRegistry_declared rfl
  apply taken.2.2.2.2.2
  decide

end Plan

namespace Sample

/-- Notes in folders, in a table that has the name of the folders' first alias. -/
def noteDefinition : Definition :=
  { folderDefinition with
    name := .str "note"
    table := .str "folders_1"
    readable := .list [.str "id", .str "folder_id"]
    related := .dict [("folder_id", .str "folder")]
    search := .null
    deletedAt := .null }

def noteSchema : Schema :=
  { folderSchema with
    name := .str "note"
    table := "folders_1"
    readable := ["id", "folder_id"]
    related := [("folder_id", "folder")]
    search := []
    deletedAt := none }

theorem note_declared : noteSchema.Declared := ⟨noteDefinition, by rfl⟩

def noteRegistry : Registry := ⟨.standard, [⟨noteSchema, none⟩, ⟨folderSchema, none⟩]⟩

/-- Notes and the folders they are in both go by `folders_1`, so the names of the folders are to be
taken from either. -/
theorem folder_of_note_ambiguous : ∃ plan,
    noteRegistry.Declared ∧ noteSchema.Declared ∧
    Plan.compile ⟨noteRegistry, .standard, default⟩ noteSchema
      { Spec.all with fields := ["id", "folder_id.name"] } .exclude false [] = .ok plan ∧
    plan.sources = ["folders_1", "folders_1"] ∧ ¬ plan.sources.Nodup ∧
    (⟨"name", some "folders_1", []⟩ : Column) ∈ plan.namedColumns ∧
    plan.sources.count "folders_1" = 2 := by
  refine ⟨_, ?_, note_declared, rfl, rfl, by decide, ?_, rfl⟩
  · intro registration member
    rcases List.mem_pair.mp member with rfl | rfl
    · exact note_declared
    · exact folder_declared
  · decide

end Sample

end Curator
