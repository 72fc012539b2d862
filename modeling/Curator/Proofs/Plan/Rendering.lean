import Curator.Proofs.Plan.Reached
import Curator.Proofs.Plan.Readable
import Curator.Proofs.Plan.Refusals
import Curator.Proofs.Sql.Refusals
import Curator.Proofs.Text.Names
/-!
# Plans that are not written

The statement of a compiled plan is written or refused, but for what the names of resources and the
values of a request may hold that no check looks for: line ends inside of names, and integers of too
many digits.
-/

set_option autoImplicit false

namespace Curator

open Sql Outcome Number

/-! ## Names of a plan -/

/-- What can keep the statement of a plan from being written, and how it fails. -/
inductive Plan.Unwritten (registry : Registry) (plan : Plan) : Failure → Prop where
  | label {c : PlanColumn} (selected : c ∈ plan.columns) (broken : '\n' ∈ c.label.toList) :
      Unwritten registry plan (.misuse (.columnAlias (.str c.label)))
  | table {join : Join} (joined : join ∈ plan.joins) (broken : '\n' ∈ join.table.toList) :
      Unwritten registry plan (.misuse (.identifier (.str join.label)))
  | mark {schema : Schema} {value : Value} (held : registry.Holds schema)
      (marks : schema.deletedAt = some value) (falsy : value.truthy = false) :
      Unwritten registry plan (.misuse (.identifier (.str value.text)))
  | operand {connector : Connector} {column : Column} {operator : Operator} {operand : Value}
      (tested : .test connector column operator operand ∈ plan.steps)
      (writes : operator.writes = true) (long : operand.isWritable = false) :
      Unwritten registry plan .digits
  | limit {n : Int} (limited : plan.limit = some n) (long : withinDigitLimit n = false) :
      Unwritten registry plan .digits
  | offset {n : Int} (skipped : plan.offset = some n) (long : withinDigitLimit n = false) :
      Unwritten registry plan .digits

/-! ## Resources that are reached -/

section

variable {registry : Registry} {root : Schema} {maxDepth : Int}

theorem Reaches.held {schema : Schema} {path : List String} (rootHeld : registry.Holds root)
    (reaches : Reaches registry root path schema) : registry.Holds schema := by
  cases reaches with
  | root => exact rootHeld
  | field _ _ _ found =>
    unfold FieldSelection.relatedSchema at found
    split at found
    · cases found
      exact rootHeld
    · unfold Registry.schema at found
      split at found
      · rename_i registration registered
        cases found
        exact ⟨registration, List.mem_of_find?_eq_some registered, rfl⟩
      · cases found

theorem Reaches.identifiers {schema : Schema} {path : List String} (declared : registry.Declared)
    (rootChecked : root.Checked) (reaches : Reaches registry root path schema) :
    ∀ part ∈ path, Text.isIdentifier part = true := by
  induction reaches with
  | root => simp
  | field before readable _ _ ih =>
    intro part member
    rcases List.mem_append.mp member with member | member
    · exact ih part member
    · rw [List.mem_singleton.mp member]
      exact (before.checked declared rootChecked).readable _ readable

namespace FieldSelection

variable {s : FieldSelection}

theorem Steps.keyed (steps : Steps registry root maxDepth empty s) :
    ∀ c ∈ s.columns, ∀ key ∈ c.column.path, Text.isJsonKey key = true := by
  induction steps with
  | refl => exact fun _ member => nomatch member
  | tail _ step ih =>
    cases step with
    | join =>
      rw [join_columns]
      exact ih
    | column _ _ _ _ added =>
      rcases addColumn_ok added with ⟨_, rfl⟩ | ⟨_, keys, _⟩
      · exact ih
      · rcases addColumn_columns added with ⟨_, same⟩ | ⟨_, same⟩
        · rw [same]
          exact ih
        · rw [same]
          intro c member
          rcases List.mem_append.mp member with member | member
          · exact ih c member
          · rw [List.mem_singleton.mp member]
            exact List.all_eq_true.mp keys

/-- The alias of a joined table is an identifier, unless the name of the table has a line end before
the number. -/
theorem Steps.label_named (declared : registry.Declared) (rootChecked : root.Checked)
    (steps : Steps registry root maxDepth empty s) {join : Join} (joined : join ∈ s.joins) :
    Text.isIdentifier join.label = true ∨ '\n' ∈ join.table.toList := by
  by_cases broken : '\n' ∈ join.table.toList
  · exact Or.inr broken
  · obtain ⟨next, _, _, here⟩ := steps.joinedAt join joined
    obtain ⟨n, _, numbered⟩ := steps.aliasesCount.numbered join joined
    have checked := here.reaches.checked declared rootChecked
    left
    rw [numbered]
    apply Text.isIdentifier_numbered _ broken
    rw [here.table]
    exact checked.table

end FieldSelection

end

namespace Plan

section

variable {setting : Setting} {schema : Schema} {spec : Spec} {trashed : TrashedMode}
  {listAll : Bool} {plan : Plan} {selected : FieldSelection} {filter search cursor : List PlanStep}

/-- Failures of requests, and those of a plan that is not written. -/
def Unfetched (registry : Registry) (plan : Plan) (f : Failure) : Prop :=
  f.category = .request ∨ plan.Unwritten registry f

theorem Compiled.label_named (declared : schema.Declared) (registered : setting.registry.Declared)
    (compiled : Compiled setting schema spec trashed listAll [] plan selected filter search cursor)
    {join : Join} (joined : join ∈ plan.joins) :
    FailsOnly (quote join.label) (Unfetched setting.registry plan) := by
  have steps := FieldSelection.ofFields_steps registered declared.checked compiled.fields_ok
  rw [compiled.joins_eq] at joined
  rcases steps.label_named registered declared.checked joined with valid | broken
  · exact quote_identifier valid
  · rw [← compiled.joins_eq] at joined
    exact quote_fails fun _ => Or.inr (.table joined broken)

/-- A table or an alias under which a compiled plan knows a resource. -/
theorem Compiled.place_named (declared : schema.Declared) (registered : setting.registry.Declared)
    (compiled : Compiled setting schema spec trashed listAll [] plan selected filter search cursor)
    {path : List String} {table : String} (place : plan.tableAt? path = some table) :
    FailsOnly (quote table) (Unfetched setting.registry plan) := by
  unfold Plan.tableAt? at place
  split at place
  · cases place
    rw [compiled.schema_eq]
    exact quote_identifier declared.checked.table
  · obtain ⟨join, found, rfl⟩ := Option.map_eq_some_iff.mp place
    exact compiled.label_named declared registered (List.mem_of_find?_eq_some found)

/-- A selected column is written under its label. -/
theorem Compiled.column_fails (declared : schema.Declared)
    (registered : setting.registry.Declared)
    (compiled : Compiled setting schema spec trashed listAll [] plan selected filter search cursor)
    {c : PlanColumn} (member : c ∈ plan.columns) (s : Select) :
    FailsOnly (replayColumn s c) (Unfetched setting.registry plan) := by
  have checked := declared.checked
  have steps := FieldSelection.ofFields_steps registered checked compiled.fields_ok
  obtain ⟨path, next, table, name, reaches, label, readable, place, column⟩ :=
    compiled.selectsReadable declared registered c member
  have keys : ∀ key ∈ c.column.path, Text.isJsonKey key = true :=
    steps.keyed c (compiled.columns_eq ▸ member)
  rw [compiled.schema_eq] at reaches
  have identifier := (reaches.checked registered checked).readable _ readable
  unfold replayColumn Select.column
  refine FailsOnly.bind ?_ fun expr _ => FailsOnly.bind ?_ fun written _ => failsOnly_pure _
  · rw [column] at keys ⊢
    refine Column.render_fails keys (quote_identifier identifier) ?_
    intro owner same
    cases same
    exact compiled.place_named declared registered place
  · unfold quoteAlias
    split
    · exact failsOnly_ok _
    · rename_i invalid
      apply failsOnly_error
      right
      apply Unwritten.label member
      by_contra clear
      apply invalid
      apply Text.isAlias_of clear
      rw [label]
      intro part among
      rcases List.mem_append.mp among with among | among
      · have valid := reaches.identifiers registered checked part among
        rw [baseField_of_isIdentifier valid, jsonPath_of_isIdentifier valid]
        exact ⟨valid, nofun⟩
      · rw [List.mem_singleton.mp among]
        rw [column] at keys
        exact ⟨identifier, keys⟩

theorem Compiled.join_fails (declared : schema.Declared) (registered : setting.registry.Declared)
    (compiled : Compiled setting schema spec trashed listAll [] plan selected filter search cursor)
    {join : Join} (member : join ∈ plan.joins) (s : Select) :
    FailsOnly (replayJoin s join) (Unfetched setting.registry plan) := by
  have checked := declared.checked
  obtain ⟨front, before, next, reachesFront, reaches, path, readable, owner, table, primaryKey⟩ :=
    (compiled.joinsReadable declared registered).1 join member
  rw [compiled.schema_eq] at reachesFront reaches
  have nextChecked := reaches.checked registered checked
  have keyNamed := nextChecked.readable _ nextChecked.primaryKey
  have columnNamed := (reachesFront.checked registered checked).readable _ readable
  have labelNamed := compiled.label_named declared registered member
  unfold replayJoin
  rw [table, primaryKey]
  apply Select.leftJoin_fails (quote_identifier nextChecked.table) labelNamed
  · intro d
    refine Column.render_bare (quote_identifier columnNamed) ?_
    exact compiled.place_named declared registered owner
  · intro d
    exact Column.render_bare (quote_identifier keyNamed) labelNamed

theorem Compiled.cursor_written
    (compiled :
      Compiled setting schema spec trashed listAll [] plan selected filter search cursor) :
    Balanced cursor ∧ ∀ step ∈ cursor, Keyed step := by
  have ok := compiled.cursor_ok
  cases listAll with
  | true =>
    cases pure_ok ok
    exact ⟨.nil, by simp⟩
  | false => exact cursorSteps_written ok

/-- The mark of trashed rows is a column, unless it counts as false. -/
theorem mark_named {registry : Registry} {next : Schema} (registered : registry.Declared)
    (held : registry.Holds next) (trashes : next.softDeletes = true) :
    FailsOnly (quote next.deletedAtColumn) (Unfetched registry plan) := by
  obtain ⟨value, marks⟩ := Option.isSome_iff_exists.mp trashes
  have declared : next.Declared := by
    obtain ⟨registration, member, rfl⟩ := held
    exact registered registration member
  have column : next.deletedAtColumn = value.text := by
    rw [Schema.deletedAtColumn, marks]
    rfl
  by_cases truthy : value.truthy = true
  · exact quote_identifier (declared.deletedAtColumn marks truthy)
  · rw [column]
    exact quote_fails fun _ => Or.inr (.mark held marks (by simpa using truthy))

/-- A condition on a column with checked keys, whose names can be quoted. -/
def Nameable (P : Failure → Prop) (step : PlanStep) : Prop :=
  Keyed step ∧ ∀ connector column operator operand,
    step = .test connector column operator operand →
      FailsOnly (quote column.name) P ∧
        ∀ table, column.table = some table → FailsOnly (quote table) P

theorem nameable_bare {P : Failure → Prop} {connector : Connector} {name table : String}
    {operator : Operator} {operand : Value} (own : FailsOnly (quote name) P)
    (owner : FailsOnly (quote table) P) :
    Nameable P (.test connector ⟨name, some table, []⟩ operator operand) := by
  refine ⟨keyed_of_bare, ?_⟩
  intro _ _ _ _ same
  cases same
  refine ⟨own, ?_⟩
  intro other named
  cases named
  exact owner

theorem nameable_shown (checked : schema.Checked) {P : Failure → Prop} {step : PlanStep}
    (keyed : Keyed step) (shows : step.OnReadable schema) : Nameable P step := by
  refine ⟨keyed, ?_⟩
  intro connector column operator operand same
  rw [same] at shows
  refine ⟨quote_identifier (checked.readable _ shows.2), ?_⟩
  intro table named
  cases named.symm.trans shows.1
  exact quote_identifier checked.table

/-- The conditions of a compiled plan can be named, but for the marks of trashed rows. -/
theorem Compiled.step_nameable (declared : schema.Declared)
    (registered : setting.registry.Declared) (held : setting.registry.Holds schema)
    (compiled : Compiled setting schema spec trashed listAll [] plan selected filter search cursor)
    {step : PlanStep} (member : step ∈ plan.steps) :
    Nameable (Unfetched setting.registry plan) step := by
  have checked := declared.checked
  have shows := compiled.onReadable declared
  have among := member
  rw [compiled.steps_eq] at among
  simp only [List.mem_append, equalitySteps, List.map_nil, List.not_mem_nil, or_false] at among
  rcases among with (((excluded | filtered) | visible) | searched) | placed
  -- the conditions on joined resources name columns that the request does not
  · obtain ⟨path, next, label, _, reaches, place, trashes, rfl⟩ :=
      (compiled.exclusions declared registered).1 step excluded
    rw [compiled.schema_eq] at reaches
    apply nameable_bare
    · exact mark_named registered (reaches.held held) trashes
    · exact compiled.place_named declared registered place
  · apply nameable_shown checked
    · exact (filterSteps_written compiled.filter_ok).2 step filtered
    · exact shows step (by simp [filtered])
  · obtain ⟨trashes, operator, rfl⟩ := visibilitySteps_marker step visible
    apply nameable_bare
    · exact mark_named registered held trashes
    · exact quote_identifier checked.table
  · apply nameable_shown checked
    · exact (searchSteps_written compiled.search_ok).2 step searched
    · exact shows step (by simp [searched])
  · apply nameable_shown checked
    · exact compiled.cursor_written.2 step placed
    · exact shows step (by simp [placed])

/-- A condition is written, or its operand is refused. -/
theorem Compiled.where_fails (declared : schema.Declared) (registered : setting.registry.Declared)
    (held : setting.registry.Holds schema)
    (compiled : Compiled setting schema spec trashed listAll [] plan selected filter search cursor)
    {connector : Connector} {column : Column} {operator : Operator} {operand : Value}
    (member : PlanStep.test connector column operator operand ∈ plan.steps) (s : Select) :
    FailsOnly (s.where_ connector column operator operand) (Unfetched setting.registry plan) := by
  obtain ⟨keyed, named⟩ := compiled.step_nameable declared registered held member
  have keys := keyed connector column operator operand rfl
  obtain ⟨own, owner⟩ := named connector column operator operand rfl
  unfold Select.where_
  refine (Column.render_fails keys own owner).bind fun expr _ => ?_
  refine FailsOnly.bind ?_ fun fragment _ => failsOnly_pure _
  refine Operator.render_fails.mono fun f cause => ?_
  rcases cause with refused | ⟨writes, long, rfl⟩
  · exact Or.inl refused
  · exact Or.inr (.operand member writes long)

theorem Compiled.balanced (compiled :
      Compiled setting schema spec trashed listAll [] plan selected filter search cursor)
    (excludes : ∀ step ∈ selected.exclusions, ExcludesTrashed setting.registry plan step) :
    Balanced plan.steps := by
  have excluding : Balanced selected.exclusions := by
    apply balanced_tests
    intro step member
    obtain ⟨_, _, _, _, _, _, _, rfl⟩ := excludes step member
    exact ⟨_, _, _, _, rfl⟩
  have visible : Balanced (visibilitySteps schema trashed) := by
    apply balanced_tests
    intro step member
    obtain ⟨_, _, rfl⟩ := visibilitySteps_marker step member
    exact ⟨_, _, _, _, rfl⟩
  rw [compiled.steps_eq]
  exact .append (.append (.append (.append (.append excluding
    (filterSteps_written compiled.filter_ok).1) visible) .nil)
    (searchSteps_written compiled.search_ok).1) compiled.cursor_written.1

theorem root_written (checked : schema.Checked) {P : Failure → Prop} {name : String}
    (readable : name ∈ schema.readable) (d : Dialect) :
    FailsOnly (Column.render d ⟨name, some schema.table, []⟩) P :=
  Column.render_bare (quote_identifier (checked.readable _ readable))
    (quote_identifier checked.table)

theorem settled_fails {P : Failure → Prop} {r : Select × Option Failure}
    (refused : ∀ f, r.2 = some f → P f) : FailsOnly (settled r) P := by
  obtain ⟨s, failure⟩ := r
  cases failure with
  | none => exact failsOnly_ok _
  | some failure => exact failsOnly_error (refused failure rfl)

/-- The selection of a compiled plan is made clause by clause, but for names with line ends and
operands that are too long. -/
theorem Compiled.selection_fails (declared : schema.Declared)
    (registered : setting.registry.Declared) (held : setting.registry.Holds schema)
    (compiled : Compiled setting schema spec trashed listAll [] plan selected filter search cursor)
    (d : Dialect) :
    FailsOnly (plan.selection d true) (Unfetched setting.registry plan) := by
  have checked := declared.checked
  have balanced := compiled.balanced (compiled.exclusions declared registered).1
  unfold selection
  refine FailsOnly.bind ?_ fun table _ => ?_
  · unfold Select.from_
    rw [compiled.schema_eq]
    exact (quote_identifier checked.table).bind fun _ _ => failsOnly_pure _
  refine FailsOnly.bind ?_ fun columns _ => ?_
  · exact failsOnly_foldlM (K := fun _ => True)
      (fun s c member _ => compiled.column_fails declared registered member s)
      (fun _ _ _ _ _ _ => trivial) trivial
  refine FailsOnly.bind ?_ fun joins _ => ?_
  · exact failsOnly_foldlM (K := fun _ => True)
      (fun s join member _ => compiled.join_fails declared registered member s)
      (fun _ _ _ _ _ _ => trivial) trivial
  refine FailsOnly.bind ?_ fun steps _ => ?_
  · refine (balanced.replays ?_ joins).1
    intro connector column operator operand member s
    exact compiled.where_fails declared registered held member s
  refine FailsOnly.bind ?_ fun grouped _ => ?_
  · apply settled_fails
    intro f refused
    apply Select.renderedUntilRefused_fails _ refused
    intro column member
    obtain ⟨item, among, rfl⟩ := List.mem_map.mp member
    obtain ⟨name, _, made⟩ := mem_of_mapM_ok compiled.group_ok among
    obtain ⟨readable, same⟩ := groupColumn_ok checked made
    rw [same]
    exact root_written checked readable _
  refine FailsOnly.bind ?_ fun ordered _ => failsOnly_pure _
  apply settled_fails
  intro f refused
  apply Select.renderedUntilRefused_fails _ refused
  intro item member
  obtain ⟨name, readable, same⟩ := sortOrder_ok checked compiled.order_ok item member
  apply Select.orderItem_fails
  have own : Column.parse (Text.dropLeading (fun c => c == '+' || c == '-') item) =
      ⟨name, some schema.table, []⟩ := same
  rw [own]
  exact root_written checked readable _

/-- A selection that is made has its table, and no group is left open. -/
theorem Compiled.selection_begun (declared : schema.Declared)
    (registered : setting.registry.Declared)
    (compiled : Compiled setting schema spec trashed listAll [] plan selected filter search cursor)
    {d : Dialect} {s : Select} (ok : plan.selection d true = .ok s) :
    s.Begun ∧ s.limit = plan.limit ∧ s.offset = plan.offset := by
  obtain ⟨table, columns, joins, steps, table_ok, columns_ok, joins_ok, steps_ok, rfl⟩ :=
    selection_ok ok
  have chosen : columns.Begun :=
    foldlM_keeps (P := Select.Begun) (fun _ _ _ _ begun ok => begun.column ok)
      (Select.begun_from table_ok) columns_ok
  have joined : joins.Begun :=
    foldlM_keeps (P := Select.Begun) (fun _ _ _ _ begun ok => begun.leftJoin ok) chosen joins_ok
  have balanced := compiled.balanced (compiled.exclusions declared registered).1
  have replays := balanced.replays (P := fun _ => True) (fun _ _ _ _ _ _ _ _ => trivial) joins
  obtain ⟨groups, named⟩ := replays.2 steps steps_ok
  obtain ⟨hasTable, closed⟩ := joined
  rw [closed, List.length_nil, List.length_eq_zero_iff] at groups
  rw [← named] at hasTable
  exact ⟨⟨hasTable, groups⟩, rfl, rfl⟩

/-- The statement of a compiled plan is written, or refused, but for names with line ends and
integers that are too long. -/
theorem Compiled.fetchSql_fails (declared : schema.Declared)
    (registered : setting.registry.Declared) (held : setting.registry.Holds schema)
    (compiled : Compiled setting schema spec trashed listAll [] plan selected filter search cursor)
    (d : Dialect) : FailsOnly (plan.fetchSql d) (Unfetched setting.registry plan) := by
  unfold fetchSql
  refine (compiled.selection_fails declared registered held d).bind fun s made => ?_
  obtain ⟨begun, limit, offset⟩ := compiled.selection_begun declared registered made
  refine begun.toSql_fails.mono fun f cause => ?_
  obtain ⟨rfl, n, isLimit | isOffset, long⟩ := cause
  · exact Or.inr (.limit (limit.symm.trans isLimit) long)
  · exact Or.inr (.offset (offset.symm.trans isOffset) long)

end

end Plan

end Curator
