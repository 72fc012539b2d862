import Curator.Proofs.Model.Assigned
import Curator.Proofs.Plan.Rendering
/-!
# Names of a resource

The names that the engine puts into statements on a resource.  Most of them are checked when its
schema is made.  The keys of the defaults are not, nor are marks that count as false and the keys
inside the columns to search: whether work on a resource can fail over a name is up to them.
-/

set_option autoImplicit false

namespace Curator

open Sql Outcome

/-! ## Checked names -/

namespace Schema

/-- The names in statements on a resource that are checked when its schema is made. -/
def checkedNames (s : Schema) : List String :=
  [s.table, s.primaryKey, s.cursorField] ++ s.readable ++ s.writable.keys ++ s.related.keys ++
    s.unique.flatMap UniqueKey.columns ++ s.upsertConflict

/-- All names in statements on a resource, the marks as they are held. -/
def placedNames (s : Schema) : List Value :=
  (s.checkedNames ++ s.defaults.keys).map Value.str ++ s.deletedAt.toList ++ s.pruneField.toList

/-- What the checks of a schema leave open of its names. -/
structure Usable (s : Schema) : Prop where
  defaults : ∀ key ∈ s.defaults.keys, Text.isIdentifier key = true
  deletedAt : ∀ mark, s.deletedAt = some mark → mark.truthy = true
  pruneField : ∀ mark, s.pruneField = some mark → mark.truthy = true
  search : ∀ name ∈ s.searchTargets, ∀ key ∈ jsonPath name, Text.isJsonKey key = true

variable {s : Schema}

theorem Declared.writable_named (declared : s.Declared) :
    ∀ key ∈ s.writable.keys, Text.isIdentifier key = true := by
  obtain ⟨d, ok⟩ := declared
  obtain ⟨fail, made⟩ := Schema.ofDefinition_ok ok
  obtain ⟨given, names, rules, named, own⟩ := made.writable
  intro key member
  rw [own] at member
  obtain ⟨⟨_, rule⟩, paired, rfl⟩ := List.mem_map.mp (Mapping.mem_keys_ofPairs member)
  exact (identifiers_ok named).2 _ (List.of_mem_zip paired).1

theorem relatedEntry_ok {fail : DefinitionFault → Failure} {columns : List String}
    {field : String} {target : Value} {entry : String × String}
    (ok : relatedEntry fail columns field target = .ok entry) : entry.1 = field := by
  unfold relatedEntry at ok
  split at ok
  · cases ok
  · split at ok
    · split at ok
      · cases ok
      · cases ok
        rfl
    · cases ok

theorem Declared.related_named (declared : s.Declared) :
    ∀ key ∈ s.related.keys, Text.isIdentifier key = true := by
  obtain ⟨d, ok⟩ := declared
  obtain ⟨fail, made⟩ := Schema.ofDefinition_ok ok
  obtain ⟨given, names, columns, named, checked⟩ := made.related
  obtain ⟨same, identified⟩ := identifiers_ok named
  intro key member
  obtain ⟨entry, among, rfl⟩ := List.mem_map.mp member
  obtain ⟨⟨field, target⟩, declares, own⟩ := mem_of_mapM_ok checked among
  rw [relatedEntry_ok own]
  apply identified
  have listed : Value.str field ∈ names.map Value.str := by
    rw [same]
    exact List.mem_map_of_mem (List.mem_map_of_mem (f := (·.1)) declares)
  simpa using listed

theorem Declared.unique_named (declared : s.Declared) :
    ∀ unique ∈ s.unique, ∀ name ∈ unique.columns, Text.isIdentifier name = true := by
  intro unique member
  obtain ⟨fail, values, _, identified⟩ := declared.unique_read unique member
  exact (identifiers_ok identified).2

theorem Declared.conflict_named (declared : s.Declared) :
    s.upsertConflict ≠ [] ∧ ∀ name ∈ s.upsertConflict, Text.isIdentifier name = true := by
  obtain ⟨d, ok⟩ := declared
  obtain ⟨fail, made⟩ := Schema.ofDefinition_ok ok
  obtain ⟨given, some_given, checked⟩ := made.upsertConflict
  obtain ⟨same, identified⟩ := identifiers_ok checked
  refine ⟨?_, identified⟩
  intro none
  rw [none] at same
  exact some_given same.symm

/-- Every checked name of a declared schema is an identifier. -/
theorem Declared.checkedNames (declared : s.Declared) :
    ∀ name ∈ s.checkedNames, Text.isIdentifier name = true := by
  have checked := declared.checked
  intro name member
  simp only [Schema.checkedNames, List.mem_append, List.mem_cons, List.not_mem_nil, or_false,
    List.mem_flatMap] at member
  rcases member with
    ((((main | readable) | writable) | related) | ⟨unique, among, column⟩) | conflict
  · rcases main with rfl | rfl | rfl
    · exact checked.table
    · exact checked.readable _ checked.primaryKey
    · exact checked.readable _ checked.cursorField
  · exact checked.readable name readable
  · exact declared.writable_named name writable
  · exact declared.related_named name related
  · exact declared.unique_named unique among name column
  · exact declared.conflict_named.2 name conflict

/-! ## Quoting and searching -/

theorem quoteValue_ok {name text : String} (ok : quoteValue (.str name) = .ok text) :
    Text.isIdentifier name = true := by
  by_contra invalid
  have refused : quoteValue (.str name) = .error (.misuse (.identifier (.str name))) :=
    if_neg invalid
  rw [refused] at ok
  cases ok

/-- A mark that counts as false is nothing that can be quoted. -/
theorem truthy_of_quoteValue {mark : Value} {text : String} (ok : quoteValue mark = .ok text) :
    mark.truthy = true := by
  cases mark with
  | str name =>
    have valid := quoteValue_ok ok
    have some_name : name ≠ "" := by
      rintro rfl
      revert valid
      decide
    simpa [Value.truthy] using some_name
  | _ => cases ok

/-- The names of a declared schema can all be quoted, and what it searches can all be reached, if
and only if it is usable. -/
theorem Declared.usable_iff (declared : s.Declared) :
    ((∀ name ∈ s.placedNames, ∃ text, quoteValue name = .ok text) ∧
      ∀ field ∈ s.searchTargets, ∃ column, Plan.rootColumn s field = .ok column) ↔ s.Usable := by
  constructor
  · rintro ⟨quotable, reachable⟩
    refine ⟨?_, ?_, ?_, ?_⟩
    · intro key member
      have placed : Value.str key ∈ s.placedNames := by
        simp [placedNames, member]
      obtain ⟨text, ok⟩ := quotable _ placed
      exact quoteValue_ok ok
    · intro mark marks
      obtain ⟨text, ok⟩ := quotable mark (by simp [placedNames, marks])
      exact truthy_of_quoteValue ok
    · intro mark marks
      obtain ⟨text, ok⟩ := quotable mark (by simp [placedNames, marks])
      exact truthy_of_quoteValue ok
    · intro field member
      obtain ⟨column, ok⟩ := reachable field member
      unfold Plan.rootColumn at ok
      simp only at ok
      split at ok
      · rename_i keys
        exact List.all_eq_true.mp keys
      · cases ok
  · intro usable
    constructor
    · intro name member
      simp only [placedNames, List.mem_append, List.mem_map, Option.mem_toList] at member
      have quoted_of : ∀ name, Text.isIdentifier name = true →
          ∃ text, quoteValue (.str name) = .ok text := fun name valid => ⟨_, if_pos valid⟩
      rcases member with (⟨key, checked | default, rfl⟩ | deleted) | pruned
      · exact quoted_of key (declared.checkedNames key checked)
      · exact quoted_of key (usable.defaults key default)
      · obtain ⟨mark, rfl, valid⟩ := declared.deletedAt deleted (usable.deletedAt name deleted)
        exact quoted_of mark valid
      · obtain ⟨mark, rfl, valid⟩ := declared.pruneField pruned (usable.pruneField name pruned)
        exact quoted_of mark valid
    · intro field member
      exact ⟨_, if_pos (List.all_eq_true.mpr (usable.search field member))⟩

end Schema

/-! ## Work that does not fail over names -/

/-- A failure over a name that no statement takes. -/
inductive Failure.Misnamed : Failure → Prop where
  | identifier (name : Value) : Misnamed (.misuse (.identifier name))
  | columnAlias (name : Value) : Misnamed (.misuse (.columnAlias name))
  | pathKey (name : Value) : Misnamed (.misuse (.pathKey name))

/-- A computation that does not fail over a name. -/
def Outcome.Named {α : Type} (x : Except Failure α) : Prop :=
  FailsOnly x fun f => ¬ f.Misnamed

theorem Sql.Select.fromClause_named (s : Select) : Named s.fromClause := by
  unfold fromClause
  split
  · exact failsOnly_error nofun
  · exact failsOnly_error nofun
  · exact failsOnly_ok _

theorem Sql.Select.integerText_named (n : Int) : Named (integerText n) := by
  refine (integerText_fails n).mono fun f long => ?_
  rw [long.2]
  exact nofun

theorem Sql.Select.toSql_named (s : Select) : Named s.toSql := by
  unfold toSql
  refine s.fromClause_named.bind fun source _ => FailsOnly.bind ?_ fun limit _ =>
    FailsOnly.bind ?_ fun offset _ => failsOnly_pure _
  · unfold limitClause
    split
    · exact failsOnly_ok _
    · exact (integerText_named _).bind fun _ _ => failsOnly_pure _
  · unfold offsetClause
    split
    · exact failsOnly_ok _
    · split
      · exact failsOnly_ok _
      · exact (integerText_named _).bind fun _ _ => failsOnly_pure _

theorem Sql.Select.deleteSql_named (s : Select) : Named s.deleteSql := by
  unfold Select.deleteSql
  split
  · exact failsOnly_error nofun
  · refine s.fromClause_named.bind fun source _ => ?_
    simp only
    split
    · exact failsOnly_pure _
    · exact failsOnly_error nofun

/-- A selection compared with a text at a column that can be quoted. -/
theorem Sql.Select.where_named {s : Select} {column : Column} {text : String}
    (rendered : FailsOnly (column.render s.dialect) fun f => ¬ f.Misnamed) :
    Named (s.where_ .and column .lt (.str text)) :=
  rendered.bind fun _ _ => FailsOnly.bind (failsOnly_ok _) fun _ _ => failsOnly_pure _

theorem Transform.epochFailure_named (fault : Calendar.EpochFault) :
    ¬ (Transform.epochFailure fault).Misnamed := by
  intro misnamed
  cases fault <;> cases misnamed

theorem Transform.momentAt_named (seconds : Int) : Named (Transform.momentAt seconds) := by
  intro f fails misnamed
  unfold Transform.momentAt at fails
  cases at_seconds : Calendar.momentOfSeconds seconds with
  | ok moment =>
    rw [at_seconds] at fails
    cases fails
  | error fault =>
    rw [at_seconds] at fails
    cases fails
    exact Transform.epochFailure_named fault misnamed

theorem momentOf_named (now : Calendar.Moment) (value : Value) : Named (momentOf now value) := by
  cases value with
  | null => exact failsOnly_ok _
  | moment => exact failsOnly_ok _
  | int n => exact Transform.momentAt_named n
  | float x =>
    intro f fails misnamed
    unfold momentOf at fails
    cases at_seconds : Calendar.momentOfFloat x with
    | ok moment =>
      simp only [at_seconds] at fails
      cases fails
    | error fault =>
      simp only [at_seconds] at fails
      cases fails
      exact Transform.epochFailure_named fault misnamed
  | _ =>
    apply failsOnly_error
    intro misnamed
    cases misnamed

theorem universal_named (m : Calendar.Moment) : Named (universal m) := by
  intro f fails misnamed
  unfold universal at fails
  cases offset : m.offset with
  | none =>
    simp only [offset] at fails
    cases fails
  | some _ =>
    cases shifted : m.toUniversal? with
    | some _ =>
      simp only [offset, shifted] at fails
      cases fails
    | none =>
      simp only [offset, shifted] at fails
      cases fails
      cases misnamed

theorem timestamp_named (now : Calendar.Moment) (value : Value) : Named (timestamp now value) :=
  (momentOf_named now value).bind fun moment _ => (universal_named moment).bind fun _ _ =>
    failsOnly_pure _

theorem Exchange.answer_named (d : Dialect) (x : Exchange) : Named (x.answer d) := by
  unfold Exchange.answer
  split
  · exact failsOnly_ok _
  · exact failsOnly_ok _
  · apply failsOnly_error
    unfold Dialect.refusalFailure
    split
    · exact nofun
    · exact nofun
    · split
      · exact nofun
      · exact nofun
    · exact nofun

namespace Session

/-- Work that does not fail over a name, whatever the database answers. -/
def Named {α : Type} (work : Session α) : Prop := ∀ s, Outcome.Named (work s).outcome

variable {α β : Type}

theorem named_of {x : Except Failure α} (named : Outcome.Named x) : Named (of x) :=
  fun _ => named

theorem named_pure (a : α) : Named (pure a : Session α) :=
  fun _ => failsOnly_ok a

theorem named_log (level : LogLevel) (message : String) : Named (log level message) :=
  fun _ => failsOnly_ok _

theorem named_dialect : Named dialect :=
  fun _ => failsOnly_ok _

theorem Named.bind {first : Session α} {next : α → Session β} (named : Named first)
    (later : ∀ a s, (first s).outcome = .ok a → Named (next a)) : Named (first >>= next) := by
  intro s f fails
  simp only [Bind.bind, andThen] at fails
  split at fails
  · rename_i failed
    cases fails
    exact named s f failed
  · rename_i a came
    exact later a s came _ f fails

theorem named_execute (f : Fragment) : Named (execute f) := by
  intro s
  cases pending : s.database.pending with
  | none =>
    rw [execute_disconnected pending]
    exact failsOnly_error nofun
  | some script =>
    rw [execute_connected pending]
    exact Exchange.answer_named _ _

theorem named_fetch (selection : Select) : Named (fetch selection) :=
  (named_of selection.toSql_named).bind fun _ _ _ =>
    (named_execute _).bind fun _ _ _ => named_pure _

theorem named_remove (selection : Select) : Named (remove selection) :=
  (named_of selection.deleteSql_named).bind fun _ _ _ =>
    (named_execute _).bind fun _ _ _ => named_pure _

end Session

namespace Model

variable {m : Model} {name : String}

theorem rows_named (checked : m.schema.Checked) : Session.Named m.rows := by
  unfold rows rowsOf
  refine Session.named_dialect.bind fun d _ _ => Session.named_of ?_
  exact (quote_identifier checked.table).bind fun _ _ => failsOnly_pure _

theorem column_named (checked : m.schema.Checked) (valid : Text.isIdentifier name = true)
    (d : Dialect) : FailsOnly ((m.column name).render d) fun f => ¬ f.Misnamed :=
  Column.render_bare (quote_identifier valid) (quote_identifier checked.table)

/-- Old rows are looked for by any column that can be quoted. -/
theorem keysBefore_named (checked : m.schema.Checked) (valid : Text.isIdentifier name = true)
    (before : Value) : Session.Named (m.keysBefore name before) := by
  have key := checked.readable _ checked.primaryKey
  unfold keysBefore
  refine (rows_named checked).bind fun selection _ _ => ?_
  refine Session.Named.bind ?_ fun keyed _ _ => ?_
  · apply Session.named_of
    refine (column_named checked key _).bind fun _ _ => ?_
    refine FailsOnly.bind ?_ fun _ _ => failsOnly_pure _
    unfold quoteAlias
    rw [if_pos (Text.isAlias_of_isIdentifier key)]
    exact failsOnly_ok _
  refine (Session.named_of (timestamp_named _ _)).bind fun limit _ _ => ?_
  refine Session.Named.bind ?_ fun narrow _ _ => ?_
  · exact Session.named_of (Select.where_named (column_named checked valid _))
  refine (Session.named_fetch _).bind fun rows _ _ => Session.named_of ?_
  apply failsOnly_mapM
  intro row _
  unfold Session.columnValue
  split
  · exact failsOnly_ok _
  · exact failsOnly_error nofun

theorem removeBefore_named (checked : m.schema.Checked) (valid : Text.isIdentifier name = true)
    (before : Value) : Session.Named (m.removeBefore name before) := by
  unfold removeBefore
  refine (rows_named checked).bind fun selection _ _ => ?_
  refine (Session.named_of (timestamp_named _ _)).bind fun limit _ _ => ?_
  refine Session.Named.bind ?_ fun narrow _ _ => Session.named_remove _
  apply Session.named_of
  apply Select.where_named
  exact Column.render_fails (fun _ member => nomatch member) (quote_identifier valid) nofun

end Model

/-! ## Work on a usable resource -/

/-- What is looked for, written and removed on a resource does not fail over its names. -/
structure Schema.Written (s : Schema) : Prop where
  /-- A search reaches every column that it looks into. -/
  search : ∀ text, ∃ steps, Plan.searchSteps s text = .ok steps
  /-- A list is written but for line ends within names, if the resources it joins are usable too. -/
  list : ∀ (setting : Plan.Setting) (spec : Spec) (trashed : TrashedMode) (listAll : Bool)
    (plan : Plan) (d : Dialect), setting.registry.Declared → setting.registry.Holds s →
    (∀ other, setting.registry.Holds other → other.Usable) →
    Plan.compile setting s spec trashed listAll [] = .ok plan →
    FailsOnly (plan.fetchSql d) fun f => f.Misnamed →
      (∃ c ∈ plan.columns, '\n' ∈ c.label.toList) ∨ ∃ join ∈ plan.joins, '\n' ∈ join.table.toList
  /-- Values that were checked are inserted with the defaults, over another row or not. -/
  create : ∀ (d : Dialect) (kind : WriteKind) (fields values : Record),
    Model.prepared s kind fields = .ok values →
    (∃ f, insertSql d s.table (Model.withDefaults s values) .fail = .ok f) ∧
      ∃ f, insertSql d s.table (Model.withDefaults s values) (.overwrite s.upsertConflict) = .ok f
  delete : ∀ (d : Dialect) (key : Value), ∃ f, deleteSql d s.table [(s.primaryKey, key)] = .ok f
  /-- The mark of trashed rows is put and taken away. -/
  trash : s.softDeletes = true → ∀ (d : Dialect) (mark key : Value),
    ∃ f, updateSql d s.table [(s.deletedAtColumn, mark)] [(s.primaryKey, key)] = .ok f
  purge : s.softDeletes = true → ∀ (m : Model) (before : Value), m.schema = s →
    Session.Named (m.keysBefore s.deletedAtColumn before) ∧
      Session.Named (m.purgeTrashedQuietly before)
  prune : s.prunable = true → ∀ (m : Model) (before : Value), m.schema = s →
    Session.Named (m.keysBefore s.pruneColumn before) ∧ Session.Named (m.pruneQuietly before)

namespace Schema

variable {s : Schema}

theorem Usable.deletedAtColumn (usable : s.Usable) (declared : s.Declared)
    (trashes : s.softDeletes = true) : Text.isIdentifier s.deletedAtColumn = true := by
  obtain ⟨mark, marks⟩ := Option.isSome_iff_exists.mp trashes
  exact declared.deletedAtColumn marks (usable.deletedAt mark marks)

theorem Usable.pruneColumn (usable : s.Usable) (declared : s.Declared)
    (prunes : s.prunable = true) : Text.isIdentifier s.pruneColumn = true := by
  obtain ⟨mark, marks⟩ := Option.isSome_iff_exists.mp prunes
  obtain ⟨name, rfl, valid⟩ := declared.pruneField marks (usable.pruneField mark marks)
  rw [Schema.pruneColumn, marks]
  exact valid

/-- A new row has columns that are writable or have a default. -/
theorem Usable.created (usable : s.Usable) (declared : s.Declared) {kind : WriteKind}
    {fields values : Record} (ok : Model.prepared s kind fields = .ok values) :
    ∀ key ∈ Mapping.keys (Model.withDefaults s values), Text.isIdentifier key = true := by
  intro key member
  obtain ⟨v, found⟩ := Mapping.value?_of_mem_keys member
  rw [Model.value?_withDefaults] at found
  rcases Option.or_eq_some_iff.mp found with given | ⟨_, default⟩
  · have among : key ∈ fields.keys := by
      rw [← TransformTable.keys_transformed (Model.prepared_ok ok).2]
      exact List.mem_map_of_mem (f := (·.1)) (Mapping.mem_of_value? given)
    have writable := Model.writable_of_prepared ok key among
    exact declared.writable_named key (Mapping.has_iff_mem_keys.mp writable)
  · exact usable.defaults key (List.mem_map_of_mem (f := (·.1)) (Mapping.mem_of_value? default))

theorem Usable.listed (declared : s.Declared) {setting : Plan.Setting} {spec : Spec}
    {trashed : TrashedMode} {listAll : Bool} {plan : Plan}
    (registered : setting.registry.Declared) (held : setting.registry.Holds s)
    (usable : ∀ other, setting.registry.Holds other → other.Usable)
    (compiles : Plan.compile setting s spec trashed listAll [] = .ok plan) (d : Dialect) :
    FailsOnly (plan.fetchSql d) fun f => f.Misnamed →
      (∃ c ∈ plan.columns, '\n' ∈ c.label.toList) ∨
        ∃ join ∈ plan.joins, '\n' ∈ join.table.toList := by
  obtain ⟨selected, filter, search, cursor, compiled⟩ := Plan.compile_ok compiles
  refine (compiled.fetchSql_fails declared registered held d).mono fun f cause misnamed => ?_
  rcases cause with refused | unwritten
  · cases misnamed <;> cases refused
  · cases unwritten with
    | label selected broken => exact Or.inl ⟨_, selected, broken⟩
    | table joined broken => exact Or.inr ⟨_, joined, broken⟩
    | mark held marks falsy =>
      rw [(usable _ held).deletedAt _ marks] at falsy
      cases falsy
    | operand _ _ _ => cases misnamed
    | limit _ _ => cases misnamed
    | offset _ _ => cases misnamed

theorem Usable.written (usable : s.Usable) (declared : s.Declared) : s.Written := by
  have checked := declared.checked
  have key := checked.readable _ checked.primaryKey
  have only_key : ∀ v : Value, ∀ name ∈ Mapping.keys [(s.primaryKey, v)],
      Text.isIdentifier name = true := by
    intro v name member
    rw [List.mem_singleton.mp member]
    exact key
  constructor
  · intro text
    unfold Plan.searchSteps
    split
    · exact ⟨[], rfl⟩
    · apply ok_of_never
      refine FailsOnly.bind (failsOnly_mapM ?_) fun tests _ => failsOnly_pure _
      intro name member
      obtain ⟨column, reached⟩ := (declared.usable_iff.mpr usable).2 name member
      rw [reached]
      exact failsOnly_pure _
  · intro setting spec trashed listAll plan d registered held others compiles
    exact Usable.listed declared registered held others compiles d
  · intro d kind fields values ok
    have columns := usable.created declared ok
    constructor
    · exact ok_of_never (insertSql_fails checked.table columns nofun)
    · apply ok_of_never
      refine insertSql_fails checked.table columns ?_
      intro names same
      cases same
      exact declared.conflict_named
  · intro d value
    exact ok_of_never (deleteSql_fails (by simp) checked.table (only_key value))
  · intro trashes d mark value
    refine ok_of_never (updateSql_fails checked.table ?_ (only_key value))
    intro name member
    rw [List.mem_singleton.mp member]
    exact usable.deletedAtColumn declared trashes
  · intro trashes m before same
    subst same
    have column := usable.deletedAtColumn declared trashes
    refine ⟨Model.keysBefore_named checked column before, ?_⟩
    exact (Model.removeBefore_named checked column before).bind fun _ _ _ =>
      (Session.named_log _ _).bind fun _ _ _ => Session.named_pure _
  · intro prunes m before same
    subst same
    have column := usable.pruneColumn declared prunes
    refine ⟨Model.keysBefore_named checked column before, ?_⟩
    exact (Model.removeBefore_named checked column before).bind fun _ _ _ =>
      (Session.named_log _ _).bind fun _ _ _ => Session.named_pure _

/-- The names that statements put in for a declared schema.  Those that are checked can be quoted.
All of them can, and all that is searched can be reached, if and only if the schema is usable; work
on a usable resource does not fail over its names. -/
theorem Declared.names_written_if_usable (declared : s.Declared) :
    (∀ name ∈ s.checkedNames, quote name = .ok (quoted name)) ∧
      (((∀ name ∈ s.placedNames, ∃ text, quoteValue name = .ok text) ∧
        ∀ field ∈ s.searchTargets, ∃ column, Plan.rootColumn s field = .ok column) ↔ s.Usable) ∧
      (s.Usable → s.Written) := by
  refine ⟨?_, declared.usable_iff, fun usable => usable.written declared⟩
  intro name member
  exact if_pos (declared.checkedNames name member)

end Schema

namespace Sample

theorem folder_usable : folderSchema.Usable where
  defaults := nofun
  deletedAt := by
    intro mark marks
    cases marks
    rfl
  pruneField := nofun
  search := by
    intro name member
    rw [List.mem_singleton.mp member]
    decide

/-- The names of folders can be quoted, and work on folders does not fail over them. -/
theorem folder_names_written :
    (∀ name ∈ folderSchema.placedNames, ∃ text, quoteValue name = .ok text) ∧
      folderSchema.Written := by
  obtain ⟨_, all_named, written⟩ := folder_declared.names_written_if_usable
  exact ⟨(all_named.mpr folder_usable).1, written folder_usable⟩

/-- Pages with a default for what is no column. -/
def strayPage : Record :=
  [("resource", .str "page"), ("table", .str "pages"), ("readable", .list [.str "id"]),
    ("defaults", .dict [("a b", .int 1)])]

/-- The name of a default is not checked when a schema is made, and no row can be inserted. -/
theorem stray_default_not_inserted :
    (Schema.ofDocument strayPage).map (fun s =>
      (s.defaults.keys.map quote, insertSql .sqlite s.table (Model.withDefaults s []) .fail)) =
    .ok ([.error (.misuse (.identifier (.str "a b")))],
      .error (.misuse (.identifier (.str "a b")))) := by
  rfl

end Sample

end Curator
