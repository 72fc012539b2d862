import Curator.Proofs.Database.World
import Curator.Proofs.Model.Pages
import Curator.Proofs.Model.Walking
/-!
# Labels of columns

The labels under which a plan fetches columns are all different, and a requested field without stars
is one of them.  So a fetched row has each value under one name, and the tokens that paging reports
are those of the cursor column, however the rows are shown.
-/

set_option autoImplicit false

namespace Curator

open Sql Outcome Session

/-! ## Columns that are added -/

namespace FieldSelection

variable {s t : FieldSelection} {label : String}

theorem hasAlias_iff : s.hasAlias label = true ↔ ∃ c ∈ s.columns, c.label = label := by
  simp only [hasAlias, List.any_eq_true, beq_iff_eq]

theorem hasAlias_of_columns {more : List PlanColumn} (grows : t.columns = s.columns ++ more)
    (known : s.hasAlias label = true) : t.hasAlias label = true := by
  obtain ⟨c, member, same⟩ := hasAlias_iff.mp known
  refine hasAlias_iff.mpr ⟨c, ?_, same⟩
  rw [grows]
  exact List.mem_append_left more member

theorem addColumn_hasAlias {schema : Schema} {path : List String} {table name : String}
    (ok : s.addColumn schema path table name = .ok t) : t.hasAlias (fullName path name) = true := by
  rcases addColumn_columns ok with ⟨known, same⟩ | ⟨_, grows⟩
  · exact hasAlias_of_columns (same.trans (List.append_nil _).symm) known
  · have last := List.mem_append_right s.columns (List.mem_singleton_self
      (⟨fullName path name, ⟨baseField name, some table, jsonPath name⟩⟩ : PlanColumn))
    exact hasAlias_iff.mpr ⟨_, grows ▸ last, rfl⟩

theorem distinct_snoc {columns : List PlanColumn} {c : PlanColumn}
    (distinct : (columns.map (·.label)).Nodup) (fresh : ∀ other ∈ columns, other.label ≠ c.label) :
    ((columns ++ [c]).map (·.label)).Nodup := by
  rw [List.map_append, List.nodup_append]
  refine ⟨distinct, List.nodup_singleton _, ?_⟩
  intro label member other single
  obtain ⟨before, known, rfl⟩ := List.mem_map.mp member
  rw [List.mem_singleton.mp single]
  exact fresh before known

section

variable {registry : Registry} {root : Schema} {maxDepth : Int}

/-- A change adds at most one column, with a label that is new. -/
theorem Step.columns (step : Step registry root maxDepth s t) :
    t.columns = s.columns ∨ ∃ c, s.hasAlias c.label = false ∧ t.columns = s.columns ++ [c] := by
  cases step with
  | column _ _ _ _ added =>
    rcases addColumn_columns added with ⟨_, same⟩ | ⟨fresh, grows⟩
    · exact Or.inl same
    · exact Or.inr ⟨_, fresh, grows⟩
  | join _ _ _ _ _ _ => exact Or.inl (join_columns s _ _ _ _)

theorem Steps.hasAlias (steps : Steps registry root maxDepth s t)
    (known : s.hasAlias label = true) : t.hasAlias label = true := by
  induction steps with
  | refl => exact known
  | tail _ step ih =>
    rcases step.columns with same | ⟨c, _, grows⟩
    · exact hasAlias_of_columns (same.trans (List.append_nil _).symm) ih
    · exact hasAlias_of_columns grows ih

/-- However fields repeat and stars overlap, no label comes twice. -/
theorem Steps.distinct (steps : Steps registry root maxDepth empty s) :
    (s.columns.map (·.label)).Nodup := by
  induction steps with
  | refl => exact List.nodup_nil
  | @tail s t _ step ih =>
    rcases step.columns with same | ⟨c, fresh, grows⟩
    · rw [same]
      exact ih
    · rw [grows]
      refine distinct_snoc ih fun other member same => ?_
      rw [hasAlias_iff.mpr ⟨other, member, same⟩] at fresh
      cases fresh

/-! ## Fields that are asked for -/

/-- What one of several changes selects stays selected. -/
theorem steps_foldlM_selects {α : Type} {f : FieldSelection → α → Except Failure FieldSelection}
    {xs : List α} {x : α} {path : List String} {table : String}
    (each : ∀ s y t, y ∈ xs → s.tableAt? root path = some table → f s y = .ok t →
      Steps registry root maxDepth s t)
    (member : x ∈ xs) (selects : ∀ s t, f s x = .ok t → t.hasAlias label = true)
    (place : s.tableAt? root path = some table) (ok : xs.foldlM f s = .ok t) :
    t.hasAlias label = true := by
  -- the changes before it keep the table of the path, those behind it keep the label
  obtain ⟨front, back, rfl⟩ := List.append_of_mem member
  obtain ⟨u, first, rest⟩ := foldlM_append_ok ok
  rw [List.foldlM_cons] at rest
  obtain ⟨v, this, rest⟩ := bind_ok rest
  have before : Steps registry root maxDepth s u :=
    steps_foldlM (fun s y t inside => each s y t (List.mem_append_left _ inside)) place first
  have within := each u x v member (before.tableAt? place) this
  have after : Steps registry root maxDepth v t :=
    steps_foldlM (fun s y t inside =>
      each s y t (List.mem_append_right _ (List.mem_cons_of_mem x inside)))
      (within.tableAt? (before.tableAt? place)) rest
  exact after.hasAlias (selects u v this)

variable {schema : Schema} {path : List String} {table : String}

theorem addName_selects {name : String} (starless : name ≠ "*")
    (ok : s.addName schema path table name = .ok t) : t.hasAlias (fullName path name) = true := by
  unfold addName at ok
  rw [if_neg starless] at ok
  split at ok
  · split at ok
    · exact addColumn_hasAlias ok
    · cases ok
  · split at ok
    · exact addColumn_hasAlias ok
    · cases ok

/-- A star stands for every readable column of a resource. -/
theorem addReadable_selects (checked : schema.Checked)
    (reaches : Reaches registry root path schema) (place : s.tableAt? root path = some table)
    {name : String} (readable : name ∈ schema.readable)
    (ok : s.addReadable schema path table = .ok t) : t.hasAlias (fullName path name) = true := by
  have each : ∀ s other t, other ∈ schema.readable → s.tableAt? root path = some table →
      s.addColumn schema path table other = .ok t → Steps registry root 0 s t :=
    fun s other t member place added => addColumn_steps checked reaches place member added
  exact steps_foldlM_selects each readable (fun s t added => addColumn_hasAlias added) place ok

theorem addParts_selects {parts : List String} (some_part : parts ≠ [])
    (starless : ∀ part ∈ parts, part ≠ "*")
    (ok : addParts registry root maxDepth schema path table s parts = .ok t) :
    t.hasAlias (Text.join "." (path ++ parts)) = true := by
  induction parts generalizing schema path table s t with
  | nil => exact absurd rfl some_part
  | cons head rest ih =>
    have other := starless head List.mem_cons_self
    cases rest with
    | nil => exact addName_selects other ok
    | cons next rest =>
      rw [addParts] at ok
      simp only [if_neg other] at ok
      split at ok
      · cases ok
      · split at ok
        · split at ok
          · obtain ⟨related, _, ok⟩ := bind_ok ok
            have selected := ih (by simp)
              (fun part member => starless part (List.mem_cons_of_mem head member)) ok
            rwa [List.append_assoc] at selected
          · cases ok
        · cases ok

end

/-- Every selection of fields has its fields one by one, and then its cursor. -/
theorem ofFields_ok {registry : Registry} {root : Schema} {maxDepth : Int} {fields : List String}
    (ok : ofFields registry maxDepth root fields = .ok t) :
    ∃ s, fields.foldlM (fun s field =>
        addParts registry root maxDepth root [] root.table s (Text.split field ".")) empty = .ok s ∧
      ∃ more, t.columns = s.columns ++ more := by
  obtain ⟨s, chosen, ok⟩ := bind_ok ok
  refine ⟨s, chosen, ?_⟩
  split at ok
  · cases pure_ok ok
    exact ⟨[], (List.append_nil _).symm⟩
  · cases pure_ok ok
    exact ⟨_, rfl⟩

section

variable {registry : Registry} {root : Schema} {maxDepth : Int} {fields : List String}

theorem ofFields_selects (declared : registry.Declared) (rootChecked : root.Checked)
    {field : String} (member : field ∈ fields)
    (selects : ∀ s t, addParts registry root maxDepth root [] root.table s (Text.split field ".") =
      .ok t → t.hasAlias label = true)
    (ok : ofFields registry maxDepth root fields = .ok t) : t.hasAlias label = true := by
  obtain ⟨s, chosen, more, grows⟩ := ofFields_ok ok
  have start : empty.tableAt? root [] = some root.table := if_pos rfl
  have each : ∀ s other t, other ∈ fields → s.tableAt? root [] = some root.table →
      addParts registry root maxDepth root [] root.table s (Text.split other ".") = .ok t →
      Steps registry root maxDepth s t :=
    fun s other t _ place added => addParts_steps declared rootChecked .root place
      (fun part inside => Text.not_mem_of_mem_split '.' inside) added
  exact hasAlias_of_columns grows (steps_foldlM_selects each member selects start chosen)

theorem ofFields_starless (declared : registry.Declared) (rootChecked : root.Checked)
    {field : String} (member : field ∈ fields) (starless : '*' ∉ field.toList)
    (ok : ofFields registry maxDepth root fields = .ok t) : t.hasAlias field = true := by
  refine ofFields_selects declared rootChecked member (fun s t added => ?_) ok
  have parts : ∀ part ∈ Text.split field ".", part ≠ "*" := by
    rintro _ inside rfl
    exact starless (Text.mem_of_mem_split inside (List.mem_singleton_self '*'))
  have selected := addParts_selects (Text.split_ne_nil field ".") parts added
  have joined : Text.join "." (Text.split field ".") = field := Text.join_split '.' field
  rwa [List.nil_append, joined] at selected

theorem ofFields_star (declared : registry.Declared) (rootChecked : root.Checked)
    (member : "*" ∈ fields) {name : String} (readable : name ∈ root.readable)
    (ok : ofFields registry maxDepth root fields = .ok t) : t.hasAlias name = true := by
  refine ofFields_selects declared rootChecked member (fun s t added => ?_) ok
  have whole : Text.split "*" "." = ["*"] := by decide
  have reaches : Reaches registry root [] root := .root
  rw [whole] at added
  have selected := addReadable_selects rootChecked reaches (if_pos rfl) readable added
  simpa [fullName, Text.join] using selected

end

end FieldSelection

/-! ## Rows under their labels -/

namespace Plan

/-- The columns of a plan name its rows: no label comes twice, the name of the cursor field is that of
the cursor column of the root, and what is asked for is there under its own name. -/
structure NamesRows (plan : Plan) (schema : Schema) (asked : List String) : Prop where
  distinct : (plan.columns.map (·.label)).Nodup
  cursor : plan.columns.filter (·.label == schema.cursorField) =
    [⟨schema.cursorField, ⟨schema.cursorField, some schema.table, []⟩⟩]
  field : ∀ name ∈ asked, '*' ∉ name.toList → name ∈ plan.columns.map (·.label)
  star : "*" ∈ asked → ∀ name ∈ schema.readable, name ∈ plan.columns.map (·.label)

/-- A row has the values of a plan's columns, each under the label of the column. -/
def Labelled (plan : Plan) (value : Column → Value) (row : Record) : Prop :=
  ∀ c ∈ plan.columns, row.value? c.label = some (value c.column)

theorem filter_label {columns : List PlanColumn} {c : PlanColumn}
    (distinct : (columns.map (·.label)).Nodup) (member : c ∈ columns) :
    columns.filter (·.label == c.label) = [c] := by
  obtain ⟨front, back, rfl⟩ := List.append_of_mem member
  rw [List.map_append, List.map_cons, List.nodup_middle, List.nodup_cons, ← List.map_append]
    at distinct
  have others : (front ++ back).filter (·.label == c.label) = [] := by
    refine List.filter_eq_nil_iff.mpr fun other inside same => ?_
    exact distinct.1 (List.mem_map.mpr ⟨other, inside, beq_iff_eq.mp same⟩)
  rw [List.filter_append, List.append_eq_nil_iff] at others
  simp only [List.filter_append, List.filter_cons, beq_self_eq_true, if_true, others.1, others.2,
    List.nil_append]

variable {setting : Setting} {schema : Schema} {spec : Spec} {trashed : TrashedMode}
  {listAll : Bool} {equals : Record} {plan : Plan} {asked : List String}

theorem namesRows_of_compile (declared : schema.Declared) (registered : setting.registry.Declared)
    (ok : compile setting schema spec trashed listAll equals = .ok plan) :
    plan.NamesRows schema (askedFields spec) := by
  obtain ⟨selected, filter, search, cursor, compiled⟩ := compile_ok ok
  have checked := declared.checked
  have fields_ok := compiled.fields_ok
  have known : ∀ {name}, selected.hasAlias name = true → name ∈ plan.columns.map (·.label) := by
    intro name found
    rw [compiled.columns_eq]
    exact List.mem_map.mpr (FieldSelection.hasAlias_iff.mp found)
  have distinct : (plan.columns.map (·.label)).Nodup := by
    rw [compiled.columns_eq]
    exact (FieldSelection.ofFields_steps registered checked fields_ok).distinct
  refine ⟨distinct, ?_, ?_, ?_⟩
  · obtain ⟨c, member, label⟩ := ofFields_cursor fields_ok
    rw [← compiled.columns_eq] at member
    have only := filter_label distinct member
    have column := column_of_cursor declared registered ok member label
    rw [label] at only
    rw [only, ← column, ← label]
  · intro name asked starless
    exact known (FieldSelection.ofFields_starless registered checked asked starless fields_ok)
  · intro asked name readable
    exact known (FieldSelection.ofFields_star registered checked asked readable fields_ok)

/-- The rows that a plan fetches have each value under the label of its column. -/
theorem NamesRows.labelled_record {Row : Type} (names : plan.NamesRows schema asked)
    (sight : Sight Row) (row : Row) : plan.Labelled (sight.value row) (plan.record sight row) := by
  intro c member
  refine value?_labelled ⟨c, member, rfl⟩ fun other inside same => ?_
  rw [List.inj_on_of_nodup_map names.distinct inside member same]

theorem NamesRows.value?_cursor {value : Column → Value} {row : Record}
    (names : plan.NamesRows schema asked) (labelled : plan.Labelled value row) :
    row.value? schema.cursorField = some (value ⟨schema.cursorField, some schema.table, []⟩) := by
  refine labelled ⟨schema.cursorField, ⟨schema.cursorField, some schema.table, []⟩⟩ ?_
  have single : _ ∈ plan.columns.filter (·.label == schema.cursorField) :=
    names.cursor ▸ List.mem_singleton_self _
  exact List.mem_of_mem_filter single

end Plan

/-! ## Listings -/

namespace Collection

variable {plan : Plan} {schema : Schema} {asked : List String} {value : Record → Column → Value}
  {rows : List Record}

/-- The cursors of a collection are the raw values of the cursor column, whatever is shown. -/
theorem cursors_fetched (names : plan.NamesRows schema asked) (same : plan.schema = schema)
    (labelled : ∀ row ∈ rows, plan.Labelled (value row) row) (spec : Spec) (shown : List Record) :
    (fetched plan spec shown rows).cursors =
      rows.map fun row => value row ⟨schema.cursorField, some schema.table, []⟩ := by
  refine List.map_congr_left fun row member => ?_
  rw [same, names.value?_cursor (labelled row member)]
  rfl

end Collection

namespace Model

variable {m : Model} {d : Dialect} {mode : TrashedMode} {query : Value} {all : Bool}

/-- A collection of what a reply holds, where the first statement that was sent fetches the rows of a
plan for the request. -/
structure Lists (m : Model) (d : Dialect) (mode : TrashedMode) (query : Value) (all : Bool)
    (xs : List Exchange) (c : Collection) (rows : List Record) : Prop where
  read : Spec.ofRaw query = .ok c.spec
  compiled : Plan.compile ⟨m.engine.registry, m.engine.registry.settings, m.engine.now⟩ m.schema
    c.spec mode all [] = .ok c.plan
  asked : ∃ x later answer, xs = x :: later ∧ c.plan.fetchSql d = .ok x.statement ∧
    x.answer d = .ok answer ∧ answer.rows = rows
  fetched : c = Collection.fetched c.plan c.spec c.rows rows

theorem yields_listed : Yields d mode (m.listing query all) fun outcome xs =>
    ∀ c, outcome = .ok c → ∃ rows, m.Lists d mode query all xs c rows := by
  have none : ∀ failure xs (c : Collection), (Except.error failure : Except Failure Collection) =
      .ok c → ∃ rows, m.Lists d mode query all xs c rows := fun _ _ _ => nofun
  rw [Collection.listing_eq]
  refine yields_of_bind (fun failure _ => none failure []) fun spec read => yields_mode_bind ?_
  unfold planFor planRows
  simp only [bind_assoc, pure_bind]
  refine yields_of_bind (fun failure _ => none failure []) fun plan compiled =>
    yields_log_bind (yields_dialect_bind ?_)
  refine yields_of_bind (fun failure _ => none failure []) fun selection selected => ?_
  cases written : selection.toSql with
  | error failure =>
    unfold fetch
    rw [written, bind_assoc]
    exact yields_of_bind (fun failure _ => none failure []) (fun _ => nofun)
  | ok f =>
    rw [fetch_bind written]
    refine yields_execute_bind (fun x _ failure _ => none failure [x])
      fun x same answer answered s script c ok => ?_
    obtain ⟨shown, _, ok⟩ := returned_of_bind ok
    cases ok
    have asked : plan.fetchSql d = .ok x.statement := by
      rw [Plan.fetchSql, selected, ok_bind, written, same]
    exact ⟨answer.rows, read, compiled, ⟨x, _, answer, rfl, asked, answered, rfl⟩, rfl⟩

/-- The columns of every plan name its rows, and the paging tokens of every listing are those of the
raw values of the cursor column.  No label comes twice; just one is the name of the cursor field, and
its column is the root's cursor; a requested field without stars is there under its own name, and a
star brings every readable field of the root.  If a listing returns, the rows it was given had each
value under the label of its column, and cursors are wanted, then paging reports tokens of what its
first and last rows have in the cursor column, whatever accessors and hooks make of the rows. -/
theorem listing_reports_raw_cursors (declared : m.schema.Declared)
    (registered : m.engine.registry.Declared) :
    (∀ settings now spec trashed all equals plan,
      Plan.compile ⟨m.engine.registry, settings, now⟩ m.schema spec trashed all equals = .ok plan →
        plan.NamesRows m.schema (Plan.askedFields spec)) ∧
    ∀ d mode query all, Yields d mode (m.listing query all) fun outcome xs => ∀ c, outcome = .ok c →
      ∃ rows, m.Lists d mode query all xs c rows ∧
        c.plan.NamesRows m.schema (Plan.askedFields c.spec) ∧
        ∀ value : Record → Column → Value, (∀ row ∈ rows, c.plan.Labelled (value row) row) →
          Text.lower c.spec.pagination = "cursor" → ∀ first last, c.ReportsEnds first last ↔
            let raw := fun row => value row ⟨m.schema.cursorField, some m.schema.table, []⟩
            Collection.endToken (rows.head?.map raw) = .ok first ∧
              Collection.endToken (rows.getLast?.map raw) = .ok last := by
  refine ⟨fun settings now spec trashed all equals plan compiled =>
    Plan.namesRows_of_compile declared registered compiled, ?_⟩
  intro d mode query all
  refine yields_listed.mono fun outcome xs listed c ok => ?_
  obtain ⟨rows, lists⟩ := listed c ok
  have names := Plan.namesRows_of_compile declared registered lists.compiled
  obtain ⟨_, _, _, _, parts⟩ := Plan.compile_ok lists.compiled
  refine ⟨rows, lists, names, fun value labelled wanted first last => ?_⟩
  have cursors := Collection.cursors_fetched names parts.schema_eq labelled c.spec c.rows
  rw [← lists.fetched] at cursors
  rw [Collection.reportsEnds_iff wanted, cursors, List.head?_map, List.getLast?_map]

end Model

namespace Sample

/-- Folders whose number is covered up whenever they are shown. -/
def coveredSchema : Schema := { folderSchema with hooks := [("afterRead", [.str "cover"])] }

theorem covered_declared : coveredSchema.Declared :=
  ⟨{ folderDefinition with hooks := .dict [("afterRead", .list [.str "cover"])] }, by rfl⟩

def coveredModel : Model :=
  ⟨⟨folderRegistry, [("cover", ⟨"cover", [], none, [("id", .int 0)], none⟩)], default⟩, coveredSchema,
    ⟨"SoftDeleteModel", ⟨true, false, none⟩⟩, fun _ => Session.fail Session.endless⟩

/-- The names of folders, and tokens for further ones. -/
def namesRequest : Value := .dict [("fields", .str "name"), ("pagination", .str "cursor")]

def namesSpec : Spec := { Spec.all with fields := ["name"], pagination := "cursor" }

/-- What a database tells of two folders. -/
def namedFolders : List Record :=
  [[("name", .str "inbox"), ("id", .int 3)], [("name", .str "sent"), ("id", .int 5)]]

/-- Folders three and five are shown with other numbers, and their own are in the tokens. -/
theorem covered_folders_reported : ∃ c first last,
    (coveredModel.listing namesRequest false (pageState [rowsReply namedFolders])).outcome = .ok c ∧
      c.rows.map (fun row => row.map fun entry => (entry.1, scalar? entry.2)) =
        [[("name", some (.inl "inbox")), ("id", some (.inr 0))],
          [("name", some (.inl "sent")), ("id", some (.inr 0))]] ∧
      Cursor.encode (.int 3) = .ok first ∧ Cursor.encode (.int 5) = .ok last ∧
      c.ReportsEnds (.str first) (.str last) := by
  have shown : (coveredModel.listing namesRequest false
      (pageState [rowsReply namedFolders])).outcome.toOption.map (fun c =>
        c.rows.map fun row => row.map fun entry => (entry.1, scalar? entry.2)) =
      some [[("name", some (.inl "inbox")), ("id", some (.inr 0))],
        [("name", some (.inl "sent")), ("id", some (.inr 0))]] := by
    decide +kernel
  cases listed : (coveredModel.listing namesRequest false
      (pageState [rowsReply namedFolders])).outcome with
  | error failure =>
    rw [listed] at shown
    cases shown
  | ok c =>
    rw [listed] at shown
    obtain ⟨first, firstToken⟩ := Cursor.exists_token (n := 3) (by decide +kernel)
    obtain ⟨last, lastToken⟩ := Cursor.exists_token (n := 5) (by decide +kernel)
    obtain ⟨rows, lists, names, reports⟩ :=
      (Model.listing_reports_raw_cursors covered_declared folderRegistry_declared).2 .sqlite .exclude
        namesRequest false (pageState [rowsReply namedFolders]) _ rfl rfl rfl c listed
    have spec : c.spec = namesSpec := (Except.ok.inj lists.read).symm
    have columns : c.plan.columns = [⟨"name", ⟨"name", some "folders", []⟩⟩,
        ⟨"id", ⟨"id", some "folders", []⟩⟩] := by
      have planned : (Plan.compile ⟨folderRegistry, folderRegistry.settings, default⟩ coveredSchema
          namesSpec .exclude false []).toOption.map (·.columns) = some [⟨"name", ⟨"name",
            some "folders", []⟩⟩, ⟨"id", ⟨"id", some "folders", []⟩⟩] := by decide +kernel
      have compiled := lists.compiled
      rw [spec] at compiled
      have same := congrArg (fun made => made.toOption.map (·.columns)) compiled
      exact Option.some.inj (same.symm.trans planned)
    have given : rows = namedFolders := by
      obtain ⟨x, later, answer, sent, _, answered, rfl⟩ := lists.asked
      rw [Exchange.answer, reply_of_exchanges sent] at answered
      cases answered
      rfl
    have labelled : ∀ row ∈ rows, c.plan.Labelled (fun column => (row.value? column.name).getD .null)
        row := by
      rw [given]
      unfold Plan.Labelled
      rw [columns]
      simp [namedFolders, Mapping.value?_cons]
    have ends := reports _ labelled (by rw [spec]; decide +kernel) (.str first) (.str last)
    rw [given] at ends
    refine ⟨c, first, last, rfl, Option.some.inj shown, firstToken, lastToken, ends.mpr ⟨?_, ?_⟩⟩
    · exact endToken_number.mpr firstToken
    · exact endToken_number.mpr lastToken

end Sample

end Curator
