import Curator.Proofs.Plan.Meaning
import Curator.Proofs.Plan.Reached
/-!
# Which rows a plan selects

The conditions of a plan's statements, read as a database reads them, are the conjunction of what
they are there for, so nothing in a filter reaches beyond the filter.
-/

set_option autoImplicit false

namespace Curator

open Sql Outcome

namespace Sql.Select

/-- A selection of a dialect without conditions. -/
def Unconditioned (d : Dialect) (s : Select) : Prop :=
  s.dialect = d ∧ s.root = [] ∧ s.openGroups = []

theorem Unconditioned.column {d : Dialect} {s t : Select} {column : Column}
    {label : Option String} (bare : s.Unconditioned d) (ok : s.column column label = .ok t) :
    t.Unconditioned d := by
  obtain ⟨expr, _, ok⟩ := bind_ok ok
  cases label with
  | none =>
    cases pure_ok ok
    exact bare
  | some label =>
    obtain ⟨name, _, ok⟩ := bind_ok ok
    cases pure_ok ok
    exact bare

theorem Unconditioned.leftJoin {d : Dialect} {s t : Select} {table : String} {left right : Column}
    {label : Option String} (bare : s.Unconditioned d)
    (ok : s.leftJoin table left right label = .ok t) : t.Unconditioned d := by
  obtain ⟨_, _, _, _, _, _, _, rfl⟩ := leftJoin_ok ok
  exact bare

end Sql.Select

namespace Plan

/-- Before its steps the selection of a plan has no conditions. -/
theorem joined_unconditioned {plan : Plan} {d : Dialect} {paginate : Bool}
    {table columns joins : Select} (table_ok : (Select.new d).from_ plan.schema.table = .ok table)
    (columns_ok : (if paginate then plan.columns.foldlM replayColumn table else pure table) =
      .ok columns) (joins_ok : plan.joins.foldlM replayJoin columns = .ok joins) :
    joins.Unconditioned d := by
  have begun : table.Unconditioned d := by
    obtain ⟨_, _, table_ok⟩ := bind_ok table_ok
    cases pure_ok table_ok
    exact ⟨rfl, rfl, rfl⟩
  have chosen : columns.Unconditioned d := by
    cases paginate with
    | false =>
      cases pure_ok columns_ok
      exact begun
    | true =>
      exact foldlM_keeps (P := Select.Unconditioned d) (fun _ _ _ _ bare ok => bare.column ok) begun
        columns_ok
  exact foldlM_keeps (P := Select.Unconditioned d) (fun _ _ _ _ bare ok => bare.leftJoin ok) chosen
    joins_ok

/-- The conditions of a plan's selection are what its steps add. -/
theorem selection_root {plan : Plan} {d : Dialect} {paginate : Bool} {s : Select}
    {v : List Token → Truth} {truths : List Truth} (ok : plan.selection d paginate = .ok s)
    (adds : Adds d v .and plan.steps truths) : s.dialect = d ∧
      ∃ ps, s.root = Formula.conditions .and ps ∧
        Formula.rowMembers (fun f => v (f.tokens d)) ps = truths := by
  obtain ⟨table, columns, joins, steps, table_ok, columns_ok, joins_ok, steps_ok, rfl⟩ :=
    selection_ok ok
  obtain ⟨dialect, root, closed⟩ := joined_unconditioned table_ok columns_ok joins_ok
  obtain ⟨ps, rfl, members⟩ := adds joins steps dialect steps_ok
  rw [Select.addAll_root closed, root, List.nil_append]
  refine ⟨?_, ps, ?_, members⟩
  · cases paginate with
    | false => exact dialect
    | true => exact dialect
  · cases paginate with
    | false => rfl
    | true => rfl

/-- What the conditions of a compiled plan add, one purpose after another. -/
theorem Compiled.adds {setting : Setting} {schema : Schema} {spec : Spec}
    {trashed : TrashedMode} {listAll : Bool} {equals : Record} {plan : Plan}
    {selected : FieldSelection} {filter search cursor : List PlanStep} (checked : schema.Checked)
    (compiled :
      Compiled setting schema spec trashed listAll equals plan selected filter search cursor)
    (excludes : ∀ step ∈ selected.exclusions, ExcludesTrashed setting.registry plan step)
    (d : Dialect) (v : List Token → Truth) :
    ∃ truths, Adds d v .and plan.steps truths ∧
      Truth.all truths = Truth.all [
        Truth.all (selected.exclusions.map (stepTruth d v)),
        Truth.all (filterMembers (fieldTruth schema setting.now d v) spec.filter),
        visibilityTruth schema d v trashed,
        Truth.all (equals.map fun (name, value) =>
          testTruth d v ⟨name, some schema.table, []⟩ .eq value),
        searchTruth schema d v spec.search,
        if listAll then .yes else cursorTruth schema d v spec] := by
  -- purpose by purpose, in the order of the plan's steps
  have exclusions : Adds d v .and selected.exclusions _ := adds_tests fun step member => by
    obtain ⟨_, _, _, _, _, _, _, rfl⟩ := excludes step member
    exact ⟨_, _, _, rfl⟩
  have filters : Adds d v .and filter _ := adds_filter compiled.filter_ok
  obtain ⟨visible, visibility, visibility_eq⟩ := @adds_visibility d v schema trashed
  have equalities : Adds d v .and (equalitySteps schema equals) _ := adds_equality equals
  obtain ⟨found, searches, searches_eq⟩ := @adds_search d v _ _ _ checked compiled.search_ok
  have cursors : ∃ truths, Adds d v .and cursor truths ∧
      Truth.all truths = if listAll then .yes else cursorTruth schema d v spec := by
    have ok := compiled.cursor_ok
    cases listAll with
    | true =>
      cases pure_ok ok
      exact ⟨[], adds_nil, rfl⟩
    | false => exact adds_cursor ok
  obtain ⟨beyond, cursors, cursors_eq⟩ := cursors
  have whole := ((((exclusions.append filters).append visibility).append equalities).append
    searches).append cursors
  rw [← compiled.steps_eq] at whole
  refine ⟨_, whole, ?_⟩
  simp only [Truth.all_append, Truth.and_assoc]
  rw [visibility_eq, searches_eq, cursors_eq, Truth.all_cons, Truth.all_cons, Truth.all_cons,
    Truth.all_cons, Truth.all_cons, Truth.all_singleton]

/-- The conditions of a plan's statement, whatever truth its tests have, are read as the conjunction
of the exclusions of trashed related rows, the filter, the visibility of trashed rows of the root,
the columns the caller compares, the search and the cursor.  So a filter shows no trashed row of the
root, whatever alternatives it nests. -/
theorem where_reads_as_meant {setting : Setting} {schema : Schema} {spec : Spec}
    {trashed : TrashedMode} {listAll : Bool} {equals : Record} {plan : Plan} {d : Dialect}
    {paginate : Bool} {s : Select} {f : Fragment} (declared : schema.Declared)
    (registered : setting.registry.Declared)
    (compiled : compile setting schema spec trashed listAll equals = .ok plan)
    (selected : plan.selection d paginate = .ok s) (rendered : s.toSql = .ok f)
    (v : List Token → Truth) :
    let conditions := Condition.renderRoot s.root
    (∃ table limit offset, s.table = some table ∧ s.limitClause = .ok limit ∧
      s.offsetClause = .ok offset ∧ f.params = conditions.params ∧
      f.sql = s.headText s.selectedText table ++
        (if conditions.sql.isEmpty then "" else " WHERE " ++ conditions.sql) ++
        s.tailText limit offset) ∧
    (∃ exclusions, (∀ step ∈ exclusions, ExcludesTrashed setting.registry plan step) ∧
      CoversColumns setting.registry plan exclusions ∧
      conditions.truth d v = Truth.all [
        Truth.all (exclusions.map (stepTruth d v)),
        Truth.all (filterMembers (fieldTruth schema setting.now d v) spec.filter),
        visibilityTruth schema d v trashed,
        Truth.all (equals.map fun (name, value) =>
          testTruth d v ⟨name, some schema.table, []⟩ .eq value),
        searchTruth schema d v spec.search,
        if listAll then .yes else cursorTruth schema d v spec]) ∧
    (schema.softDeletes = true → trashed = .exclude →
      testTruth d v ⟨schema.deletedAtColumn, some schema.table, []⟩ .isNull (.bool true) = .no →
        conditions.truth d v = .no) := by
  obtain ⟨chosen, filter, search, cursor, parts⟩ := compile_ok compiled
  obtain ⟨excludes, covers⟩ := parts.exclusions declared registered
  obtain ⟨truths, adds, conjunction⟩ := parts.adds declared.checked excludes d v
  obtain ⟨dialect, ps, root, members⟩ := selection_root selected adds
  have tests := (selection_made selected).sound.root
  rw [dialect, root] at tests
  -- the text is read to the truth of the conditions, and the conditions are what the steps add
  have truth : (Condition.renderRoot s.root).truth d v = Truth.all truths := by
    rw [root, truth_of_formulas v tests, members]
  rw [conjunction] at truth
  refine ⟨?_, ⟨chosen.exclusions, excludes, covers, truth⟩, ?_⟩
  · obtain ⟨table, limit, offset, named, _, limit_ok, offset_ok, params, text⟩ :=
      Select.toSql_ok rendered
    exact ⟨table, limit, offset, named, limit_ok, offset_ok, params, text⟩
  · intro keeps mode marked
    rw [truth]
    refine Truth.all_no ?_
    have hidden : visibilityTruth schema d v trashed = .no := by
      subst mode
      simpa only [visibilityTruth, keeps, if_true] using marked
    simp [hidden]

/-- A trashed folder of which everything else holds that a request may ask for. -/
def trashedFolder : List Token → Truth
  | .quoted _ table :: .sign _ :: .quoted _ column :: _ =>
    if table = "folders".toList ∧ column = "deleted_at".toList then .no else .yes
  | _ => .yes

/-- No request for folders finds a trashed one, though one of its alternatives may hold. -/
theorem trashed_folder_hidden : ∃ plan s f,
    compile Sample.folderSetting Sample.folderSchema Sample.folderRequest .exclude false [] =
      .ok plan ∧
    plan.selection .sqlite true = .ok s ∧ s.toSql = .ok f ∧
    (Condition.renderRoot s.root).truth .sqlite trashedFolder = .no := by
  have rendered : (Sample.folderSql Sample.folderRequest .sqlite).isOk = true := by decide +kernel
  obtain ⟨f, f_ok⟩ := ok_of_isOk rendered
  obtain ⟨plan, s, plan_ok, _, s_ok, text⟩ := Sample.folderSql_ok f_ok
  have marked : testTruth .sqlite trashedFolder ⟨Sample.folderSchema.deletedAtColumn,
      some Sample.folderSchema.table, []⟩ .isNull (.bool true) = .no := by decide +kernel
  have reads := where_reads_as_meant Sample.folder_declared Sample.folderRegistry_declared plan_ok
    s_ok text trashedFolder
  exact ⟨plan, s, f, plan_ok, s_ok, text, reads.2.2 rfl rfl marked⟩

end Plan

end Curator
