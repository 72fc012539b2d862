import Curator.Proofs.Model.TestedRows
import Curator.Proofs.Plan.Core
import Curator.Proofs.Plan.Rendering
/-!
# Plans of whole tables

A request for everything has a plan of one table, whose conditions test columns: the mark of trashed
rows, as a mode asks for, and columns that are given.  So its rows can be told by tests alone, in any
order.
-/

set_option autoImplicit false

namespace Curator

open Sql Outcome

/-! ## Rows by tests -/

namespace Sql

variable {d : Dialect} {table : String} {tests others : List ColumnTest} {s t : Select}

theorem Truth.and_left_comm (a b c : Truth) : a.and (b.and c) = b.and (a.and c) := by
  cases a <;> cases b <;> cases c <;> rfl

theorem Truth.all_perm {ts us : List Truth} (perm : ts.Perm us) : Truth.all ts = Truth.all us := by
  induction perm with
  | nil => rfl
  | cons t _ ih => rw [Truth.all_cons, Truth.all_cons, ih]
  | swap t u rest =>
    rw [Truth.all_cons, Truth.all_cons, Truth.all_cons, Truth.all_cons, Truth.and_left_comm]
  | trans _ _ first second => exact first.trans second

theorem testTruth_of_predicate {v : List Token → Truth} {test : ColumnTest} {f : Fragment}
    (ok : testPredicate d table test = .ok f) :
    Plan.testTruth d v ⟨test.1, some table, []⟩ test.2.1 test.2.2 = v (f.tokens d) := by
  have predicate : Plan.predicate d ⟨test.1, some table, []⟩ test.2.1 test.2.2 = .ok f := ok
  rw [Plan.testTruth, predicate]

/-- The condition of a selection by tests is true where each of the tests is. -/
theorem tested_truth (ok : tested d table tests = .ok s) (v : List Token → Truth) :
    (Condition.renderRoot s.root).truth d v = Truth.all (tests.map fun test =>
      Plan.testTruth d v ⟨test.1, some table, []⟩ test.2.1 test.2.2) := by
  obtain ⟨fs, rfl, all⟩ := tested_ok ok
  have made : Condition.EveryRow (·.IsTest d) (Formula.conditions .and (fs.map .test)) := by
    rw [← conditions_of_tests]
    refine Condition.everyRow_predicates fun f member => ?_
    obtain ⟨test, _, own⟩ := mem_of_forall₂ all member
    exact isTest_of_predicate own
  have truths : fs.map (fun f => v (f.tokens d)) = tests.map fun test =>
      Plan.testTruth d v ⟨test.1, some table, []⟩ test.2.1 test.2.2 := by
    clear made ok
    induction all with
    | nil => rfl
    | cons own _ ih => rw [List.map_cons, List.map_cons, ih, testTruth_of_predicate own]
  simp only [conditions_of_tests]
  rw [truth_of_formulas v made, members_of_tests, truths]

/-- Rows are the same by the same tests in another order. -/
theorem tested_agrees (perm : tests.Perm others) (first : tested d table tests = .ok s)
    (second : tested d table others = .ok t) : s.Agrees t := by
  have truth : ∀ v, (Condition.renderRoot s.root).truth d v =
      (Condition.renderRoot t.root).truth d v := by
    intro v
    rw [tested_truth first, tested_truth second]
    exact Truth.all_perm (perm.map _)
  obtain ⟨fs, rfl, _⟩ := tested_ok first
  obtain ⟨gs, rfl, _⟩ := tested_ok second
  exact ⟨rfl, rfl, rfl, truth⟩

theorem where_eq (s : Select) (connector : Connector) (column : Column) (operator : Operator)
    (operand : Value) : s.where_ connector column operator operand =
      Plan.predicate s.dialect column operator operand >>= fun f =>
        pure (s.add (.predicate connector f)) := by
  rw [Select.where_, Plan.predicate, bind_assoc]

/-- A selection by tests fails only where its table or one of the tests does. -/
theorem tested_fails {P : Failure → Prop} (named : FailsOnly (quote table) P)
    (each : ∀ test ∈ tests, FailsOnly (testPredicate d table test) P) :
    FailsOnly (tested d table tests) P := by
  refine FailsOnly.bind (named.bind fun _ _ => failsOnly_pure _) fun base opened => ?_
  refine failsOnly_foldlM (K := fun u => u.dialect = d) (fun u test member speaks => ?_)
    (fun u test w _ speaks ok => ?_) ?_
  · have own := each test member
    simp only [where_eq, speaks]
    exact own.bind fun _ _ => failsOnly_pure _
  · exact (Select.where_dialect ok).trans speaks
  · exact Select.from_dialect opened

/-- A selection by tests can be made exactly if each of its tests can, in whatever order they are. -/
theorem exists_tested_iff (valid : Text.isIdentifier table = true) :
    (∃ s, tested d table tests = .ok s) ↔
      ∀ test ∈ tests, ∃ f, testPredicate d table test = .ok f := by
  constructor
  · rintro ⟨s, ok⟩ test member
    obtain ⟨fs, _, all⟩ := tested_ok ok
    obtain ⟨f, _, own⟩ := mem_of_forall₂ all.flip member
    exact ⟨f, own⟩
  · intro each
    refine ok_of_never (tested_fails (quote_identifier valid) fun test member failure refused => ?_)
    obtain ⟨f, own⟩ := each test member
    exact nomatch own.symm.trans refused

/-- The name of a column that is tested is an identifier. -/
theorem named_of_predicate {test : ColumnTest} {f : Fragment}
    (ok : testPredicate d table test = .ok f) : Text.isIdentifier test.1 = true := by
  obtain ⟨expr, rendered, _⟩ := bind_ok ok
  obtain ⟨text, qualified, _⟩ := Column.render_ok rendered
  exact (qualify_ok qualified).1

end Sql

/-! ## Tests of a mode -/

/-- What a mode asks of the mark of trashed rows. -/
def Schema.visibleTests (schema : Schema) (mode : TrashedMode) : List ColumnTest :=
  if !schema.softDeletes then []
  else
    match mode with
    | .include_ => []
    | .only => [(schema.deletedAtColumn, .isNotNull, .bool true)]
    | .exclude => [(schema.deletedAtColumn, .isNull, .bool true)]

/-- The mark of trashed rows can be written where a mode looks at it. -/
def Schema.MarkNamed (schema : Schema) (mode : TrashedMode) : Prop :=
  schema.softDeletes = true → mode ≠ .include_ → Text.isIdentifier schema.deletedAtColumn = true

section

variable {schema : Schema} {mode : TrashedMode} {d : Dialect} {key : Value}

theorem Schema.exists_visible_iff (checked : schema.Checked) :
    (∀ test ∈ schema.visibleTests mode, ∃ f, testPredicate d schema.table test = .ok f) ↔
      schema.MarkNamed mode := by
  have marks : ∀ operator : Operator, (∀ expr, ∃ f,
      operator.render expr (.bool true) d.placeholder = .ok f) →
      ((∃ f, testPredicate d schema.table (schema.deletedAtColumn, operator, .bool true) = .ok f) ↔
        Text.isIdentifier schema.deletedAtColumn = true) := by
    intro operator renders
    refine ⟨fun ⟨f, ok⟩ => named_of_predicate ok, fun valid => ?_⟩
    obtain ⟨expr, rendered⟩ := ok_of_never
      (Column.render_bare (d := d) (quote_identifier valid) (quote_identifier checked.table))
    obtain ⟨f, made⟩ := renders expr
    refine ⟨f, ?_⟩
    simp only [testPredicate, Plan.predicate, rendered, ok_bind, made]
  unfold Schema.visibleTests Schema.MarkNamed
  cases schema.softDeletes with
  | false => simp
  | true =>
    cases mode with
    | include_ => simp
    | only => simpa using marks .isNotNull fun expr => ⟨_, rfl⟩
    | exclude => simpa using marks .isNull fun expr => ⟨_, rfl⟩

/-- A key can be compared unless it is a list or a mapping. -/
theorem Schema.exists_keyed_iff (checked : schema.Checked) :
    (∃ f, testPredicate d schema.table (schema.primaryKey, .eq, key) = .ok f) ↔
      (scalar key).isOk = true := by
  obtain ⟨expr, rendered⟩ := ok_of_never
    (Plan.root_written (P := fun _ => False) checked checked.primaryKey d)
  have predicate : testPredicate d schema.table (schema.primaryKey, .eq, key) =
      Operator.eq.render expr key d.placeholder := by
    simp only [testPredicate, Plan.predicate, rendered, ok_bind]
  rw [predicate]
  cases key with
  | list items =>
    constructor
    · rintro ⟨f, made⟩
      cases made
    · intro single
      cases single
  | dict entries =>
    constructor
    · rintro ⟨f, made⟩
      cases made
    · intro single
      cases single
  | _ => exact ⟨fun _ => rfl, fun _ => ⟨_, rfl⟩⟩

end

namespace Plan

/-- The step that tests a column of a table. -/
def testStep (table : String) (test : ColumnTest) : PlanStep :=
  .test .and ⟨test.1, some table, []⟩ test.2.1 test.2.2

theorem visibilitySteps_eq (schema : Schema) (mode : TrashedMode) :
    visibilitySteps schema mode = (schema.visibleTests mode).map (testStep schema.table) := by
  unfold visibilitySteps Schema.visibleTests
  split
  · rfl
  · cases mode <;> rfl

theorem equalitySteps_eq (schema : Schema) (values : Record) : equalitySteps schema values =
    (values.map fun (name, value) => (name, Operator.eq, value)).map (testStep schema.table) := by
  simp [equalitySteps, testStep]

/-- A plan of the rows of one table on which tests hold, without limits, whose columns and order are
those of readable fields. -/
structure OfTable (schema : Schema) (tests : List ColumnTest) (plan : Plan) : Prop where
  schema_eq : plan.schema = schema
  joins : plan.joins = []
  steps : plan.steps = tests.map (testStep schema.table)
  group : plan.group = []
  limit : plan.limit = none
  offset : plan.offset = none
  columns : ∀ c ∈ plan.columns, ∃ name ∈ schema.readable, c = ⟨name, ⟨name, some schema.table, []⟩⟩
  order : plan.order = [schema.table ++ "." ++ schema.primaryKey]

section

variable {schema : Schema} {tests : List ColumnTest} {plan : Plan} {d : Dialect} {s t : Select}

/-- The rows of such a plan are those of its tests. -/
theorem OfTable.selection_eq (whole : plan.OfTable schema tests) :
    plan.selection d false = tested d schema.table tests := by
  have found : ∀ s : Select, plan.found s =
      tests.foldlM (fun s test =>
        s.where_ .and ⟨test.1, some schema.table, []⟩ test.2.1 test.2.2) s := by
    intro s
    have ungrouped : ∀ t : Select, settled (t.groupBy []) = pure t := by
      intro t
      have same : t.groupBy [] = (t, none) := by simp [Select.groupBy, Select.renderedUntilRefused]
      rw [same]
      rfl
    unfold Plan.found
    rw [whole.joins, whole.steps, whole.group, List.foldlM_nil, pure_bind, List.foldlM_map]
    simp only [List.map_nil, ungrouped, bind_pure]
    rfl
  rw [selection_counted, whole.schema_eq]
  simp only [found]
  rfl

/-- The columns and the order of such a plan are written, whatever they are added to. -/
theorem OfTable.written (whole : plan.OfTable schema tests) (checked : schema.Checked) :
    (∀ c ∈ plan.columns, ∀ u : Select, FailsOnly (replayColumn u c) fun _ => False) ∧
      ∀ u : Select, FailsOnly (settled (u.orderBy plan.order)) fun _ => False := by
  constructor
  · intro c member u
    obtain ⟨name, readable, rfl⟩ := whole.columns c member
    refine (root_written checked readable _).bind fun expr _ => ?_
    refine FailsOnly.bind ?_ fun label _ => failsOnly_pure _
    unfold quoteAlias
    rw [if_pos (Text.isAlias_of_isIdentifier (checked.readable name readable))]
    exact failsOnly_ok _
  · intro u
    apply settled_fails
    intro f refused
    apply Select.renderedUntilRefused_fails _ refused
    intro item member
    have sorted : sortOrder schema [] = .ok plan.order :=
      congrArg Except.ok whole.order.symm
    obtain ⟨name, readable, same⟩ := sortOrder_ok checked sorted item member
    apply Select.orderItem_fails
    have own : Column.parse (Text.dropLeading (fun c => c == '+' || c == '-') item) =
        ⟨name, some schema.table, []⟩ := same
    rw [own]
    exact root_written checked readable _

/-- The rows of such a plan can be fetched if they can be counted. -/
theorem OfTable.exists_fetched (whole : plan.OfTable schema tests) (checked : schema.Checked)
    (ok : tested d schema.table tests = .ok s) :
    ∃ t f, plan.selection d true = .ok t ∧ t.core = s ∧ t.limit = none ∧ t.offset = none ∧
      t.toSql = .ok f := by
  have begun : s.Begun := by
    obtain ⟨fs, rfl, _⟩ := tested_ok ok
    exact ⟨rfl, rfl⟩
  rw [← whole.selection_eq] at ok
  obtain ⟨columns, order⟩ := whole.written checked
  obtain ⟨t, fetched, rfl⟩ := Plan.exists_fetched ok columns order
  obtain ⟨_, limit, offset⟩ := selection_core fetched
  rw [whole.limit] at limit
  rw [whole.offset] at offset
  have never : FailsOnly t.toSql fun _ => False := by
    have begun : t.Begun := begun
    refine begun.toSql_fails.mono fun f cause => ?_
    obtain ⟨_, n, isLimit | isOffset, _⟩ := cause
    · exact nomatch limit.symm.trans isLimit
    · exact nomatch offset.symm.trans isOffset
  obtain ⟨f, writes⟩ := ok_of_never never
  exact ⟨t, f, fetched, rfl, limit, offset, writes⟩

end

end Plan

/-! ## Requests for everything -/

namespace FieldSelection

variable {s t : FieldSelection} {schema : Schema}

/-- A selection of readable fields of one table. -/
structure OfTable (schema : Schema) (s : FieldSelection) : Prop where
  joins : s.joins = []
  exclusions : s.exclusions = []
  columns : ∀ c ∈ s.columns, ∃ name ∈ schema.readable, c = ⟨name, ⟨name, some schema.table, []⟩⟩

theorem fullName_root (name : String) : fullName [] name = name := by simp [fullName, Text.join]

theorem addColumn_root {name : String} (valid : Text.isIdentifier name = true) :
    FailsOnly (s.addColumn schema [] schema.table name) fun _ => False := by
  unfold addColumn
  simp only [jsonPath_of_isIdentifier valid, List.all_nil, Bool.not_true, Bool.false_eq_true,
    if_false]
  split
  · exact failsOnly_ok _
  · exact failsOnly_ok _

theorem OfTable.addColumn (whole : s.OfTable schema) (checked : schema.Checked) {name : String}
    (readable : name ∈ schema.readable) (ok : s.addColumn schema [] schema.table name = .ok t) :
    t.OfTable schema := by
  have valid := checked.readable name readable
  rcases addColumn_ok ok with ⟨_, rfl⟩ | ⟨_, _, rfl⟩
  · exact whole
  · refine ⟨whole.joins, whole.exclusions, fun c member => ?_⟩
    rcases List.mem_append.mp member with member | member
    · exact whole.columns c member
    · refine ⟨name, readable, ?_⟩
      rw [List.mem_singleton.mp member, fullName_root, baseField_of_isIdentifier valid,
        jsonPath_of_isIdentifier valid]

/-- All fields of a resource, and its cursor field, are columns of its table. -/
theorem ofFields_all (checked : schema.Checked) (registry : Registry) (maxDepth : Int) :
    ∃ t, ofFields registry maxDepth schema ["*"] = .ok t ∧ t.OfTable schema := by
  have never : FailsOnly (empty.addReadable schema [] schema.table) fun _ => False :=
    failsOnly_foldlM (K := fun _ => True)
      (fun _ name member _ => addColumn_root (checked.readable name member))
      (fun _ _ _ _ _ _ => trivial) trivial
  obtain ⟨s, readable_ok⟩ := ok_of_never never
  have begun : empty.OfTable schema := ⟨rfl, rfl, by simp [empty]⟩
  have whole : s.OfTable schema :=
    foldlM_keeps (P := OfTable schema)
      (fun _ _ _ member whole ok => whole.addColumn checked member ok) begun readable_ok
  have all : ofFields registry maxDepth schema ["*"] = (do
      let s ← empty.addReadable schema [] schema.table
      if s.hasAlias schema.cursorField then pure s
      else
        pure { s with
          columns := s.columns ++
            [⟨schema.cursorField, ⟨schema.cursorField, some schema.table, []⟩⟩] }) := by
    have star : Text.split "*" "." = ["*"] := by rfl
    have one : ["*"].foldlM (fun s field => addParts registry schema maxDepth schema [] schema.table s
        (Text.split field ".")) empty = empty.addReadable schema [] schema.table := by
      rw [List.foldlM_cons, star]
      exact bind_pure _
    rw [ofFields, one]
  rw [all, readable_ok, ok_bind]
  split
  · exact ⟨s, rfl, whole⟩
  · refine ⟨_, rfl, whole.joins, whole.exclusions, fun c member => ?_⟩
    rcases List.mem_append.mp member with member | member
    · exact whole.columns c member
    · exact ⟨schema.cursorField, checked.cursorField, List.mem_singleton.mp member⟩

end FieldSelection

namespace Plan

/-- What a request for everything asks of the rows: that they are visible in a mode, and that given
columns have given values. -/
def wholeTests (schema : Schema) (mode : TrashedMode) (equals : Record) : List ColumnTest :=
  schema.visibleTests mode ++ equals.map fun (name, value) => (name, .eq, value)

/-- A request for everything has a plan of the resource's table. -/
theorem exists_whole {schema : Schema} (checked : schema.Checked) (setting : Setting)
    (mode : TrashedMode) (equals : Record) : ∃ plan,
      compile setting schema Spec.all mode true equals = .ok plan ∧
        plan.OfTable schema (wholeTests schema mode equals) := by
  obtain ⟨selected, fields_ok, whole⟩ := FieldSelection.ofFields_all checked setting.registry
    (schema.limits setting.settings).relatedDepth.toInt
  have compiled : ∃ plan, compile setting schema Spec.all mode true equals = .ok plan := by
    have asked : (if Spec.all.fields.isEmpty then ["*"] else Spec.all.fields) = ["*"] := rfl
    unfold compile
    simp only [asked, fields_ok, ok_bind]
    exact ⟨_, rfl⟩
  obtain ⟨plan, compiled⟩ := compiled
  obtain ⟨chosen, filter, search, cursor, parts⟩ := compile_ok compiled
  have asked : askedFields Spec.all = ["*"] := rfl
  have chosen_ok := parts.fields_ok
  rw [asked, fields_ok] at chosen_ok
  cases chosen_ok
  cases parts.filter_ok
  cases parts.search_ok
  cases parts.cursor_ok
  refine ⟨plan, compiled, parts.schema_eq, ?_, ?_, ?_, ?_, ?_, ?_, ?_⟩
  · rw [parts.joins_eq, whole.joins]
  · rw [parts.steps_eq, whole.exclusions, visibilitySteps_eq, equalitySteps_eq]
    simp [wholeTests]
  · exact (Except.ok.inj parts.group_ok).symm
  · exact (Except.ok.inj parts.limit_ok).symm
  · exact parts.offset_eq
  · rw [parts.columns_eq]
    exact whole.columns
  · exact (Except.ok.inj parts.order_ok).symm

end Plan

end Curator
