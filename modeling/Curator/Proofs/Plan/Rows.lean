import Curator.Proofs.Mapping
import Curator.Proofs.Plan.Readable
import Curator.Proofs.Plan.Where
/-!
# The rows of a plan

A plan asks for the rows that satisfy its conditions, in its order, within its limits.  Of the values
in a table only integers are looked into: how other values compare and what other tests come to is
left to the database.
-/

set_option autoImplicit false

namespace Curator

open Sql Outcome Calendar

/-! ## Conditions -/

/-- The members of a group, each with the connector that joins it to those before. -/
abbrev Members := List (Connector × Truth)

namespace Members

/-- The truth of the members that follow a truth value.  AND binds closer than OR. -/
def following (t : Truth) : Members → Truth
  | [] => t
  | (.and, u) :: rest => following (t.and u) rest
  | (.or, u) :: rest => t.or (following u rest)

/-- The truth of a group, unless it has no members. -/
def truth? : Members → Option Truth
  | [] => none
  | (_, t) :: rest => some (following t rest)

/-- Truth values that are joined by one connector. -/
def joinedBy (connector : Connector) (truths : List Truth) : Members :=
  truths.map fun t => (connector, t)

theorem following_and (t : Truth) (truths : List Truth) :
    following t (joinedBy .and truths) = Truth.all (t :: truths) := by
  induction truths generalizing t with
  | nil => exact (Truth.all_singleton t).symm
  | cons u rest ih =>
    have next := ih (t.and u)
    rw [Truth.all_cons] at next
    rw [joinedBy, List.map_cons, following, Truth.all_cons, Truth.all_cons, ← Truth.and_assoc]
    exact next

theorem following_or (t : Truth) (truths : List Truth) :
    following t (joinedBy .or truths) = Truth.any (t :: truths) := by
  induction truths generalizing t with
  | nil => exact (Truth.any_singleton t).symm
  | cons u rest ih =>
    have next := ih u
    rw [joinedBy, List.map_cons, following]
    exact congrArg t.or next

theorem truth?_joinedBy (connector : Connector) (truths : List Truth) :
    (truth? (joinedBy connector truths)).toList = connector.joined truths := by
  cases truths with
  | nil => rfl
  | cons t rest =>
    cases connector with
    | and => exact congrArg (fun u => [u]) (following_and t rest)
    | or => exact congrArg (fun u => [u]) (following_or t rest)

end Members

/-- Conditions as far as they have been read: the members of the innermost group, and the groups
around it, each with the connector it will have in the next. -/
structure Conditions where
  members : Members
  around : List (Connector × Members)

namespace Conditions

/-- One more step, where `holds` tells the truth of tests.  A group that is closed counts as one
member, unless it is empty. -/
def read (holds : Column → Operator → Value → Truth) (c : Conditions) :
    PlanStep → Option Conditions
  | .test connector column operator operand =>
    some { c with members := c.members ++ [(connector, holds column operator operand)] }
  | .opening connector => some ⟨[], (connector, c.members) :: c.around⟩
  | .closing =>
    match c.around with
    | [] => none
    | (connector, before) :: around =>
      some ⟨before ++ Members.joinedBy connector (Members.truth? c.members).toList, around⟩

end Conditions

namespace Plan

/-- The truth of a plan's conditions: without any they are true. -/
def truth? (plan : Plan) (holds : Column → Operator → Value → Truth) : Option Truth := do
  let c ← plan.steps.foldlM (Conditions.read holds) ⟨[], []⟩
  if c.around.isEmpty then pure ((Members.truth? c.members).getD .yes) else none

/-- Steps that add given truth values, joined by a connector, to the group that is read. -/
def Reads (holds : Column → Operator → Value → Truth) (connector : Connector)
    (steps : List PlanStep) (truths : List Truth) : Prop :=
  ∀ c : Conditions, steps.foldlM (Conditions.read holds) c =
    some { c with members := c.members ++ Members.joinedBy connector truths }

section

variable {holds : Column → Operator → Value → Truth} {connector : Connector}
  {steps others : List PlanStep} {truths more : List Truth}

theorem reads_nil : Reads holds connector [] [] := by
  intro c
  simp [Members.joinedBy]

theorem Reads.append (first : Reads holds connector steps truths)
    (second : Reads holds connector others more) :
    Reads holds connector (steps ++ others) (truths ++ more) := by
  intro c
  rw [List.foldlM_append, first c, Option.bind_eq_bind, Option.bind_some, second]
  simp [Members.joinedBy]

theorem reads_test (column : Column) (operator : Operator) (operand : Value) :
    Reads holds connector [.test connector column operator operand]
      [holds column operator operand] := by
  intro c
  rfl

theorem reads_group {inner : Connector} (inside : Reads holds inner steps truths) :
    Reads holds connector (.opening connector :: steps ++ [.closing]) (inner.joined truths) := by
  intro c
  rw [List.cons_append, List.foldlM_cons, Conditions.read, Option.bind_eq_bind, Option.bind_some,
    List.foldlM_append, inside, Option.bind_eq_bind, Option.bind_some, List.foldlM_cons,
    Conditions.read, List.nil_append, Members.truth?_joinedBy]
  rfl

end

/-! ## Groups joined by one connector -/

/-- Steps in which the members of each group are joined by one connector. -/
inductive Uniform : Connector → List PlanStep → Prop where
  | nil {connector : Connector} : Uniform connector []
  | test (connector : Connector) (column : Column) (operator : Operator) (operand : Value) :
      Uniform connector [.test connector column operator operand]
  | append {connector : Connector} {first second : List PlanStep}
      (before : Uniform connector first) (after : Uniform connector second) :
      Uniform connector (first ++ second)
  | group {inner : Connector} {steps : List PlanStep} (connector : Connector)
      (inside : Uniform inner steps) :
      Uniform connector (.opening connector :: steps ++ [.closing])

theorem uniform_tests {connector : Connector} {steps : List PlanStep}
    (tests : ∀ step ∈ steps, ∃ column operator operand,
      step = .test connector column operator operand) : Uniform connector steps := by
  induction steps with
  | nil => exact .nil
  | cons step rest ih =>
    obtain ⟨column, operator, operand, rfl⟩ := tests step List.mem_cons_self
    have others := ih fun step member => tests step (List.mem_cons_of_mem _ member)
    exact .append (.test connector column operator operand) others

theorem filterSteps_uniform {schema : Schema} {now : Moment} {maxDepth : Option Int}
    {connector : Connector} {depth : Nat} {v : Value} {steps : List PlanStep}
    (ok : filterSteps schema now maxDepth connector depth v = .ok steps) :
    Uniform connector steps := by
  have made := filterSteps_made ok
  clear ok
  induction made with
  | plain _ => exact .nil
  | noItems => exact .nil
  | noEntries => exact .nil
  | item _ _ head tail => exact .append head tail
  | group _ _ _ _ within tail => exact .append (.group _ within) tail
  | field _ _ _ tests_ok _ tail =>
    apply Uniform.append _ tail
    apply uniform_tests
    intro step member
    obtain ⟨operator, operand, rfl⟩ := fieldTests_made tests_ok step member
    exact ⟨_, operator, operand, rfl⟩

theorem searchSteps_uniform {schema : Schema} {search : String} {steps : List PlanStep}
    (ok : searchSteps schema search = .ok steps) : Uniform .and steps := by
  rcases searchSteps_ok ok with ⟨_, rfl⟩ | ⟨_, tests, rfl, made⟩
  · exact .nil
  · apply Uniform.group
    apply uniform_tests
    intro step member
    obtain ⟨name, _, column, _, rfl⟩ := mem_of_forall₂ made member
    exact ⟨column, .icontains, .str search, rfl⟩

theorem Uniform.reads {connector : Connector} {steps : List PlanStep}
    (uniform : Uniform connector steps) (holds : Column → Operator → Value → Truth) :
    ∃ truths, Reads holds connector steps truths := by
  induction uniform with
  | nil => exact ⟨[], reads_nil⟩
  | test connector column operator operand => exact ⟨_, reads_test column operator operand⟩
  | append _ _ first second =>
    obtain ⟨truths, front⟩ := first
    obtain ⟨more, back⟩ := second
    exact ⟨_, front.append back⟩
  | group connector _ ih =>
    obtain ⟨truths, inside⟩ := ih
    exact ⟨_, reads_group inside⟩

section

variable {setting : Setting} {schema : Schema} {spec : Spec} {trashed : TrashedMode}
  {listAll : Bool} {equals : Record} {plan : Plan}

/-- Outside of all groups the conditions of a compiled plan are joined by AND. -/
theorem compile_uniform (declared : schema.Declared) (registered : setting.registry.Declared)
    (ok : compile setting schema spec trashed listAll equals = .ok plan) :
    Uniform .and plan.steps := by
  obtain ⟨selected, filter, search, cursor, compiled⟩ := compile_ok ok
  rw [compiled.steps_eq]
  have exclusions : Uniform .and selected.exclusions := by
    apply uniform_tests
    intro step member
    obtain ⟨_, _, _, _, _, _, _, rfl⟩ := (compiled.exclusions declared registered).1 step member
    exact ⟨_, _, _, rfl⟩
  have visibility : Uniform .and (visibilitySteps schema trashed) := by
    apply uniform_tests
    intro step member
    obtain ⟨_, operator, rfl⟩ := visibilitySteps_marker step member
    exact ⟨_, operator, _, rfl⟩
  have equalities : Uniform .and (equalitySteps schema equals) := by
    apply uniform_tests
    intro step member
    obtain ⟨⟨name, value⟩, _, rfl⟩ := List.mem_map.mp member
    exact ⟨_, _, _, rfl⟩
  have compared : Uniform .and cursor := by
    have ok := compiled.cursor_ok
    cases listAll with
    | true =>
      cases pure_ok ok
      exact .nil
    | false =>
      rcases cursorSteps_ok ok with ⟨_, rfl⟩ | ⟨value, operator, _, _, rfl⟩
      · exact .nil
      · exact .test _ _ _ _
  exact .append (.append (.append (.append (.append exclusions
    (filterSteps_uniform compiled.filter_ok)) visibility) equalities)
    (searchSteps_uniform compiled.search_ok)) compared

theorem Reads.truth? {holds : Column → Operator → Value → Truth} {truths : List Truth}
    (reads : Reads holds .and plan.steps truths) : plan.truth? holds = some (Truth.all truths) := by
  have members : (Members.truth? (Members.joinedBy .and truths)).getD .yes = Truth.all truths := by
    cases truths with
    | nil => rfl
    | cons t rest => exact Members.following_and t rest
  rw [Plan.truth?, reads ⟨[], []⟩]
  exact congrArg some members

/-- A plan with one more condition. -/
def narrowed (plan : Plan) (column : Column) (operator : Operator) (operand : Value) : Plan :=
  { plan with steps := plan.steps ++ [.test .and column operator operand] }

/-- A test that is added to conditions joined by AND must hold with them. -/
theorem Uniform.truth?_narrowed (uniform : Uniform .and plan.steps)
    (holds : Column → Operator → Value → Truth) (column : Column) (operator : Operator)
    (operand : Value) :
    ∃ t, plan.truth? holds = some t ∧
      (plan.narrowed column operator operand).truth? holds =
        some (t.and (holds column operator operand)) := by
  obtain ⟨truths, reads⟩ := uniform.reads holds
  refine ⟨_, reads.truth?, ?_⟩
  have more : Reads holds .and (plan.narrowed column operator operand).steps _ :=
    reads.append (reads_test column operator operand)
  rw [more.truth?, Truth.all_append, Truth.all_singleton]

/-- What uniform steps are read to is what they add to a selection. -/
theorem Uniform.adds {connector : Connector} {steps : List PlanStep}
    (uniform : Uniform connector steps) (d : Dialect) (v : List Token → Truth) :
    ∃ truths, Reads (testTruth d v) connector steps truths ∧ Adds d v connector steps truths := by
  induction uniform with
  | nil => exact ⟨[], reads_nil, adds_nil⟩
  | test connector column operator operand =>
    exact ⟨_, reads_test column operator operand, adds_test column operator operand⟩
  | append _ _ first second =>
    obtain ⟨truths, read, added⟩ := first
    obtain ⟨more, read', added'⟩ := second
    exact ⟨_, read.append read', added.append added'⟩
  | group connector _ ih =>
    obtain ⟨truths, read, added⟩ := ih
    exact ⟨_, reads_group read, adds_group added⟩

/-- The conditions of a compiled plan have the truth that the text of its statement has. -/
theorem truth?_eq_text (declared : schema.Declared) (registered : setting.registry.Declared)
    (ok : compile setting schema spec trashed listAll equals = .ok plan) {d : Dialect}
    {paginate : Bool} {s : Select} (selected : plan.selection d paginate = .ok s)
    (v : List Token → Truth) :
    plan.truth? (testTruth d v) = some ((Condition.renderRoot s.root).truth d v) := by
  obtain ⟨truths, reads, adds⟩ := (compile_uniform declared registered ok).adds d v
  obtain ⟨dialect, ps, root, members⟩ := selection_root selected adds
  have tests := (selection_made selected).sound.root
  rw [dialect, root] at tests
  rw [reads.truth?, root, truth_of_formulas v tests, members]

end

end Plan

/-! ## Rows -/

/-- What a database sees in rows: the values of columns, what tests come to, and how values are
ordered, of which only what integers are compared to is settled. -/
structure Sight (Row : Type) where
  value : Row → Column → Value
  other : Row → Column → Operator → Value → Truth
  compare : Value → Value → Ordering

namespace Sight

variable {Row : Type} (sight : Sight Row)

/-- The truth of a test of a row: integers come before and after each other as numbers do. -/
def holds (row : Row) (column : Column) (operator : Operator) (operand : Value) : Truth :=
  match operator, sight.value row column, operand with
  | .gt, .int m, .int n => if n < m then .yes else .no
  | .lt, .int m, .int n => if m < n then .yes else .no
  | _, _, _ => sight.other row column operator operand

def order : Value → Value → Ordering
  | .int m, .int n => Ord.compare m n
  | a, b => sight.compare a b

/-- How two rows stand by an item of an order, which a minus turns around. -/
def orderItem (item : String) (a b : Row) : Ordering :=
  let column := Plan.orderColumn item
  let forward := sight.order (sight.value a column) (sight.value b column)
  if Text.startsWith item "-" then forward.swap else forward

/-- How two rows stand by the items of an order, of which the first that tells them apart counts. -/
def orderBy (items : List String) (a b : Row) : Ordering :=
  items.foldr (fun item rest => (sight.orderItem item a b).then rest) .eq

end Sight

namespace Plan

variable {Row : Type}

/-- Whether a row satisfies the conditions of a plan. -/
def keeps (plan : Plan) (sight : Sight Row) (row : Row) : Bool :=
  plan.truth? (sight.holds row) == some .yes

/-- The rows within the limits of a plan. -/
def window (plan : Plan) (rows : List Row) : List Row :=
  let rest := rows.drop (plan.offset.getD 0).toNat
  match plan.limit with
  | none => rest
  | some limit => rest.take limit.toNat

/-- Rows that a plan may be answered with: those of the table that satisfy its conditions, sorted by
its order, within its limits. -/
def Answers (plan : Plan) (sight : Sight Row) (table rows : List Row) : Prop :=
  ∃ sorted : List Row, sorted.Perm (table.filter (plan.keeps sight)) ∧
    sorted.Pairwise (fun a b => sight.orderBy plan.order a b ≠ .gt) ∧ rows = plan.window sorted

/-- A row as it is fetched by a plan. -/
def record (plan : Plan) (sight : Sight Row) (row : Row) : Record :=
  plan.columns.map fun c => (c.label, sight.value row c.column)

/-- One more test that comes to yes or no keeps the rows that pass it. -/
theorem keeps_narrowed_settled {plan : Plan} (uniform : Uniform .and plan.steps) {sight : Sight Row}
    {row : Row} {column : Column} {operator : Operator} {operand : Value} {passes : Prop}
    [Decidable passes]
    (settled : sight.holds row column operator operand = if passes then .yes else .no) :
    (plan.narrowed column operator operand).keeps sight row =
      (plan.keeps sight row && decide passes) := by
  obtain ⟨t, truth, narrowed⟩ :=
    uniform.truth?_narrowed (sight.holds row) column operator operand
  rw [Bool.eq_iff_iff, keeps, keeps, truth, narrowed, settled]
  simp only [Bool.and_eq_true, beq_iff_eq, Option.some.injEq, Truth.and_eq_yes, decide_eq_true_eq]
  by_cases pass : passes
  · simp [pass]
  · simp [pass]

/-- One more comparison with a number keeps the rows beyond it. -/
theorem keeps_narrowed {plan : Plan} (uniform : Uniform .and plan.steps) (sight : Sight Row)
    {row : Row} {column : Column} {m : Int} (value : sight.value row column = .int m) (n : Int) :
    (plan.narrowed column .gt (.int n)).keeps sight row =
      (plan.keeps sight row && decide (n < m)) := by
  apply keeps_narrowed_settled uniform
  unfold Sight.holds
  rw [value]

/-- One more comparison with a number keeps the rows below it. -/
theorem keeps_narrowed_below {plan : Plan} (uniform : Uniform .and plan.steps) (sight : Sight Row)
    {row : Row} {column : Column} {m : Int} (value : sight.value row column = .int m) (n : Int) :
    (plan.narrowed column .lt (.int n)).keeps sight row =
      (plan.keeps sight row && decide (m < n)) := by
  apply keeps_narrowed_settled uniform
  unfold Sight.holds
  rw [value]

theorem orderBy_number {sight : Sight Row} {item : String} {a b : Row} {m n : Int}
    (forward : Text.startsWith item "-" = false)
    (first : sight.value a (orderColumn item) = .int m)
    (second : sight.value b (orderColumn item) = .int n) :
    sight.orderBy [item] a b ≠ .gt ↔ m ≤ n := by
  have compared : sight.orderBy [item] a b = compare m n := by
    simp [Sight.orderBy, Sight.orderItem, forward, first, second, Sight.order]
  rw [compared]
  exact Int.compare_ne_gt

/-! ## Cursors -/

theorem startsWith_minus {text : String} (apart : '-' ∉ text.toList) :
    Text.startsWith text "-" = false := by
  unfold Text.startsWith
  cases chars : text.toList with
  | nil => rfl
  | cons c rest =>
    rw [chars, List.mem_cons, not_or] at apart
    simp [List.isPrefixOf, apart.1]

theorem dropLeading_unsigned {text : String} (noPlus : '+' ∉ text.toList)
    (noMinus : '-' ∉ text.toList) :
    Text.dropLeading (fun c => c == '+' || c == '-') text = text := by
  apply String.toList_inj.mp
  cases chars : text.toList with
  | nil => simp [Text.dropLeading, chars]
  | cons c rest =>
    rw [chars, List.mem_cons, not_or] at noPlus noMinus
    simp [Text.dropLeading, chars, Ne.symm noPlus.1, Ne.symm noMinus.1]

theorem sortItem_cursor {schema : Schema} (checked : schema.Checked) :
    sortItem schema schema.cursorField = .ok (schema.table ++ "." ++ schema.cursorField) := by
  have identifier := checked.readable _ checked.cursorField
  have noMinus : '-' ∉ schema.cursorField.toList :=
    Text.not_mem_of_isIdentifier identifier (by decide)
  have bare := dropLeading_unsigned (Text.not_mem_of_isIdentifier identifier (by decide)) noMinus
  unfold sortItem
  simp only [bare, List.contains_iff_mem, checked.cursorField, if_true, startsWith_minus noMinus,
    if_neg Bool.false_ne_true, String.empty_append]

/-- The order by the cursor field, ascending, be it asked for or that of the primary key. -/
theorem sortOrder_cursor {schema : Schema} {tokens order : List String} (checked : schema.Checked)
    (ascending : tokens = [schema.cursorField] ∨
      tokens = [] ∧ schema.cursorField = schema.primaryKey)
    (ok : sortOrder schema tokens = .ok order) :
    ∃ item, order = [item] ∧ Text.startsWith item "-" = false ∧
      orderColumn item = ⟨schema.cursorField, some schema.table, []⟩ := by
  have forward : Text.startsWith (schema.table ++ "." ++ schema.cursorField) "-" = false := by
    apply startsWith_minus
    have inTable : '-' ∉ schema.table.toList :=
      Text.not_mem_of_isIdentifier checked.table (by decide)
    have inField : '-' ∉ schema.cursorField.toList :=
      Text.not_mem_of_isIdentifier (checked.readable _ checked.cursorField) (by decide)
    simp [inTable, inField]
  have column := orderColumn_qualified checked.table false schema.cursorField
  rw [if_neg Bool.false_ne_true, String.empty_append] at column
  refine ⟨schema.table ++ "." ++ schema.cursorField, ?_, forward, column⟩
  rcases ascending with rfl | ⟨rfl, same⟩
  · have listed : sortOrder schema [schema.cursorField] =
        .ok [schema.table ++ "." ++ schema.cursorField] := by
      rw [sortOrder, if_neg (by simp), List.mapM_cons, sortItem_cursor checked]
      rfl
    exact (Except.ok.inj (listed.symm.trans ok)).symm
  · cases ok
    rw [same]

theorem value?_labelled {columns : List PlanColumn} {value : PlanColumn → Value} {key : String}
    {v : Value} (some_column : ∃ c ∈ columns, c.label = key)
    (each : ∀ c ∈ columns, c.label = key → value c = v) :
    Mapping.value? (columns.map fun c => (c.label, value c)) key = some v := by
  induction columns with
  | nil =>
    obtain ⟨c, member, _⟩ := some_column
    cases member
  | cons c rest ih =>
    rw [List.map_cons, Mapping.value?_cons]
    by_cases this : c.label = key
    · rw [if_pos this.symm, each c List.mem_cons_self this]
    · rw [if_neg (Ne.symm this)]
      apply ih
      · obtain ⟨other, member, label⟩ := some_column
        rcases List.mem_cons.mp member with rfl | member
        · exact absurd label this
        · exact ⟨other, member, label⟩
      · intro other member
        exact each other (List.mem_cons_of_mem _ member)

theorem ofFields_cursor {registry : Registry} {root : Schema} {maxDepth : Int}
    {fields : List String} {t : FieldSelection}
    (ok : FieldSelection.ofFields registry maxDepth root fields = .ok t) :
    ∃ c ∈ t.columns, c.label = root.cursorField := by
  obtain ⟨s, _, ok⟩ := bind_ok ok
  split at ok
  · rename_i selected
    cases ok
    obtain ⟨c, member, label⟩ := List.any_eq_true.mp selected
    exact ⟨c, member, beq_iff_eq.mp label⟩
  · cases pure_ok ok
    exact ⟨_, List.mem_append_right _ (List.mem_singleton_self _), rfl⟩

/-- The column that has the name of the cursor field is that of the root's table. -/
theorem column_of_cursor {setting : Setting} {schema : Schema} {spec : Spec}
    {trashed : TrashedMode} {listAll : Bool} {equals : Record} {plan : Plan}
    (declared : schema.Declared) (registered : setting.registry.Declared)
    (ok : compile setting schema spec trashed listAll equals = .ok plan) {c : PlanColumn}
    (member : c ∈ plan.columns) (label : c.label = schema.cursorField) :
    c.column = ⟨schema.cursorField, some schema.table, []⟩ := by
  obtain ⟨selected, filter, search, cursor, compiled⟩ := compile_ok ok
  have checked := declared.checked
  have identifier := checked.readable _ checked.cursorField
  have whole : Text.split schema.cursorField "." = [schema.cursorField] := by
    have apart : '.' ∉ schema.cursorField.toList :=
      Text.not_mem_of_isIdentifier identifier (by decide)
    have joined : Text.split (Text.join "." [schema.cursorField]) "." = [schema.cursorField] :=
      Text.split_join '.' (by simp) (by simpa using apart)
    simpa [Text.join] using joined
  -- a label without a dot is that of a column of the root
  obtain ⟨path, next, table, name, _, parts, _, place, column⟩ :=
    compiled.selectsReadable declared registered c member
  rw [label, whole] at parts
  have divided : [] ++ [schema.cursorField] = path ++ [name] := parts
  obtain ⟨rfl, same⟩ := List.append_inj' divided rfl
  cases same
  rw [tableAt?, if_pos rfl, compiled.schema_eq] at place
  cases place
  rw [column, baseField_of_isIdentifier identifier, jsonPath_of_isIdentifier identifier]

/-- What a fetched row has under the name of the cursor field is the value of that column. -/
theorem value?_cursor {setting : Setting} {schema : Schema} {spec : Spec} {trashed : TrashedMode}
    {listAll : Bool} {equals : Record} {plan : Plan} (declared : schema.Declared)
    (registered : setting.registry.Declared)
    (ok : compile setting schema spec trashed listAll equals = .ok plan) (sight : Sight Row)
    (row : Row) : (plan.record sight row).value? schema.cursorField =
      some (sight.value row ⟨schema.cursorField, some schema.table, []⟩) := by
  obtain ⟨selected, filter, search, cursor, compiled⟩ := compile_ok ok
  apply value?_labelled
  · rw [compiled.columns_eq]
    exact ofFields_cursor compiled.fields_ok
  · intro c member label
    rw [column_of_cursor declared registered ok member label]

end Plan

end Curator
