import Curator.Proofs.Sql.Made
import Curator.Proofs.Sql.Reading
/-!
# The rows of a plan

The selection that fetches the rows of a plan and the one that counts them find the same rows: they
differ in columns, order and limits, which no join, condition or group depends on.
-/

set_option autoImplicit false

namespace Curator

open Sql Outcome

/-! ## What a selection finds -/

namespace Sql.Select

/-- Selections that find the same rows: they are about the same table, join and group alike, and have
conditions that are equally true, whatever their tests come to. -/
structure Agrees (s t : Select) : Prop where
  table : s.table = t.table
  joins : s.joins = t.joins
  groups : s.groups = t.groups
  truth : ∀ v : List Token → Truth, (Condition.renderRoot s.root).truth s.dialect v =
    (Condition.renderRoot t.root).truth t.dialect v

/-- A selection without what it shows of the rows it finds. -/
def core (s : Select) : Select :=
  { s with columns := [], order := [], limit := none, offset := none }

variable {s t : Select}

theorem agrees_core (s : Select) : s.Agrees s.core := ⟨rfl, rfl, rfl, fun _ => rfl⟩

theorem Agrees.trans {u : Select} (first : s.Agrees t) (second : t.Agrees u) : s.Agrees u :=
  ⟨first.table.trans second.table, first.joins.trans second.joins,
    first.groups.trans second.groups, fun v => (first.truth v).trans (second.truth v)⟩

theorem core_add (s : Select) (c : Condition) : s.core.add c = (s.add c).core := by
  simp only [add, core]
  cases s.openGroups <;> rfl

theorem core_where (s : Select) (connector : Connector) (column : Column) (operator : Operator)
    (operand : Value) : s.core.where_ connector column operator operand =
      core <$> s.where_ connector column operator operand := by
  refine bind_map_congr fun expr => bind_map_congr fun f => ?_
  rw [core_add, map_pure]

theorem core_endGroup (s : Select) : s.core.endGroup = core <$> s.endGroup := by
  have opened : s.core.openGroups = s.openGroups := rfl
  unfold endGroup
  rw [opened]
  cases s.openGroups with
  | nil => rfl
  | cons innermost outer =>
    exact congrArg Except.ok (core_add { s with openGroups := outer } _)

theorem core_leftJoin (s : Select) (table : String) (left right : Column) (label : Option String) :
    s.core.leftJoin table left right label = core <$> s.leftJoin table left right label := by
  have joined : ∀ target : String,
      (do
        let left ← left.render s.dialect
        let right ← right.render s.dialect
        pure { s.core with
          joins := s.joins ++ ["LEFT JOIN " ++ target ++ " ON " ++ left ++ " = " ++ right] }) =
      core <$> (do
        let left ← left.render s.dialect
        let right ← right.render s.dialect
        pure { s with
          joins := s.joins ++ ["LEFT JOIN " ++ target ++ " ON " ++ left ++ " = " ++ right] }) :=
    fun target => bind_map_congr fun left => bind_map_congr fun right => rfl
  refine bind_map_congr fun target => ?_
  cases label with
  | none => exact joined target
  | some label =>
    simp only
    split
    · exact joined target
    · exact bind_map_congr fun label => joined _

theorem core_column {column : Column} {label : Option String}
    (ok : s.column column label = .ok t) : t.core = s.core := by
  obtain ⟨expr, _, ok⟩ := bind_ok ok
  cases label with
  | none =>
    cases pure_ok ok
    rfl
  | some label =>
    obtain ⟨text, _, ok⟩ := bind_ok ok
    cases pure_ok ok
    rfl

/-- What every step of a fold does to the rows that are found, the fold does. -/
theorem core_foldlM {α : Type} {f : Select → α → Except Failure Select}
    (each : ∀ s x, f s.core x = core <$> f s x) (xs : List α) (s : Select) :
    xs.foldlM f s.core = core <$> xs.foldlM f s := by
  induction xs generalizing s with
  | nil => rfl
  | cons x rest ih =>
    rw [List.foldlM_cons, List.foldlM_cons, each, map_bind]
    cases f s x with
    | error failure => rfl
    | ok t => exact ih t

end Sql.Select

namespace Plan

variable {plan : Plan} {d : Dialect} {s : Select}

theorem core_replayStep (s : Select) (step : PlanStep) :
    replayStep s.core step = Select.core <$> replayStep s step := by
  cases step with
  | test connector column operator operand => exact s.core_where connector column operator operand
  | opening connector => rfl
  | closing => exact s.core_endGroup

theorem core_settled (r : Select × Option Failure) :
    settled (r.1.core, r.2) = Select.core <$> settled r := by
  obtain ⟨s, failure⟩ := r
  cases failure <;> rfl

/-- A selection with the joins, the conditions and the groups of a plan. -/
def found (plan : Plan) (s : Select) : Except Failure Select := do
  let s ← plan.joins.foldlM replayJoin s
  let s ← plan.steps.foldlM replayStep s
  settled (s.groupBy (plan.group.map Column.parse))

theorem core_found (plan : Plan) (s : Select) :
    plan.found s.core = Select.core <$> plan.found s := by
  unfold found
  rw [Select.core_foldlM fun s join => s.core_leftJoin _ _ _ _, bind_map_left]
  refine bind_map_congr fun joined => ?_
  rw [Select.core_foldlM core_replayStep, bind_map_left]
  exact bind_map_congr fun narrowed => core_settled (narrowed.groupBy _)

theorem selection_counted (plan : Plan) (d : Dialect) : plan.selection d false = (do
    let s ← (Select.new d).from_ plan.schema.table
    plan.found s) := by
  simp only [selection, found, Bool.false_eq_true, if_false, pure_bind, bind_pure]

theorem selection_fetched (plan : Plan) (d : Dialect) : plan.selection d true = (do
    let s ← (Select.new d).from_ plan.schema.table
    let s ← plan.columns.foldlM replayColumn s
    let s ← plan.found s
    let s ← settled (s.orderBy plan.order)
    pure { s with limit := plan.limit, offset := plan.offset }) := by
  simp only [selection, found, if_true, bind_assoc]

theorem replayStep_dialect {t : Select} {step : PlanStep} (ok : replayStep s step = .ok t) :
    t.dialect = s.dialect := by
  cases step with
  | test connector column operator operand => exact Select.where_dialect ok
  | opening connector =>
    cases ok
    rfl
  | closing => exact Select.endGroup_dialect ok

/-- The selection of a plan is for the database it was asked for. -/
theorem selection_dialect {paginate : Bool} (ok : plan.selection d paginate = .ok s) :
    s.dialect = d := by
  obtain ⟨table, columns, joins, steps, table_ok, columns_ok, joins_ok, steps_ok, rfl⟩ :=
    selection_ok ok
  have begun : table.dialect = d := Select.from_dialect table_ok
  have chosen : columns.dialect = d := by
    cases paginate with
    | false =>
      cases pure_ok columns_ok
      exact begun
    | true =>
      refine foldlM_keeps (P := fun u => u.dialect = d) (fun u c t _ kept ok => ?_) begun columns_ok
      have same : t.core.dialect = u.core.dialect := congrArg Select.dialect (Select.core_column ok)
      exact same.trans kept
  have joined : joins.dialect = d := by
    refine foldlM_keeps (P := fun u => u.dialect = d) (fun u join t _ kept ok => ?_) chosen joins_ok
    obtain ⟨_, _, _, _, _, _, _, rfl⟩ := Select.leftJoin_ok ok
    exact kept
  have narrowed : steps.dialect = d :=
    foldlM_keeps (P := fun u => u.dialect = d)
      (fun u step t _ kept ok => (replayStep_dialect ok).trans kept) joined steps_ok
  cases paginate with
  | false => exact narrowed
  | true => exact narrowed

theorem core_columns {columns : List PlanColumn} {t : Select}
    (ok : columns.foldlM replayColumn s = .ok t) : t.core = s.core :=
  foldlM_keeps (P := fun u => u.core = s.core)
    (fun _ _ _ _ same ok => (Select.core_column ok).trans same) rfl ok

theorem core_from {table : String} (ok : (Select.new d).from_ table = .ok s) : s.core = s := by
  obtain ⟨text, _, ok⟩ := bind_ok ok
  cases pure_ok ok
  rfl

/-- The rows of a plan are counted where they are fetched, and they are the same. -/
theorem selection_core (ok : plan.selection d true = .ok s) :
    plan.selection d false = .ok s.core ∧ s.limit = plan.limit ∧ s.offset = plan.offset := by
  rw [selection_fetched] at ok
  obtain ⟨table, table_ok, ok⟩ := bind_ok ok
  obtain ⟨columns, columns_ok, ok⟩ := bind_ok ok
  obtain ⟨found, found_ok, ok⟩ := bind_ok ok
  obtain ⟨ordered, ordered_ok, ok⟩ := bind_ok ok
  cases settled_ok ordered_ok
  cases pure_ok ok
  refine ⟨?_, rfl, rfl⟩
  have counted := core_found plan columns
  rw [core_columns columns_ok, core_from table_ok, found_ok] at counted
  rw [selection_counted, table_ok]
  exact counted

/-- The rows of a plan are fetched where they are counted, if its columns and its order are written. -/
theorem exists_fetched (ok : plan.selection d false = .ok s)
    (columns : ∀ c ∈ plan.columns, ∀ u : Select, FailsOnly (replayColumn u c) fun _ => False)
    (order : ∀ u : Select, FailsOnly (settled (u.orderBy plan.order)) fun _ => False) :
    ∃ t, plan.selection d true = .ok t ∧ t.core = s := by
  rw [selection_counted] at ok
  obtain ⟨table, table_ok, found_ok⟩ := bind_ok ok
  obtain ⟨t, columns_ok⟩ : ∃ t, plan.columns.foldlM replayColumn table = .ok t :=
    ok_of_never (failsOnly_foldlM (K := fun _ => True) (fun u c member _ => columns c member u)
      (fun _ _ _ _ _ _ => trivial) trivial)
  have fetched := core_found plan t
  rw [core_columns columns_ok, core_from table_ok, found_ok] at fetched
  cases found : plan.found t with
  | error failure =>
    rw [found] at fetched
    cases fetched
  | ok u =>
    rw [found] at fetched
    obtain ⟨ordered, settles⟩ := ok_of_never (order u)
    refine ⟨{ ordered with limit := plan.limit, offset := plan.offset }, ?_, ?_⟩
    · rw [selection_fetched, table_ok, ok_bind, columns_ok, ok_bind, found, ok_bind, settles]
      rfl
    · cases settled_ok settles
      exact (Except.ok.inj fetched).symm

end Plan

end Curator
