import Curator.Proofs.Mapping
import Curator.Proofs.Model.Reading
/-!
# The row with a key

The plan that reads the row with a key fetches the readable columns and nothing of other resources, so
a fetched row is handed out with its own values, but for what accessors and hooks make of them.
-/

set_option autoImplicit false

namespace Curator

open Sql Outcome

/-! ## Flat rows -/

theorem segments_of_isIdentifier {name : String} (valid : Text.isIdentifier name = true) :
    segments name = [name] := by
  have no_dot : '.' ∉ name.toList := Text.not_mem_of_isIdentifier valid (by decide)
  have no_dash : '-' ∉ name.toList := Text.not_mem_of_isIdentifier valid (by decide)
  have one_part : Text.split name "." = [name] := by
    have pieces : Text.pieces ['.'] name.toList = [name.toList] := Text.pieces_of_not_mem no_dot
    simp [Text.split, pieces]
  have one_key : Text.split name jsonArrow = [name] := by
    have pieces : Text.pieces jsonArrow.toList name.toList = [name.toList] :=
      @Text.pieces_of_not_mem _ ['>'] _ no_dash
    simp [Text.split, pieces]
  simp [segments, one_part, one_key]

theorem plain_of_isIdentifier {name : String} (valid : Text.isIdentifier name = true) :
    Record.isNestedColumn name = false := by
  have no_dot : '.' ∉ name.toList := Text.not_mem_of_isIdentifier valid (by decide)
  have no_dash : '-' ∉ name.toList := Text.not_mem_of_isIdentifier valid (by decide)
  have dot : Text.cut? ['.'] name.toList = none := Text.cut?_of_not_mem no_dot
  have dash : Text.cut? jsonArrow.toList name.toList = none :=
    @Text.cut?_of_not_mem _ ['>'] _ no_dash
  simp [Record.isNestedColumn, Text.holds, Text.occurs, dot, dash]

namespace Record

variable {row : Record}

theorem filter_plain (plain : ∀ key ∈ row.keys, Text.isIdentifier key = true) :
    row.filter (fun (column, _) => !isNestedColumn column) = row := by
  refine List.filter_eq_self.mpr fun entry member => ?_
  have valid := plain entry.1 (List.mem_map_of_mem (f := (·.1)) member)
  simp [plain_of_isIdentifier valid]

theorem filter_nested (plain : ∀ key ∈ row.keys, Text.isIdentifier key = true) :
    row.filter (fun (column, _) => isNestedColumn column) = [] := by
  refine List.filter_eq_nil_iff.mpr fun entry member => ?_
  have valid := plain entry.1 (List.mem_map_of_mem (f := (·.1)) member)
  simp [plain_of_isIdentifier valid]

theorem unflatten_plain (plain : ∀ key ∈ row.keys, Text.isIdentifier key = true) :
    unflatten row = Mapping.overlay [] row := by
  have step : ∀ (acc : Record) (entry : String × Value), entry ∈ row →
      acc.assign (segments entry.1) entry.2 = acc.put entry.1 entry.2 := by
    intro acc entry member
    have valid := plain entry.1 (List.mem_map_of_mem (f := (·.1)) member)
    rw [segments_of_isIdentifier valid]
    rfl
  unfold unflatten
  simp only [filter_plain plain, filter_nested plain, List.append_nil]
  exact List.foldl_ext _ _ _ step

end Record

/-! ## Accessors -/

/-- Transforms that leave the value of a field alone leave it in the record. -/
theorem TransformTable.transformAll_keeps {table : TransformTable} {record : Record}
    {declarations : Mapping Value} {field : String} {v : Value}
    (held : record.value? field = some v)
    (alone : ∀ declaration, (field, declaration) ∈ declarations →
      table.applyTo field declaration v = .ok v) :
    (table.transformAll record declarations).1.value? field = some v := by
  induction declarations generalizing record with
  | nil => exact held
  | cons entry rest ih =>
    rcases entry with ⟨other, declaration⟩
    have later : ∀ declaration, (field, declaration) ∈ rest →
        table.applyTo field declaration v = .ok v :=
      fun declaration member => alone declaration (List.mem_cons_of_mem _ member)
    unfold transformAll
    split
    · exact ih held later
    · rename_i value given
      split
      · rename_i result applied
        refine ih ?_ later
        rw [Mapping.value?_put]
        split
        · rename_i same
          subst same
          rw [held] at given
          cases given
          rw [alone declaration List.mem_cons_self] at applied
          cases applied
          rfl
        · exact held
      · exact held

theorem TransformTable.transformed_keeps {table : TransformTable} {record result : Record}
    {declarations : Mapping Value} {field : String} {v : Value}
    (held : record.value? field = some v)
    (alone : ∀ declaration, (field, declaration) ∈ declarations →
      table.applyTo field declaration v = .ok v)
    (ok : table.transformed record declarations = .ok result) : result.value? field = some v := by
  have kept := transformAll_keeps held alone
  unfold transformed at ok
  split at ok
  · rename_i whole
    cases ok
    rw [whole] at kept
    exact kept
  · cases ok

/-! ## Hooks -/

theorem Mapping.overlay_keeps {α : Type} {m updates : Mapping α} {key : String} {v : α}
    (held : m.value? key = some v) (same : ∀ w, (key, w) ∈ updates → w = v) :
    (m.overlay updates).value? key = some v := by
  induction updates generalizing m with
  | nil => exact held
  | cons entry rest ih =>
    rcases entry with ⟨k, w⟩
    have later : ∀ w, (key, w) ∈ rest → w = v := fun w member => same w (List.mem_cons_of_mem _ member)
    refine ih (m := m.put k w) ?_ later
    rw [value?_put]
    split
    · rename_i at_key
      subst at_key
      rw [same w List.mem_cons_self]
    · exact held

/-- A hook that writes nothing but a given value to a field. -/
def Hook.Writes (hook : Hook) (field : String) (v : Value) : Prop :=
  (∀ w, (field, w) ∈ hook.assignments → w = v) ∧
    ∀ result, hook.result = some result → ∀ w, (field, w) ∈ result.update → w = v

theorem Hook.left_keeps {hook : Hook} {context : HookContext} {record : Record} {field : String}
    {v : Value} (held : record.value? field = some v) (writes : hook.Writes field v) :
    (hook.left context record).record.value? field = some v := by
  unfold left
  split
  · exact held
  · have assigned := Mapping.overlay_keeps held writes.1
    simp only
    split
    · exact assigned
    · rename_i result returned
      split
      · exact assigned
      · exact Mapping.overlay_keeps assigned (writes.2 result returned)

theorem Hook.leftByAll_keeps {table : HookTable} {context : HookContext} {names : List Value}
    {record updates : Record} {field : String} {v : Value} (held : record.value? field = some v)
    (writes : ∀ name ∈ names, ∀ hook, table.declared? name = .ok (some hook) →
      hook.Writes field v) :
    (leftByAll table context names record updates).record.value? field = some v := by
  induction names generalizing record updates with
  | nil => exact held
  | cons name rest ih =>
    have others : ∀ other ∈ rest, ∀ hook, table.declared? other = .ok (some hook) →
        hook.Writes field v := fun other member => writes other (List.mem_cons_of_mem _ member)
    unfold leftByAll
    split
    · exact held
    · exact ih held others
    · rename_i hook registered
      have left : (hook.left context record).record.value? field = some v :=
        Hook.left_keeps held (writes name List.mem_cons_self hook registered)
      split
      · exact left
      · exact ih left others

namespace Model

variable {m : Model}

theorem hooked_keeps {point : HookPoint} {record result : Record} {previous : Option Record}
    {field : String} {v : Value} (held : record.value? field = some v)
    (writes : ∀ name ∈ m.schema.hookNames point.name, ∀ hook,
      m.engine.hooks.declared? name = .ok (some hook) → hook.Writes field v)
    (ok : m.hooked point record previous = .ok result) : result.value? field = some v := by
  have kept : (Hook.leftByAll m.engine.hooks (.at m.schema.name point.name record previous)
      (m.schema.hookNames point.name) record []).record.value? field = some v :=
    Hook.leftByAll_keeps held writes
  simp only [hooked] at ok
  cases ran : (Hook.leftByAll m.engine.hooks (.at m.schema.name point.name record previous)
      (m.schema.hookNames point.name) record []).updates with
  | error failure =>
    rw [ran] at ok
    cases ok
  | ok updates =>
    rw [ran] at ok
    cases ok
    exact kept

/-! ## The plan -/

theorem addReadable_related {s t : FieldSelection} {schema : Schema} {table : String}
    (ok : s.addReadable schema [] table = .ok t) : t.related = s.related := by
  refine foldlM_keeps (P := fun u => u.related = s.related) ?_ rfl ok
  intro u name v _ kept added
  rcases FieldSelection.addColumn_ok added with ⟨_, rfl⟩ | ⟨_, _, rfl⟩
  · exact kept
  · exact kept

theorem keyPlan_ok {key : Value} {mode : TrashedMode} {plan : Plan}
    (ok : m.keyPlan key mode = .ok plan) :
    plan.schema = m.schema ∧ plan.related = [] ∧ plan.keepCursor = true := by
  unfold keyPlan Plan.compile at ok
  obtain ⟨selected, fields_ok, ok⟩ := bind_ok ok
  obtain ⟨filter, _, ok⟩ := bind_ok ok
  obtain ⟨search, _, ok⟩ := bind_ok ok
  obtain ⟨order, _, ok⟩ := bind_ok ok
  obtain ⟨group, _, ok⟩ := bind_ok ok
  cases pure_ok ok
  refine ⟨rfl, ?_, ?_⟩
  · -- the request for all columns of the root adds no joins
    obtain ⟨all, added, rest⟩ := bind_ok fields_ok
    have whole : FieldSelection.empty.addReadable m.schema [] m.schema.table = .ok all := by
      obtain ⟨next, first, last⟩ := bind_ok added
      cases pure_ok last
      exact first
    have none_related := addReadable_related whole
    split at rest
    · cases pure_ok rest
      exact none_related
    · cases pure_ok rest
      exact none_related
  · simp [Spec.ofFields, Spec.all, Text.startsWith]

/-- Without joined columns reshaping is laying the row over nothing and running the accessors. -/
theorem keyPlan_reshape {key : Value} {mode : TrashedMode} {plan : Plan} {row : Record}
    (compiled : m.keyPlan key mode = .ok plan)
    (plain : ∀ column ∈ row.keys, Text.isIdentifier column = true) :
    plan.reshape row =
      TransformTable.standard.transformed (Mapping.overlay [] row) m.schema.accessors := by
  obtain ⟨same, none_related, keeps_cursor⟩ := keyPlan_ok compiled
  have no_related : Plan.deepestFirst [] = [] := by simp [Plan.deepestFirst]
  unfold Plan.reshape
  rw [none_related, same, Plan.shownColumns, keeps_cursor, if_pos rfl,
    Record.unflatten_plain plain, no_related]
  rfl

/-- A row as the plan of a key fetches it: it has one value for each column, of readable columns only,
and the key in the column of the primary key. -/
structure Carries (m : Model) (row : Record) (key : Value) : Prop where
  distinct : row.keys.Nodup
  readable : ∀ column ∈ row.keys, column ∈ m.schema.readable
  key : row.value? m.schema.primaryKey = some key

/-- Accessors and hooks after reading leave a key as it is. -/
structure LeavesKey (m : Model) (key : Value) : Prop where
  accessors : ∀ declaration, (m.schema.primaryKey, declaration) ∈ m.schema.accessors →
    TransformTable.standard.applyTo m.schema.primaryKey declaration key = .ok key
  hooks : ∀ name ∈ m.schema.hookNames HookPoint.afterRead.name, ∀ hook,
    m.engine.hooks.declared? name = .ok (some hook) → hook.Writes m.schema.primaryKey key

/-- What is handed out of a row that carries a key carries it too. -/
theorem handedOut_key {key : Value} {mode : TrashedMode} {plan : Plan} {answer : Answered}
    {data : Record} (checked : m.schema.Checked) (leaves : m.LeavesKey key)
    (compiled : m.keyPlan key mode = .ok plan)
    (carries : ∀ row rest, answer.rows = row :: rest → m.Carries row key)
    (ok : m.handedOut plan answer = .ok data) : data.value? m.schema.primaryKey = some key := by
  unfold handedOut at ok
  split at ok
  · cases ok
  · rename_i row rest rows
    have carried := carries row rest rows
    obtain ⟨record, reshaped, ran⟩ := bind_ok ok
    have plain : ∀ column ∈ row.keys, Text.isIdentifier column = true :=
      fun column member => checked.readable column (carried.readable column member)
    rw [keyPlan_reshape compiled plain] at reshaped
    have held : (Mapping.overlay [] row : Record).value? m.schema.primaryKey = some key := by
      rw [Mapping.value?_overlay carried.distinct, carried.key]
      rfl
    have accessed := TransformTable.transformed_keeps held leaves.accessors reshaped
    exact hooked_keeps accessed leaves.hooks ran

end Model

end Curator
