import Curator.Plan.Reshape
import Curator.Proofs.Mapping
import Curator.Proofs.Outcome
/-!
# Transforms of single fields

What the transforms of a resource make of a record, field by field, and that neither they nor reshaping
give a record two values for one field.
-/

set_option autoImplicit false

namespace Curator

open Outcome

namespace TransformTable

variable {table : TransformTable} {record result : Record} {declarations : Mapping Value}
  {column : String}

/-- A value under the transforms that are declared for its column, one after the other. -/
def applied (table : TransformTable) (declarations : Mapping Value) (column : String) (v : Value) :
    Except Failure Value :=
  declarations.foldlM (fun v (field, declaration) =>
    if field = column then table.applyTo column declaration v else pure v) v

theorem applied_cons {field : String} {declaration : Value} {rest : Mapping Value} (v : Value) :
    table.applied ((field, declaration) :: rest) column v =
      (if field = column then table.applyTo column declaration v else pure v) >>=
        table.applied rest column := by
  unfold applied
  rw [List.foldlM_cons]

theorem applied_none (undeclared : column ∉ declarations.keys) (v : Value) :
    table.applied declarations column v = .ok v := by
  induction declarations with
  | nil => rfl
  | cons entry rest ih =>
    obtain ⟨different, others⟩ := List.ne_and_not_mem_of_not_mem_cons undeclared
    rw [applied_cons, if_neg (Ne.symm different)]
    exact ih others

/-- A record in which one declaration has been dealt with. -/
def Applies (table : TransformTable) (field : String) (declaration : Value) (record changed : Record) :
    Prop :=
  ∀ column, (record.value? column = none → changed.value? column = none) ∧
    ∀ v, record.value? column = some v → ∃ w, changed.value? column = some w ∧
      (if field = column then table.applyTo column declaration v else pure v) = .ok w

/-- A field that the record does not have is passed over. -/
theorem applies_absent {field : String} (absent : record.value? field = none) (declaration : Value) :
    table.Applies field declaration record record := by
  refine fun column => ⟨id, fun v held => ⟨v, held, if_neg ?_⟩⟩
  rintro rfl
  cases absent.symm.trans held

theorem applies_put {field : String} {declaration old new : Value}
    (given : record.value? field = some old)
    (changes : table.applyTo field declaration old = .ok new) :
    table.Applies field declaration record (record.put field new) := by
  intro column
  rw [Mapping.value?_put]
  by_cases same : column = field
  · subst same
    rw [if_pos rfl, given]
    refine ⟨nofun, ?_⟩
    rintro v ⟨⟩
    exact ⟨new, rfl, (if_pos rfl).trans changes⟩
  · rw [if_neg same]
    exact ⟨id, fun v held => ⟨v, held, if_neg (Ne.symm same)⟩⟩

/-- Transforms without a failure deal with the first declaration and then with the others. -/
theorem transformAll_cons {field : String} {declaration : Value} {rest : Mapping Value}
    (whole : table.transformAll record ((field, declaration) :: rest) = (result, none)) :
    ∃ changed, table.Applies field declaration record changed ∧
      table.transformAll changed rest = (result, none) := by
  unfold transformAll at whole
  split at whole
  · rename_i absent
    exact ⟨record, applies_absent absent declaration, whole⟩
  · rename_i old given
    split at whole
    · rename_i new changes
      exact ⟨_, applies_put given changes, whole⟩
    · cases whole

/-- The transforms of a record change the value of every field on its own. -/
theorem transformAll_value (whole : table.transformAll record declarations = (result, none)) :
    (record.value? column = none → result.value? column = none) ∧
      ∀ v, record.value? column = some v →
        ∃ w, table.applied declarations column v = .ok w ∧ result.value? column = some w := by
  induction declarations generalizing record with
  | nil =>
    cases whole
    exact ⟨id, fun v held => ⟨v, rfl, held⟩⟩
  | cons entry rest ih =>
    obtain ⟨changed, applies, whole⟩ := transformAll_cons whole
    obtain ⟨absent, present⟩ := ih whole
    refine ⟨fun missing => absent ((applies column).1 missing), fun v held => ?_⟩
    obtain ⟨between, kept, made⟩ := (applies column).2 v held
    obtain ⟨w, rest_made, found⟩ := present between kept
    refine ⟨w, ?_, found⟩
    rw [applied_cons, made]
    exact rest_made

theorem transformed_value (ok : table.transformed record declarations = .ok result)
    (column : String) :
    (record.value? column = none → result.value? column = none) ∧
      ∀ v, record.value? column = some v →
        ∃ w, table.applied declarations column v = .ok w ∧ result.value? column = some w := by
  unfold transformed at ok
  split at ok
  · rename_i whole
    cases ok
    exact transformAll_value whole
  · cases ok

end TransformTable

/-! ## One transform after the other -/

theorem TransformTable.transformed_cons (table : TransformTable) (field : String)
    (declaration : Value) (rest : Mapping Value) (record : Record) :
    table.transformed record ((field, declaration) :: rest) =
      match record.value? field with
      | some v => table.applyTo field declaration v >>= fun w =>
          table.transformed (record.put field w) rest
      | none => table.transformed record rest := by
  unfold transformed
  rw [transformAll]
  cases held : record.value? field with
  | none => rfl
  | some v =>
    cases made : table.applyTo field declaration v with
    | error failure => simp only [made]; rfl
    | ok w => simp only [made, ok_bind]

/-! ## One value for each field -/

namespace TransformTable

variable {table : TransformTable} {fields values : Record} {declarations : Mapping Value}

theorem keys_transformAll (table : TransformTable) (declarations : Mapping Value) (fields : Record) :
    (table.transformAll fields declarations).1.keys = fields.keys := by
  induction declarations generalizing fields with
  | nil => rfl
  | cons entry rest ih =>
    rcases entry with ⟨field, declaration⟩
    unfold transformAll
    split
    · exact ih fields
    · rename_i v held
      have there := List.mem_map_of_mem (f := (·.1)) (Mapping.mem_of_value? held)
      split
      · exact (ih _).trans (Mapping.keys_put there _)
      · rfl

/-- Transforms change values and nothing else. -/
theorem keys_transformed (ok : table.transformed fields declarations = .ok values) :
    values.keys = fields.keys := by
  have whole := keys_transformAll table declarations fields
  unfold transformed at ok
  split at ok
  · rename_i record made
    rw [made] at whole
    cases ok
    exact whole
  · cases ok

theorem nodup_transformed (distinct : fields.keys.Nodup)
    (ok : table.transformed fields declarations = .ok values) : values.keys.Nodup :=
  keys_transformed ok ▸ distinct

end TransformTable

namespace Record

theorem nodup_assign {record : Record} (distinct : record.keys.Nodup) (keys : List String)
    (value : Value) : (record.assign keys value).keys.Nodup := by
  cases keys with
  | nil => exact distinct
  | cons key rest =>
    cases rest with
    | nil => exact Mapping.nodup_put distinct key value
    | cons next others =>
      unfold assign
      exact Mapping.nodup_put distinct key _

theorem nodup_unflatten (row : Record) : (unflatten row).keys.Nodup := by
  have all : ∀ columns record : Record, record.keys.Nodup → (Mapping.keys (columns.foldl
      (fun (acc : Record) (column, value) => acc.assign (segments column) value) record)).Nodup := by
    intro columns
    induction columns with
    | nil => exact fun _ distinct => distinct
    | cons entry rest ih => exact fun record distinct => ih _ (nodup_assign distinct _ _)
  exact all _ [] List.nodup_nil

theorem nodup_modifyAt {change : Record → Except Failure Record}
    (keeps : ∀ target changed : Record, target.keys.Nodup → change target = .ok changed →
      changed.keys.Nodup) {path : List String} {record result : Record}
    (distinct : record.keys.Nodup) (ok : modifyAt change path record = .ok result) :
    result.keys.Nodup := by
  cases path with
  | nil => exact keeps record result distinct ok
  | cons key rest =>
    unfold modifyAt at ok
    split at ok
    · obtain ⟨entries, _, ok⟩ := bind_ok ok
      cases pure_ok ok
      exact Mapping.nodup_put distinct key _
    · cases ok
      exact distinct

end Record

theorem Plan.nodup_reshape {plan : Plan} {row record : Record} (ok : plan.reshape row = .ok record) :
    record.keys.Nodup := by
  obtain ⟨nested, related, ok⟩ := bind_ok ok
  have distinct : nested.keys.Nodup := by
    refine foldlM_keeps (P := fun record => record.keys.Nodup) ?_ (Record.nodup_unflatten _) related
    intro record entry next _ distinct changed
    simp only at changed
    split at changed
    · cases pure_ok changed
      exact distinct
    · exact Record.nodup_modifyAt (fun _ _ distinct ok => TransformTable.nodup_transformed distinct ok)
        distinct changed
  exact TransformTable.nodup_transformed distinct ok

end Curator
