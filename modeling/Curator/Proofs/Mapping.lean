import Curator.Mapping
/-!
# Looking up in mappings

What is found under a key after mappings are laid over one another.
-/

set_option autoImplicit false

namespace Curator.Mapping

variable {α : Type}

theorem value?_cons (k key : String) (v : α) (rest : Mapping α) :
    value? ((k, v) :: rest) key = if key = k then some v else value? rest key := by
  unfold value?
  by_cases h : key = k
  · simp [h]
  · simp [List.lookup_cons, h, beq_false_of_ne h]

theorem value?_put_other (m : Mapping α) {key other : String} (v : α) (apart : other ≠ key) :
    (m.put key v).value? other = m.value? other := by
  rw [value?_put, if_neg apart]

theorem mem_of_value? {m : Mapping α} {key : String} {v : α} (found : m.value? key = some v) :
    (key, v) ∈ m := by
  induction m with
  | nil => cases found
  | cons entry rest ih =>
    rcases entry with ⟨k, w⟩
    rw [value?_cons] at found
    split at found
    · rename_i same
      cases found
      rw [same]
      exact List.mem_cons_self
    · exact List.mem_cons_of_mem _ (ih found)

theorem value?_eq_none {m : Mapping α} {key : String} (apart : key ∉ m.keys) :
    m.value? key = none := by
  cases found : m.value? key with
  | none => rfl
  | some v => exact absurd (List.mem_map_of_mem (f := (·.1)) (mem_of_value? found)) apart

/-- With one value for each key, what is laid over speaks where it has a value. -/
theorem value?_overlay {m updates : Mapping α} (distinct : updates.keys.Nodup) (key : String) :
    (m.overlay updates).value? key = (updates.value? key).or (m.value? key) := by
  induction updates generalizing m with
  | nil => rfl
  | cons entry rest ih =>
    rcases entry with ⟨k, v⟩
    obtain ⟨apart, others⟩ := List.nodup_cons.mp distinct
    have later : (m.overlay ((k, v) :: rest)) = (m.put k v).overlay rest := rfl
    rw [later, ih others, value?_put, value?_cons]
    by_cases same : key = k
    · subst same
      simp only [if_true, value?_eq_none apart]
      rfl
    · simp only [if_neg same]

/-- What is found after laying over was there before or is among what was laid over. -/
theorem value?_of_overlay {m updates : Mapping α} {key : String} {v : α}
    (found : (m.overlay updates).value? key = some v) :
    m.value? key = some v ∨ (updates.value? key).isSome = true := by
  induction updates generalizing m with
  | nil => exact Or.inl found
  | cons entry rest ih =>
    rcases entry with ⟨k, w⟩
    have later : (m.put k w).value? key = some v ∨ (value? rest key).isSome = true := ih found
    rw [value?_put] at later
    rw [value?_cons]
    by_cases same : key = k
    · rw [if_pos same]
      exact Or.inr rfl
    · rw [if_neg same] at later ⊢
      exact later

theorem mem_keys_put {m : Mapping α} {key other : String} {value : α}
    (member : other ∈ (m.put key value).keys) : other = key ∨ other ∈ m.keys := by
  induction m with
  | nil => exact Or.inl (List.mem_singleton.mp member)
  | cons entry rest ih =>
    rcases entry with ⟨k, v⟩
    unfold put at member
    split at member
    · exact Or.inr member
    · rcases List.mem_cons.mp member with rfl | member
      · exact Or.inr List.mem_cons_self
      · exact (ih member).imp_right (List.mem_cons_of_mem _)

theorem mem_keys_overlay {m updates : Mapping α} {key : String}
    (member : key ∈ (m.overlay updates).keys) : key ∈ updates.keys ∨ key ∈ m.keys := by
  induction updates generalizing m with
  | nil => exact Or.inr member
  | cons entry rest ih =>
    rcases ih member with later | member
    · exact Or.inl (List.mem_cons_of_mem _ later)
    · rcases mem_keys_put member with rfl | earlier
      · exact Or.inl List.mem_cons_self
      · exact Or.inr earlier

theorem mem_keys_ofPairs {pairs : List (String × α)} {key : String}
    (member : key ∈ (ofPairs pairs).keys) : key ∈ pairs.map (·.1) :=
  (mem_keys_overlay member).resolve_right List.not_mem_nil

theorem nodup_put {m : Mapping α} (distinct : m.keys.Nodup) (key : String) (value : α) :
    (m.put key value).keys.Nodup := by
  induction m with
  | nil => simp [put, keys]
  | cons entry rest ih =>
    rcases entry with ⟨k, v⟩
    obtain ⟨apart, others⟩ := List.nodup_cons.mp distinct
    unfold put
    split
    · exact distinct
    · rename_i different
      refine List.nodup_cons.mpr ⟨fun member => ?_, ih others⟩
      rcases mem_keys_put member with same | member
      · exact different same
      · exact apart member

theorem has_of_mem_keys {m : Mapping α} {key : String} (member : key ∈ m.keys) : m.has key = true := by
  induction m with
  | nil => cases member
  | cons entry rest ih =>
    rcases entry with ⟨k, v⟩
    have found := value?_cons k key v rest
    unfold has
    unfold value? at found
    rw [found]
    split
    · rfl
    · rename_i different
      rcases List.mem_cons.mp member with same | member
      · exact absurd same different
      · exact ih member

theorem has_iff_mem_keys {m : Mapping α} {key : String} : m.has key = true ↔ key ∈ m.keys := by
  refine ⟨fun there => ?_, has_of_mem_keys⟩
  obtain ⟨v, found⟩ := Option.isSome_iff_exists.mp there
  exact List.mem_map_of_mem (f := (·.1)) (mem_of_value? found)

/-- Which keys a mapping has is seen from the list of them. -/
theorem has_of_keys {m other : Mapping α} (same : m.keys = other.keys) (key : String) :
    m.has key = other.has key := by
  rw [Bool.eq_iff_iff, has_iff_mem_keys, has_iff_mem_keys, same]

theorem keys_put {m : Mapping α} {key : String} (there : key ∈ m.keys) (value : α) :
    (m.put key value).keys = m.keys := by
  induction m with
  | nil => cases there
  | cons entry rest ih =>
    rcases entry with ⟨k, v⟩
    unfold put
    split
    · rfl
    · rename_i different
      have others : key ∈ keys rest := (List.mem_cons.mp there).resolve_left (Ne.symm different)
      exact congrArg (k :: ·) (ih others)

theorem keys_supply_of_keys {m other : Mapping α} (same : m.keys = other.keys) (key : String)
    (value : α) : (m.supply key value).keys = (other.supply key value).keys := by
  unfold supply
  rw [has_of_keys same]
  split
  · exact same
  · have added : ∀ m : Mapping α, Mapping.keys (m ++ [(key, value)]) = m.keys ++ [key] := by
      simp [Mapping.keys]
    rw [added, added, same]

theorem nodup_supply {m : Mapping α} (distinct : m.keys.Nodup) (key : String) (value : α) :
    (m.supply key value).keys.Nodup := by
  unfold supply
  split
  · exact distinct
  · rename_i absent
    have apart : key ∉ m.keys := fun member => absent (has_of_mem_keys member)
    have keys : Mapping.keys (m ++ [(key, value)]) = m.keys ++ [key] := by simp [Mapping.keys]
    rw [keys]
    exact List.nodup_append.mpr ⟨distinct, by simp, fun a member b last same => by
      rw [List.mem_singleton.mp last] at same
      exact apart (same ▸ member)⟩

/-! ## Laying over -/

theorem mem_keys {m : Mapping α} {key : String} {v : α} (member : (key, v) ∈ m) : key ∈ m.keys :=
  List.mem_map_of_mem (f := (·.1)) member

theorem put_value? {m : Mapping α} {key : String} {v : α} (found : m.value? key = some v) :
    m.put key v = m := by
  induction m with
  | nil => cases found
  | cons entry rest ih =>
    obtain ⟨k, u⟩ := entry
    rw [value?_cons] at found
    by_cases same : key = k
    · rw [if_pos same] at found
      cases found
      simp [put, same]
    · rw [if_neg same] at found
      simp [put, Ne.symm same, ih found]

theorem put_put (m : Mapping α) (key : String) (value last : α) :
    (m.put key value).put key last = m.put key last := by
  induction m with
  | nil => simp [put]
  | cons entry rest ih =>
    obtain ⟨k, v⟩ := entry
    by_cases same : k = key
    · simp [put, same]
    · simp [put, same, ih]

/-- A value put under a key that is there takes the place of the one it had. -/
theorem put_of_mem {m : Mapping α} (distinct : m.keys.Nodup) {key : String} (there : key ∈ m.keys)
    (value : α) : m.put key value = m.map fun (k, v) => (k, if k = key then value else v) := by
  induction m with
  | nil => cases there
  | cons entry rest ih =>
    obtain ⟨k, v⟩ := entry
    obtain ⟨apart, others⟩ := List.nodup_cons.mp distinct
    by_cases same : k = key
    · subst same
      have untouched : (rest.map fun (j, w) => (j, if j = k then value else w)) = rest := by
        refine (List.map_congr_left ?_).trans (List.map_id rest)
        rintro ⟨j, w⟩ member
        have different : j ≠ k := fun same => apart (same ▸ mem_keys member)
        simp [different]
      simp [put, untouched]
    · have later : key ∈ keys rest := (List.mem_cons.mp there).resolve_left (Ne.symm same)
      simp [put, same, ih others later]

/-- A value put under a new key goes to the end. -/
theorem put_of_not_mem {m : Mapping α} {key : String} (absent : key ∉ m.keys) (value : α) :
    m.put key value = m ++ [(key, value)] := by
  induction m with
  | nil => rfl
  | cons entry rest ih =>
    obtain ⟨k, v⟩ := entry
    have different : k ≠ key := fun same => absent (same ▸ List.mem_cons_self)
    have later : key ∉ keys rest := fun member => absent (List.mem_cons_of_mem _ member)
    simp [put, different, ih later]

/-- What is laid over takes the places of the values it replaces, and the rest of it comes last. -/
theorem overlay_eq {m updates : Mapping α} (distinct : m.keys.Nodup)
    (fresh : updates.keys.Nodup) : m.overlay updates =
      (m.map fun (k, v) => (k, (updates.value? k).getD v)) ++
        updates.filter fun (k, _) => !m.has k := by
  induction updates generalizing m with
  | nil => simp [overlay, value?]
  | cons entry rest ih =>
    obtain ⟨key, value⟩ := entry
    obtain ⟨apart, others⟩ := List.nodup_cons.mp fresh
    have step : m.overlay ((key, value) :: rest) = (m.put key value).overlay rest := rfl
    have own : value? rest key = none := value?_eq_none apart
    rw [step, ih (nodup_put distinct key value) others]
    by_cases there : key ∈ m.keys
    · have same : (m.put key value).keys = m.keys := keys_put there value
      have has : m.has key = true := has_of_mem_keys there
      rw [put_of_mem distinct there, List.map_map]
      rw [put_of_mem distinct there] at same
      simp only [has_of_keys same, List.filter_cons, has, Bool.not_true, Bool.false_eq_true, if_false]
      congr 1
      apply List.map_congr_left
      rintro ⟨k, v⟩ _
      by_cases this : k = key
      · simp [this, own, value?_cons]
      · simp [this, value?_cons]
    · have has : m.has key = false := by
        rw [← Bool.not_eq_true, has_iff_mem_keys]
        exact there
      have others_apart : ∀ entry ∈ rest, (Mapping.has (m ++ [(key, value)]) entry.1) = m.has entry.1 := by
        rintro ⟨k, v⟩ member
        have different : k ≠ key := fun same => apart (same ▸ mem_keys member)
        rw [Bool.eq_iff_iff, has_iff_mem_keys, has_iff_mem_keys]
        simp [keys, different]
      rw [put_of_not_mem there, List.map_append, List.append_assoc]
      have filters : (rest.filter fun (k, _) => !Mapping.has (m ++ [(key, value)]) k) =
          rest.filter fun (k, _) => !m.has k :=
        List.filter_congr fun entry member => congrArg (! ·) (others_apart entry member)
      rw [filters]
      simp only [List.filter_cons, has, Bool.not_false, if_true, List.map_cons, List.map_nil, own,
        Option.getD_none, List.singleton_append]
      congr 1
      apply List.map_congr_left
      rintro ⟨k, v⟩ member
      have different : k ≠ key := fun same => there (same ▸ mem_keys member)
      simp [value?_cons, different]

/-- Pairs with distinct keys are a mapping as they are. -/
theorem ofPairs_eq {pairs : List (String × α)} (distinct : (pairs.map (·.1)).Nodup) :
    ofPairs pairs = pairs := by
  have empty : ∀ key, has ([] : Mapping α) key = false := fun _ => rfl
  have laid := overlay_eq (m := ([] : Mapping α)) List.nodup_nil distinct
  rw [ofPairs, laid]
  simp [empty]

theorem value?_eq_some_iff {m : Mapping α} (distinct : m.keys.Nodup) {key : String} {v : α} :
    m.value? key = some v ↔ (key, v) ∈ m := by
  refine ⟨mem_of_value?, fun member => ?_⟩
  induction m with
  | nil => cases member
  | cons entry rest ih =>
    obtain ⟨k, w⟩ := entry
    obtain ⟨apart, others⟩ := List.nodup_cons.mp distinct
    rw [value?_cons]
    rcases List.mem_cons.mp member with same | later
    · cases same
      rw [if_pos rfl]
    · have different : key ≠ k := fun same => apart (same ▸ mem_keys later)
      rw [if_neg different]
      exact ih others later

end Curator.Mapping
