import Curator.Proofs.Json.ReadBack
import Curator.Transform.Basic
/-!
# Documents that are stored as text

A list or a mapping of JSON that is encoded and decoded is the same value.  Of a mapping the outer keys
come back in ascending order; lists and the mappings inside keep the order that they had.
-/

set_option autoImplicit false

namespace Curator

/-! ## Equal values -/

namespace Value

theorem areJsonEntries_iff {entries : Record} :
    areJsonEntries entries = true ↔ ∀ entry ∈ entries, entry.2.isJson = true := by
  induction entries with
  | nil => simp [areJsonEntries]
  | cons entry rest ih => simp [areJsonEntries, ih]

theorem sameEntries_iff {entries others : Record} : sameEntries entries others = true ↔
    ∀ entry ∈ entries, ∃ v, others.lookup entry.1 = some v ∧ entry.2.same v = true := by
  induction entries with
  | nil => simp [sameEntries]
  | cons entry rest ih =>
    rw [sameEntries, Bool.and_eq_true, ih, List.forall_mem_cons]
    cases others.lookup entry.1 with
    | none => simp
    | some v => simp

/-- Mappings with the same entries are equal, whatever the order of their keys. -/
theorem same_dict_of_perm {entries others : Record} (perm : entries.Perm others)
    (distinct : (others.map (·.1)).Nodup) (each : ∀ entry ∈ others, entry.2.same entry.2 = true) :
    (Value.dict entries).same (.dict others) = true := by
  rw [same, Bool.and_eq_true, beq_iff_eq, sameEntries_iff]
  refine ⟨perm.length_eq, ?_⟩
  intro entry member
  have inside := perm.mem_iff.mp member
  have found : Mapping.value? others entry.1 = some entry.2 :=
    (Mapping.value?_eq_some_iff distinct).mpr inside
  exact ⟨entry.2, found, each entry inside⟩

/-- A value of JSON equals itself. -/
theorem same_self {v : Value} (json : v.isJson = true) : v.same v = true := by
  have all : (∀ v : Value, v.isJson = true → v.same v = true) ∧
      (∀ items : List Value, areJson items = true → sameItems items items = true) ∧
      ∀ entries : Record, areJsonEntries entries = true →
        ∀ entry ∈ entries, entry.2.same entry.2 = true := by
    apply Value.nested_induction
    case plain =>
      intro v bare json
      cases v with
      | list items => exact absurd rfl (bare.1 items)
      | dict entries => exact absurd rfl (bare.2 entries)
      | null => rfl
      | bool b => simp [same, sameLeaf, quantity?, Quantity.compare?]
      | int n => simp [same, sameLeaf, quantity?, Quantity.compare?]
      | str s => simp [same, sameLeaf]
      | _ => cases json
    case list =>
      intro items ih json
      exact ih json
    case dict =>
      intro entries ih json
      rw [isJson, Bool.and_eq_true, decide_eq_true_eq] at json
      exact same_dict_of_perm (.refl entries) json.1 (ih json.2)
    case items_nil =>
      intro _
      rfl
    case items_cons =>
      intro v rest first _ others json
      rw [areJson, Bool.and_eq_true] at json
      rw [sameItems, first json.1, others json.2]
      rfl
    case entries_nil =>
      intro _ entry member
      cases member
    case entries_cons =>
      intro key v rest first others json entry member
      rw [areJsonEntries, Bool.and_eq_true] at json
      rcases List.mem_cons.mp member with rfl | later
      · exact first json.1
      · exact others json.2 entry later
  exact all.1 v json

end Value

namespace Transform

/-! ## Sorted keys -/

theorem sortedByKey_perm (entries : Record) : (sortedByKey entries).Perm entries :=
  List.mergeSort_perm entries _

theorem sortedByKey_ascending {entries : Record} (distinct : (entries.map (·.1)).Nodup) :
    ((sortedByKey entries).map (·.1)).Pairwise (· < ·) := by
  have sorted : (sortedByKey entries).Pairwise fun a b => (!decide (b.1 < a.1)) = true := by
    apply List.pairwise_mergeSort
    · intro a b c first second
      simp only [Bool.not_eq_true', decide_eq_false_iff_not, String.not_lt] at first second ⊢
      exact String.le_trans first second
    · intro a b
      simp only [Bool.or_eq_true, Bool.not_eq_true', decide_eq_false_iff_not, String.not_lt]
      exact String.le_total a.1 b.1
  have apart : (sortedByKey entries).Pairwise fun a b => a.1 ≠ b.1 :=
    List.pairwise_map.mp (((sortedByKey_perm entries).map _).nodup_iff.mpr distinct)
  apply List.pairwise_map.mpr
  apply (sorted.and apart).imp
  intro a b ordered
  by_contra above
  have below : ¬ b.1 < a.1 := by simpa using ordered.1
  exact ordered.2 (String.le_antisymm (String.not_lt.mp below) (String.not_lt.mp above))

/-! ## Encoding and decoding -/

/-- A list or a mapping of JSON, encoded and decoded, is equal to itself: a list item by item, and a
mapping with all its entries, in the order of its keys. -/
theorem json_round_trip {v : Value} (json : v.isJson = true)
    (nested : (∃ items, v = .list items) ∨ ∃ entries, v = .dict entries) :
    ∃ text decoded, apply .jsonEncode v = .ok (.str text) ∧
      apply .jsonDecode (.str text) = .ok decoded ∧ decoded.same v = true ∧
      (∀ items, v = .list items → decoded = .list items) ∧
      ∀ entries, v = .dict entries → ∃ sorted, decoded = .dict sorted ∧ sorted.Perm entries ∧
        (sorted.map (·.1)).Pairwise (· < ·) := by
  obtain ⟨text, written, read⟩ := Json.read_write Json.compact_flat json
  have decoded : apply .jsonDecode (.str text) = .ok (withSortedKeys v) := by
    simp only [apply, decodeJson, decodeJsonText, read]
  rcases nested with ⟨items, rfl⟩ | ⟨entries, rfl⟩
  · refine ⟨text, .list items, ?_, decoded, Value.same_self json, ?_, ?_⟩
    · simp only [apply, encodeJson, written]
    · intro _ same
      exact same
    · intro _ same
      cases same
  · rw [Value.isJson, Bool.and_eq_true, decide_eq_true_eq] at json
    have perm := sortedByKey_perm entries
    refine ⟨text, .dict (sortedByKey entries), ?_, decoded, ?_, ?_, ?_⟩
    · simp only [apply, encodeJson, written]
    · apply Value.same_dict_of_perm perm json.1
      intro entry member
      exact Value.same_self (Value.areJsonEntries_iff.mp json.2 entry member)
    · intro _ same
      cases same
    · intro _ same
      cases same
      exact ⟨sortedByKey entries, rfl, perm, sortedByKey_ascending json.1⟩

namespace Sample

/-- Keys out of order, outside and inside, and a text beyond the basic plane. -/
def nestedDocument : Record :=
  [("z", .list [.int (-7), .str "é😀\n", .null]), ("a", .dict [("y", .bool true), ("b", .dict [])])]

theorem nested_document_sorted : (Value.dict nestedDocument).isJson = true ∧
    ∃ text decoded, apply .jsonEncode (.dict nestedDocument) = .ok (.str text) ∧
      apply .jsonDecode (.str text) = .ok decoded ∧ decoded.same (.dict nestedDocument) = true ∧
      (∀ items, Value.dict nestedDocument = .list items → decoded = .list items) ∧
      ∀ entries, Value.dict nestedDocument = .dict entries →
        ∃ sorted, decoded = .dict sorted ∧ sorted.Perm entries ∧
          (sorted.map (·.1)).Pairwise (· < ·) := by
  have json : (Value.dict nestedDocument).isJson = true := by decide +kernel
  exact ⟨json, json_round_trip json (Or.inr ⟨nestedDocument, rfl⟩)⟩

end Sample

end Transform

end Curator
