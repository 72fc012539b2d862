import Curator.Model.Json
import Curator.Proofs.Plan.Nesting
/-!
# Leaves of nested mappings

The values in a nested mapping that no way leads further into, and the way of keys to each.  A leaf
that is put at the end of a way takes the place of all leaves on the way and behind its end and leaves
the others as they are.  The flat form of a mapping is the list of its leaves, each under the keys of
its way with dots between them.
-/

set_option autoImplicit false

namespace Curator

/-! ## Values without more behind them -/

namespace Value

/-- Whether no way leads further into a value.  All are leaves but the mappings of something. -/
def isLeaf : Value → Bool
  | .dict (_ :: _) => false
  | _ => true

theorem follow_leaf {v : Value} (leaf : v.isLeaf = true) {way : List String} (some_key : way ≠ []) :
    v.follow way = none := by
  obtain ⟨key, rest, rfl⟩ := List.exists_cons_of_ne_nil some_key
  cases v with
  | dict entries =>
    cases entries with
    | nil => rfl
    | cons entry others => cases leaf
  | _ => rfl

theorem follow_append (v : Value) (way further : List String) :
    v.follow (way ++ further) = (v.follow way).bind (follow further) := by
  induction way generalizing v with
  | nil => rfl
  | cons key rest ih =>
    cases v with
    | dict entries =>
      rw [List.cons_append, follow_dict, follow_dict]
      cases Mapping.value? entries key with
      | none => rfl
      | some inside => exact ih inside
    | _ => rfl

theorem isLeaf_of_plain {v : Value} (plain : v.Plain) : v.isLeaf = true := by
  cases v with
  | dict entries => exact absurd rfl (plain.2 entries)
  | _ => rfl

theorem exists_leaf (v : Value) : ∃ way leaf, v.follow way = some leaf ∧ leaf.isLeaf = true := by
  have all : (∀ v : Value, ∃ way leaf, v.follow way = some leaf ∧ leaf.isLeaf = true) ∧
      (∀ _ : List Value, True) ∧ ∀ es : Record, es ≠ [] →
        ∃ way leaf, (Value.dict es).follow way = some leaf ∧ leaf.isLeaf = true := by
    refine nested_induction ?plain ?list ?dict trivial (fun _ _ _ _ _ => trivial) ?none ?entry
    case plain => exact fun v plain => ⟨[], v, rfl, isLeaf_of_plain plain⟩
    case list => exact fun xs _ => ⟨[], .list xs, rfl, rfl⟩
    case dict =>
      intro es inside
      cases es with
      | nil => exact ⟨[], .dict [], rfl, rfl⟩
      | cons entry rest => exact inside (List.cons_ne_nil entry rest)
    case none => exact fun none => absurd rfl none
    case entry =>
      intro key v rest inside _ _
      obtain ⟨way, leaf, found, isLeaf⟩ := inside
      refine ⟨key :: way, leaf, ?_, isLeaf⟩
      rw [follow_dict, Mapping.value?_cons, if_pos rfl]
      exact found
  exact all.1 v

end Value

/-! ## Leaves in a mapping -/

namespace Record

/-- What a way of keys leads to is there and is a leaf. -/
structure LeafAt (record : Record) (way : List String) (v : Value) : Prop where
  some_key : way ≠ []
  found : (Value.dict record).follow way = some v
  leaf : v.isLeaf = true

variable {record : Record} {way other : List String} {v w : Value}

/-- No leaf is behind another. -/
theorem LeafAt.eq_of_prefix (first : record.LeafAt way v) (second : record.LeafAt other w)
    (behind : way <+: other) : way = other := by
  obtain ⟨further, rfl⟩ := behind
  by_contra apart
  have some_key : further ≠ [] := by simpa using apart
  have found := second.found
  rw [Value.follow_append, first.found, Option.bind_some,
    Value.follow_leaf first.leaf some_key] at found
  cases found

theorem LeafAt.unique (first : record.LeafAt way v) (second : record.LeafAt way w) : v = w :=
  Option.some.inj (first.found.symm.trans second.found)

theorem LeafAt.diverge (first : record.LeafAt way v) (second : record.LeafAt other w)
    (apart : way ≠ other) : Diverge way other :=
  ⟨fun behind => apart (first.eq_of_prefix second behind),
    fun before => apart (second.eq_of_prefix first before).symm⟩

theorem Diverge.symm {way other : List String} (apart : Diverge way other) : Diverge other way :=
  ⟨apart.2, apart.1⟩

theorem Diverge.append {way other : List String} (apart : Diverge other way) (further : List String) :
    Diverge other (way ++ further) := by
  refine ⟨fun before => ?_, fun behind => ?_⟩
  · rcases List.prefix_or_prefix_of_prefix before (List.prefix_append way further) with on | off
    · exact apart.1 on
    · exact apart.2 off
  · exact apart.2 ((List.prefix_append way further).trans behind)

theorem Diverge.ne {way other : List String} (apart : Diverge way other) : way ≠ other := by
  rintro rfl
  exact apart.1 (List.prefix_refl way)

/-- The leaves after one is put at the end of a way: the new one, and those that were neither on the
way nor behind its end. -/
theorem leafAt_assign {keys : List String} (some_key : keys ≠ []) (leaf : v.isLeaf = true) :
    (record.assign keys v).LeafAt way w ↔
      (way = keys ∧ w = v) ∨ (Diverge keys way ∧ record.LeafAt way w) := by
  have placed : ∀ further, (Value.dict (record.assign keys v)).follow (keys ++ further) =
      v.follow further := fun further => follow_assign_append record some_key further v
  constructor
  · intro at_way
    by_cases behind : keys <+: way
    · left
      obtain ⟨further, rfl⟩ := behind
      have found := at_way.found
      rw [placed] at found
      by_cases ends : further = []
      · subst ends
        exact ⟨List.append_nil keys, (Option.some.inj found).symm⟩
      · rw [Value.follow_leaf leaf ends] at found
        cases found
    · right
      -- on the way to the new leaf there are only mappings of something
      have before : ¬ way <+: keys := by
        rintro ⟨further, rfl⟩
        have found := placed []
        rw [List.append_nil, Value.follow_append, at_way.found, Option.bind_some] at found
        by_cases ends : further = []
        · subst ends
          exact behind (by simp)
        · rw [Value.follow_leaf at_way.leaf ends] at found
          cases found
      have same := follow_assign_apart record v behind before
      exact ⟨⟨behind, before⟩, at_way.some_key, same.symm.trans at_way.found, at_way.leaf⟩
  · rintro (⟨rfl, rfl⟩ | ⟨apart, at_way⟩)
    · have found := placed []
      rw [List.append_nil] at found
      exact ⟨some_key, found, leaf⟩
    · have same := follow_assign_apart record v apart.1 apart.2
      exact ⟨at_way.some_key, same.trans at_way.found, at_way.leaf⟩

/-- Values put at the ends of ways, one after the other. -/
def assignEach (record : Record) (placed : List (List String × Value)) : Record :=
  placed.foldl (fun acc (way, v) => acc.assign way v) record

/-- Leaves at the ends of ways that lead apart. -/
structure Scattered (placed : List (List String × Value)) : Prop where
  leaves : ∀ entry ∈ placed, entry.1 ≠ [] ∧ entry.2.isLeaf = true
  apart : (placed.map (·.1)).Pairwise Diverge

/-- The leaves after scattered ones are put in: those that were put in, and those that were on none of
their ways and behind none of them. -/
theorem leafAt_assignEach {placed : List (List String × Value)} (scattered : Scattered placed) :
    (record.assignEach placed).LeafAt way w ↔ (way, w) ∈ placed ∨
      (record.LeafAt way w ∧ ∀ entry ∈ placed, Diverge entry.1 way) := by
  induction placed generalizing record with
  | nil => simp [assignEach]
  | cons entry rest ih =>
    obtain ⟨keys, v⟩ := entry
    obtain ⟨⟨some_key, leaf⟩, others⟩ := List.forall_mem_cons.mp scattered.leaves
    obtain ⟨first, later⟩ := List.pairwise_cons.mp scattered.apart
    have step : record.assignEach ((keys, v) :: rest) = (record.assign keys v).assignEach rest := rfl
    rw [step, ih ⟨others, later⟩, leafAt_assign some_key leaf, List.mem_cons, Prod.mk.injEq,
      List.forall_mem_cons]
    constructor
    · rintro (member | ⟨⟨rfl, rfl⟩ | ⟨here, there⟩, beyond⟩)
      · exact Or.inl (Or.inr member)
      · exact Or.inl (Or.inl ⟨rfl, rfl⟩)
      · exact Or.inr ⟨there, here, beyond⟩
    · rintro ((⟨rfl, rfl⟩ | member) | ⟨there, here, beyond⟩)
      · refine Or.inr ⟨Or.inl ⟨rfl, rfl⟩, fun entry member => ?_⟩
        exact Diverge.symm (first entry.1 (List.mem_map_of_mem member))
      · exact Or.inl member
      · exact Or.inr ⟨Or.inr ⟨here, there⟩, beyond⟩

end Record

/-! ## Keys without dots -/

mutual

/-- Whether the mappings in a value have distinct keys without dots.  Lists are leaves, whatever they
hold. -/
def Value.isDotless : Value → Bool
  | .dict entries => areDotless entries
  | _ => true

def areDotless : List (String × Value) → Bool
  | [] => true
  | (key, v) :: rest =>
    !key.toList.contains '.' && !Mapping.has rest key && v.isDotless && areDotless rest

end

theorem areDotless_cons {key : String} {v : Value} {rest : Record} :
    areDotless ((key, v) :: rest) = true ↔
      '.' ∉ key.toList ∧ key ∉ rest.keys ∧ v.isDotless = true ∧ areDotless rest = true := by
  have absent : Mapping.has rest key = false ↔ key ∉ rest.keys := by
    rw [← Mapping.has_iff_mem_keys, Bool.not_eq_true]
  simp only [areDotless, Bool.and_eq_true, Bool.not_eq_true', absent, and_assoc]
  simp

/-! ## The list of leaves -/

mutual

/-- The leaves in a value in order, each with the way to it. -/
def Value.leaves : Value → List (List String × Value)
  | .dict (first :: rest) => leavesOf (first :: rest)
  | leaf => [([], leaf)]

def leavesOf : List (String × Value) → List (List String × Value)
  | [] => []
  | (key, v) :: rest => (v.leaves.map fun (way, leaf) => (key :: way, leaf)) ++ leavesOf rest

end

theorem Value.leaves_of_isLeaf {v : Value} (leaf : v.isLeaf = true) : v.leaves = [([], v)] := by
  cases v with
  | dict entries =>
    cases entries with
    | nil => rfl
    | cons entry rest => cases leaf
  | _ => rfl

namespace Record

variable {record : Record} {way : List String} {v w : Value}

theorem leafAt_cons {key : String} {rest : Record} (apart : key ∉ rest.keys) :
    LeafAt ((key, v) :: rest) way w ↔
      (∃ further, way = key :: further ∧ v.follow further = some w ∧ w.isLeaf = true) ∨
      LeafAt rest way w := by
  constructor
  · rintro ⟨some_key, found, leaf⟩
    obtain ⟨first, further, rfl⟩ := List.exists_cons_of_ne_nil some_key
    rw [Value.follow_dict, Mapping.value?_cons] at found
    by_cases same : first = key
    · subst same
      rw [if_pos rfl] at found
      exact Or.inl ⟨further, rfl, found, leaf⟩
    · rw [if_neg same] at found
      exact Or.inr ⟨some_key, found, leaf⟩
  · rintro (⟨further, rfl, found, leaf⟩ | ⟨some_key, found, leaf⟩)
    · refine ⟨List.cons_ne_nil key further, ?_, leaf⟩
      rw [Value.follow_dict, Mapping.value?_cons, if_pos rfl]
      exact found
    · refine ⟨some_key, ?_, leaf⟩
      obtain ⟨first, further, rfl⟩ := List.exists_cons_of_ne_nil some_key
      have different : first ≠ key := by
        rintro rfl
        rw [Value.follow_dict, Mapping.value?_eq_none apart] at found
        cases found
      rw [Value.follow_dict, Mapping.value?_cons, if_neg different]
      exact found

theorem mem_leaves_of_isLeaf (leaf : v.isLeaf = true) :
    (way, w) ∈ v.leaves ↔ v.follow way = some w ∧ w.isLeaf = true := by
  rw [Value.leaves_of_isLeaf leaf, List.mem_singleton, Prod.mk.injEq]
  constructor
  · rintro ⟨rfl, rfl⟩
    exact ⟨rfl, leaf⟩
  · rintro ⟨found, _⟩
    by_cases ends : way = []
    · subst ends
      exact ⟨rfl, (Option.some.inj found).symm⟩
    · rw [Value.follow_leaf leaf ends] at found
      cases found

theorem mem_leavesOf (dotless : areDotless record = true) :
    (way, w) ∈ leavesOf record ↔ record.LeafAt way w := by
  have all : (∀ v : Value, v.isDotless = true → ∀ way w,
        (way, w) ∈ v.leaves ↔ v.follow way = some w ∧ w.isLeaf = true) ∧
      (∀ _ : List Value, True) ∧ ∀ es : Record, areDotless es = true → ∀ way w,
        (way, w) ∈ leavesOf es ↔ es.LeafAt way w := by
    refine Value.nested_induction ?plain ?list ?dict trivial (fun _ _ _ _ _ => trivial) ?none ?entry
    case plain => exact fun v plain _ way w => mem_leaves_of_isLeaf (Value.isLeaf_of_plain plain)
    case list => exact fun xs _ _ way w => mem_leaves_of_isLeaf rfl
    case dict =>
      intro es inside dotless way w
      cases es with
      | nil => exact mem_leaves_of_isLeaf rfl
      | cons entry rest =>
        have listed : (Value.dict (entry :: rest)).leaves = leavesOf (entry :: rest) := rfl
        rw [listed, inside dotless]
        constructor
        · rintro ⟨_, found, leaf⟩
          exact ⟨found, leaf⟩
        · rintro ⟨found, leaf⟩
          refine ⟨?_, found, leaf⟩
          rintro rfl
          cases Option.some.inj found
          cases leaf
    case none =>
      intro _ way w
      constructor
      · intro member
        cases member
      · rintro ⟨some_key, found, _⟩
        rw [Value.follow_leaf rfl some_key] at found
        cases found
    case entry =>
      intro key v rest own others dotless way w
      obtain ⟨_, apart, value, later⟩ := areDotless_cons.mp dotless
      rw [leavesOf, List.mem_append, others later, leafAt_cons apart, List.mem_map]
      refine or_congr_left ?_
      constructor
      · rintro ⟨⟨further, leaf⟩, member, same⟩
        cases same
        exact ⟨further, rfl, (own value further w).mp member⟩
      · rintro ⟨further, rfl, inside⟩
        exact ⟨(further, w), (own value further w).mpr inside, rfl⟩
  exact all.2.2 record dotless way w

theorem diverge_cons {first second : List String} (key : String) :
    Diverge (key :: first) (key :: second) ↔ Diverge first second := by
  simp only [Diverge, List.prefix_cons_inj]

/-- The ways to the leaves lead apart. -/
theorem scattered_leavesOf (dotless : areDotless record = true) : Scattered (leavesOf record) := by
  have lead : ∀ es : Record, ∀ way w, (way, w) ∈ leavesOf es →
      ∃ key further, way = key :: further ∧ key ∈ es.keys := by
    intro es way w member
    induction es with
    | nil => cases member
    | cons entry rest ih =>
      obtain ⟨key, v⟩ := entry
      rw [leavesOf, List.mem_append, List.mem_map] at member
      rcases member with ⟨⟨further, leaf⟩, _, same⟩ | later
      · cases same
        exact ⟨key, further, rfl, List.mem_cons_self⟩
      · obtain ⟨other, further, rfl, there⟩ := ih later
        exact ⟨other, further, rfl, List.mem_cons_of_mem _ there⟩
  have all : (∀ v : Value, v.isDotless = true → (v.leaves.map (·.1)).Pairwise Diverge) ∧
      (∀ _ : List Value, True) ∧
      ∀ es : Record, areDotless es = true → ((leavesOf es).map (·.1)).Pairwise Diverge := by
    have alone : ∀ v : Value, v.isLeaf = true → (v.leaves.map (·.1)).Pairwise Diverge := by
      intro v leaf
      rw [Value.leaves_of_isLeaf leaf]
      exact List.pairwise_singleton _ _
    refine Value.nested_induction ?plain ?list ?dict trivial (fun _ _ _ _ _ => trivial) ?none ?entry
    case plain => exact fun v plain _ => alone v (Value.isLeaf_of_plain plain)
    case list => exact fun xs _ _ => alone (.list xs) rfl
    case dict =>
      intro es inside dotless
      cases es with
      | nil => exact alone (.dict []) rfl
      | cons entry rest => exact inside dotless
    case none => exact fun _ => List.Pairwise.nil
    case entry =>
      intro key v rest own others dotless
      obtain ⟨_, apart, value, later⟩ := areDotless_cons.mp dotless
      rw [leavesOf, List.map_append, List.map_map]
      refine List.pairwise_append.mpr ⟨?_, others later, ?_⟩
      · have inside := own value
        rw [List.pairwise_map] at inside ⊢
        exact inside.imp (diverge_cons key).mpr
      · intro way first other second
        obtain ⟨⟨further, leaf⟩, _, rfl⟩ := List.mem_map.mp first
        obtain ⟨⟨_, w⟩, member, rfl⟩ := List.mem_map.mp second
        obtain ⟨name, beyond, rfl, there⟩ := lead rest _ w member
        have different : key ≠ name := fun same => apart (same ▸ there)
        exact ⟨fun before => different (List.cons_prefix_cons.mp before).1,
          fun behind => different (List.cons_prefix_cons.mp behind).1.symm⟩
  refine ⟨fun entry member => ?_, all.2.2 record dotless⟩
  have there := (mem_leavesOf dotless).mp member
  exact ⟨there.some_key, there.leaf⟩

theorem dotless_of_mem_leavesOf (dotless : areDotless record = true)
    (member : (way, w) ∈ leavesOf record) : ∀ key ∈ way, '.' ∉ key.toList := by
  have all : (∀ v : Value, v.isDotless = true → ∀ entry ∈ v.leaves,
        ∀ key ∈ entry.1, '.' ∉ key.toList) ∧ (∀ _ : List Value, True) ∧
      ∀ es : Record, areDotless es = true → ∀ entry ∈ leavesOf es,
        ∀ key ∈ entry.1, '.' ∉ key.toList := by
    have alone : ∀ v : Value, v.isLeaf = true → ∀ entry ∈ v.leaves,
        ∀ key ∈ entry.1, '.' ∉ key.toList := by
      intro v leaf
      rw [Value.leaves_of_isLeaf leaf]
      simp
    refine Value.nested_induction ?plain ?list ?dict trivial (fun _ _ _ _ _ => trivial) ?none ?entry
    case plain => exact fun v plain _ => alone v (Value.isLeaf_of_plain plain)
    case list => exact fun xs _ _ => alone (.list xs) rfl
    case dict =>
      intro es inside dotless
      cases es with
      | nil => exact alone (.dict []) rfl
      | cons entry rest => exact inside dotless
    case none => exact fun _ => nofun
    case entry =>
      intro key v rest own others dotless entry member
      obtain ⟨clear, _, value, later⟩ := areDotless_cons.mp dotless
      rcases List.mem_append.mp member with inside | beyond
      · obtain ⟨⟨further, leaf⟩, there, rfl⟩ := List.mem_map.mp inside
        exact List.forall_mem_cons.mpr ⟨clear, own value _ there⟩
      · exact others later entry beyond
  exact all.2.2 record dotless _ member

end Record

/-! ## The flat form -/

namespace NullableJson

open Record

variable {data : Record} {way other : List String} {v w : Value}

/-- A leaf under the keys of its way, with dots between them. -/
def named (entry : List String × Value) : String × Value :=
  (Text.join "." entry.1, entry.2)

theorem join_cons (key : String) {way : List String} (some_key : way ≠ []) :
    Text.join "." (key :: way) = key ++ "." ++ Text.join "." way := by
  obtain ⟨next, more, rfl⟩ := List.exists_cons_of_ne_nil some_key
  rw [Text.join_cons_cons]

theorem flatValue_leaf (leaf : v.isLeaf = true) (key : String) :
    flatValue key v = v.leaves.map fun (way, leaf) => (Text.join "." (key :: way), leaf) := by
  rw [Value.leaves_of_isLeaf leaf]
  cases v with
  | dict entries =>
    cases entries with
    | nil => simp [flatValue, Text.join]
    | cons entry rest => cases leaf
  | _ => simp [flatValue, Text.join]

/-- The flat entries of a mapping are its leaves under their names. -/
theorem flatEntries_eq (dotless : areDotless data = true) (lead : String) :
    flatEntries lead data =
      (leavesOf data).map fun (way, leaf) => (lead ++ Text.join "." way, leaf) := by
  have all : (∀ v : Value, v.isDotless = true → ∀ key,
        flatValue key v = v.leaves.map fun (way, leaf) => (Text.join "." (key :: way), leaf)) ∧
      (∀ _ : List Value, True) ∧
      ∀ es : Record, areDotless es = true → ∀ lead, flatEntries lead es =
        (leavesOf es).map fun (way, leaf) => (lead ++ Text.join "." way, leaf) := by
    refine Value.nested_induction ?plain ?list ?dict trivial (fun _ _ _ _ _ => trivial) ?none ?entry
    case plain => exact fun v plain _ => flatValue_leaf (Value.isLeaf_of_plain plain)
    case list => exact fun xs _ _ => flatValue_leaf rfl
    case dict =>
      intro es inside dotless key
      cases es with
      | nil => exact flatValue_leaf rfl key
      | cons entry rest =>
        have flat : flatValue key (.dict (entry :: rest)) =
          flatEntries (key ++ ".") (entry :: rest) := rfl
        have listed : (Value.dict (entry :: rest)).leaves = leavesOf (entry :: rest) := rfl
        rw [flat, listed, inside dotless]
        apply List.map_congr_left
        rintro ⟨way, leaf⟩ member
        simp only [join_cons key ((mem_leavesOf dotless).mp member).some_key]
    case none => exact fun _ _ => rfl
    case entry =>
      intro key v rest own others dotless lead
      obtain ⟨_, _, value, later⟩ := areDotless_cons.mp dotless
      have flat : flatEntries lead ((key, v) :: rest) =
        flatValue (lead ++ key) v ++ flatEntries lead rest := rfl
      rw [flat, own value, others later, leavesOf, List.map_append, List.map_map]
      congr 1
      apply List.map_congr_left
      rintro ⟨way, leaf⟩ _
      rw [Function.comp_apply]
      by_cases ends : way = []
      · simp [ends, Text.join]
      · simp only [join_cons _ ends, String.append_assoc]
  exact all.2.2 data dotless lead

/-- The keys of a way are read off the name of its leaf. -/
theorem split_named (dotless : areDotless data = true) (member : (way, v) ∈ leavesOf data) :
    Text.split (Text.join "." way) "." = way :=
  Text.split_join '.' ((mem_leavesOf dotless).mp member).some_key
    (dotless_of_mem_leavesOf dotless member)

theorem nodup_named (dotless : areDotless data = true) :
    (Mapping.keys ((leavesOf data).map named)).Nodup := by
  have apart := (scattered_leavesOf dotless).apart
  rw [Mapping.keys, List.map_map, List.Nodup, List.pairwise_map]
  rw [List.pairwise_map] at apart
  apply apart.imp_of_mem
  rintro ⟨way, v⟩ ⟨other, w⟩ first second diverge same
  have ways : way = other := by
    rw [← split_named dotless first, ← split_named dotless second]
    exact congrArg (Text.split · ".") same
  exact Diverge.ne diverge ways

/-- The flat form of a mapping has its leaves under their names. -/
theorem flatten_eq (dotless : areDotless data = true) :
    flatten data = (leavesOf data).map named := by
  have entries : flatEntries "" data = (leavesOf data).map named := by
    rw [flatEntries_eq dotless]
    simp only [String.empty_append]
    rfl
  rw [flatten, entries]
  exact Mapping.ofPairs_eq (nodup_named dotless)

theorem value?_flatten (dotless : areDotless data = true) (clear : ∀ key ∈ way, '.' ∉ key.toList)
    (some_key : way ≠ []) :
    (flatten data).value? (Text.join "." way) = some v ↔ data.LeafAt way v := by
  rw [flatten_eq dotless, Mapping.value?_eq_some_iff (nodup_named dotless), List.mem_map,
    ← mem_leavesOf dotless]
  constructor
  · rintro ⟨⟨other, w⟩, member, same⟩
    obtain ⟨names, rfl⟩ := Prod.mk.inj same
    have ways : other = way := by
      rw [← split_named dotless member, ← Text.split_join '.' some_key clear]
      exact congrArg (Text.split · ".") names
    rw [← ways]
    exact member
  · intro member
    exact ⟨(way, v), member, rfl⟩

/-- The nested form of a flat mapping puts each value at the end of its keys. -/
theorem expand_eq (flat : Record) : expand flat =
    assignEach [] (flat.map fun (key, v) => (Text.split key ".", v)) := by
  rw [expand, assignEach, List.foldl_map]

end NullableJson

end Curator
