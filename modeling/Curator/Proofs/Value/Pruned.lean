import Curator.Proofs.Value.Leaves
/-!
# Pruned mappings

What is left of a nested mapping without its nulls.  A mapping inside it goes too if it held something
and nothing of that is left; one that was empty stays.  The leaves of what is left are the leaves that
are not null, in the same order, and a mapping is put together again from its leaves.  So the flat form of
a mapping, nested again, is the mapping, and without its nulls it is the pruned mapping.
-/

set_option autoImplicit false

namespace Curator

/-! ## Pruning -/

mutual

/-- A value without its nulls, if anything of it is left.  Lists and empty mappings stay as they are. -/
def Value.pruned? : Value → Option Value
  | .null => none
  | .dict (first :: rest) =>
    match prunedOf (first :: rest) with
    | [] => none
    | left => some (.dict left)
  | other => some other

/-- A mapping without its nulls and without the entries of which nothing is left. -/
def prunedOf : List (String × Value) → Record
  | [] => []
  | (key, v) :: rest =>
    match v.pruned? with
    | none => prunedOf rest
    | some left => (key, left) :: prunedOf rest

end

namespace Record

variable {record data : Record}

/-- Whether a leaf with the way to it is not null. -/
def isGiven (entry : List String × Value) : Bool := !entry.2.isNull

theorem filter_isGiven_behind (key : String) (placed : List (List String × Value)) :
    (placed.map fun (way, leaf) => (key :: way, leaf)).filter isGiven =
      (placed.filter isGiven).map fun (way, leaf) => (key :: way, leaf) :=
  List.filter_map

theorem assignEach_append (first second : List (List String × Value)) :
    record.assignEach (first ++ second) = (record.assignEach first).assignEach second :=
  List.foldl_append

/-- Values behind a key that is new are all put into the mapping under that key. -/
theorem assignEach_behind (key : String) {placed : List (List String × Value)}
    (some_leaf : placed ≠ []) (deep : ∀ entry ∈ placed, entry.1 ≠ []) :
    record.assignEach (placed.map fun (way, leaf) => (key :: way, leaf)) =
      record.put key (.dict ((record.inner key).assignEach placed)) := by
  induction placed generalizing record with
  | nil => exact absurd rfl some_leaf
  | cons entry rest ih =>
    obtain ⟨way, v⟩ := entry
    obtain ⟨some_key, others⟩ := List.forall_mem_cons.mp deep
    obtain ⟨next, more, rfl⟩ := List.exists_cons_of_ne_nil some_key
    have first := assign_cons record key next more v
    by_cases last : rest = []
    · subst last
      exact first
    · have inside : (record.assign (key :: next :: more) v).inner key =
          (record.inner key).assign (next :: more) v := by
        rw [first, inner, Mapping.value?_put, if_pos rfl]
      calc (record.assign (key :: next :: more) v).assignEach
            (rest.map fun (way, leaf) => (key :: way, leaf))
          = (record.assign (key :: next :: more) v).put key
              (.dict (((record.assign (key :: next :: more) v).inner key).assignEach rest)) :=
            ih last others
        _ = record.put key (.dict (((record.inner key).assign (next :: more) v).assignEach rest)) := by
            rw [inside, first, Mapping.put_put]

theorem leavesOf_ne_nil (dotless : areDotless data = true) (some_entry : data ≠ []) :
    leavesOf data ≠ [] := by
  obtain ⟨first, rest, rfl⟩ := List.exists_cons_of_ne_nil some_entry
  obtain ⟨way, leaf, found, isLeaf⟩ := (Value.dict (first :: rest)).exists_leaf
  have some_key : way ≠ [] := by
    rintro rfl
    cases Option.some.inj found
    cases isLeaf
  exact List.ne_nil_of_mem ((mem_leavesOf dotless).mpr ⟨some_key, found, isLeaf⟩)

theorem inner_of_not_mem {key : String} (absent : key ∉ record.keys) : record.inner key = [] := by
  rw [inner, Mapping.value?_eq_none absent]

/-! ## Leaves put together again -/

/-- A mapping is put together from its leaves, in order and behind what was there before. -/
theorem assignEach_leavesOf (dotless : areDotless data = true)
    (apart : ∀ key ∈ data.keys, key ∉ record.keys) :
    record.assignEach (leavesOf data) = record ++ data := by
  have all : (∀ v : Value, v.isDotless = true → ∀ (record : Record) key, key ∉ record.keys →
        record.assignEach (v.leaves.map fun (way, leaf) => (key :: way, leaf)) =
          record ++ [(key, v)]) ∧
      (∀ _ : List Value, True) ∧ ∀ es : Record, areDotless es = true → ∀ record : Record,
        (∀ key ∈ es.keys, key ∉ record.keys) → record.assignEach (leavesOf es) = record ++ es := by
    have alone : ∀ v : Value, v.isLeaf = true → ∀ (record : Record) key, key ∉ record.keys →
        record.assignEach (v.leaves.map fun (way, leaf) => (key :: way, leaf)) =
          record ++ [(key, v)] := by
      intro v leaf record key absent
      rw [Value.leaves_of_isLeaf leaf]
      exact Mapping.put_of_not_mem absent v
    refine Value.nested_induction ?plain ?list ?dict trivial (fun _ _ _ _ _ => trivial) ?none ?entry
    case plain => exact fun v plain _ => alone v (Value.isLeaf_of_plain plain)
    case list => exact fun xs _ _ => alone (.list xs) rfl
    case dict =>
      intro es inside dotless record key absent
      cases es with
      | nil => exact alone (.dict []) rfl record key absent
      | cons entry rest =>
        have deep : ∀ placed ∈ leavesOf (entry :: rest), placed.1 ≠ [] :=
          fun placed member => ((mem_leavesOf dotless).mp member).some_key
        have listed : (Value.dict (entry :: rest)).leaves = leavesOf (entry :: rest) := rfl
        have whole := inside dotless [] fun _ _ => List.not_mem_nil
        rw [listed, assignEach_behind key (leavesOf_ne_nil dotless (List.cons_ne_nil entry rest)) deep,
          inner_of_not_mem absent, whole]
        exact Mapping.put_of_not_mem absent _
    case none => exact fun _ record _ => (List.append_nil record).symm
    case entry =>
      intro key v rest own others dotless record apart
      obtain ⟨_, fresh, value, later⟩ := areDotless_cons.mp dotless
      obtain ⟨absent, beyond⟩ := List.forall_mem_cons.mp apart
      have still : ∀ other ∈ Mapping.keys rest, other ∉ Mapping.keys (record ++ [(key, v)]) := by
        intro other there member
        rw [Mapping.keys, List.map_append, List.mem_append] at member
        rcases member with before | last
        · exact beyond other there before
        · rw [List.mem_singleton.mp last] at there
          exact fresh there
      rw [leavesOf, assignEach_append, own value record key absent, others later _ still,
        List.append_assoc]
      rfl
  exact all.2.2 data dotless record apart

/-! ## Leaves of what is left -/

/-- The leaves of a pruned mapping are those of the mapping that are not null. -/
theorem leavesOf_prunedOf (data : Record) :
    leavesOf (prunedOf data) = (leavesOf data).filter isGiven := by
  have all : (∀ v : Value, (v.pruned?.elim [] Value.leaves) = v.leaves.filter isGiven) ∧
      (∀ _ : List Value, True) ∧
      ∀ es : Record, leavesOf (prunedOf es) = (leavesOf es).filter isGiven := by
    refine Value.nested_induction ?plain (fun _ _ => rfl) ?dict trivial (fun _ _ _ _ _ => trivial)
      rfl ?entry
    case plain =>
      intro v plain
      cases v with
      | list items => exact absurd rfl (plain.1 items)
      | dict entries => exact absurd rfl (plain.2 entries)
      | _ => rfl
    case dict =>
      intro es inside
      cases es with
      | nil => rfl
      | cons entry rest =>
        have listed : (Value.dict (entry :: rest)).leaves = leavesOf (entry :: rest) := rfl
        rw [listed, ← inside, Value.pruned?]
        cases prunedOf (entry :: rest) with
        | nil => rfl
        | cons first others => rfl
    case entry =>
      intro key v rest own others
      rw [leavesOf, List.filter_append, filter_isGiven_behind, ← own, ← others, prunedOf]
      cases v.pruned? with
      | none => rfl
      | some left => rfl
  exact all.2.2 data

theorem keys_prunedOf_sublist (data : Record) : (prunedOf data).keys.Sublist data.keys := by
  induction data with
  | nil => exact List.Sublist.slnil
  | cons entry rest ih =>
    obtain ⟨key, v⟩ := entry
    rw [prunedOf]
    cases v.pruned? with
    | none => exact ih.cons key
    | some left => exact ih.cons_cons key

theorem areDotless_prunedOf (dotless : areDotless data = true) :
    areDotless (prunedOf data) = true := by
  have all : (∀ v : Value, v.isDotless = true → ∀ left, v.pruned? = some left →
        left.isDotless = true) ∧ (∀ _ : List Value, True) ∧
      ∀ es : Record, areDotless es = true → areDotless (prunedOf es) = true := by
    refine Value.nested_induction ?plain ?list ?dict trivial (fun _ _ _ _ _ => trivial)
      (fun _ => rfl) ?entry
    case plain =>
      intro v plain _ left same
      cases v with
      | dict entries => exact absurd rfl (plain.2 entries)
      | null => cases same
      | _ =>
        cases same
        rfl
    case list =>
      intro xs _ _ left same
      cases same
      rfl
    case dict =>
      intro es inside dotless left same
      cases es with
      | nil =>
        cases same
        rfl
      | cons entry rest =>
        have kept := inside dotless
        rw [Value.pruned?] at same
        cases found : prunedOf (entry :: rest) with
        | nil =>
          rw [found] at same
          cases same
        | cons first others =>
          rw [found] at same kept
          cases same
          exact kept
    case entry =>
      intro key v rest own others dotless
      obtain ⟨clear, fresh, value, later⟩ := areDotless_cons.mp dotless
      rw [prunedOf]
      cases kept : v.pruned? with
      | none => exact others later
      | some left =>
        refine areDotless_cons.mpr ⟨clear, fun member => fresh ?_, own value left kept, others later⟩
        exact (keys_prunedOf_sublist rest).subset member
  exact all.2.2 data dotless

theorem prunedOf_prunedOf (dotless : areDotless data = true) :
    prunedOf (prunedOf data) = prunedOf data := by
  have once := areDotless_prunedOf dotless
  have twice := areDotless_prunedOf once
  have none_before : ∀ es : Record, ∀ key ∈ es.keys, key ∉ Mapping.keys ([] : Record) :=
    fun _ _ _ => List.not_mem_nil
  have leaves : leavesOf (prunedOf (prunedOf data)) = leavesOf (prunedOf data) := by
    rw [leavesOf_prunedOf, leavesOf_prunedOf, List.filter_filter]
    exact List.filter_congr fun entry _ => Bool.and_self (isGiven entry)
  have first := assignEach_leavesOf once (none_before _)
  have second := assignEach_leavesOf twice (none_before _)
  rw [leaves] at second
  exact second.symm.trans first

/-- Whether all keys on the ways to the leaves of a mapping are JSON keys. -/
def HasJsonKeys (record : Record) : Prop :=
  ∀ entry ∈ leavesOf record, ∀ key ∈ entry.1, Text.isJsonKey key = true

instance (record : Record) : Decidable record.HasJsonKeys :=
  inferInstanceAs (Decidable (∀ entry ∈ leavesOf record, ∀ key ∈ entry.1, Text.isJsonKey key = true))

end Record

/-! ## New values of JSON columns -/

namespace NullableJson

open Record

variable {data : Record}

/-- The nested form of the flat form of a mapping is the mapping. -/
theorem expand_named (dotless : areDotless data = true) :
    expand ((leavesOf data).map named) = data := by
  have back : ∀ entry ∈ leavesOf data, (Text.split (named entry).1 ".", (named entry).2) = entry := by
    rintro ⟨way, v⟩ member
    exact congrArg (·, v) (split_named dotless member)
  rw [expand_eq, List.map_map]
  refine Eq.trans (congrArg _ ((List.map_congr_left back).trans (List.map_id _))) ?_
  exact assignEach_leavesOf dotless fun _ _ => List.not_mem_nil

/-- A mapping whose keys have no dots comes back from its flat form, with its keys in the order they had
at every level.  The flat form has one entry for each leaf, in their order, and no two under one key;
no other such mapping has the same. -/
theorem expand_flatten (dotless : areDotless data = true) :
    flatten data = (leavesOf data).map named ∧ (flatten data).keys.Nodup ∧
      expand (flatten data) = data ∧
      ∀ other, areDotless other = true → flatten other = flatten data → other = data := by
  have back : ∀ other, areDotless other = true → expand (flatten other) = other := by
    intro other dotless
    rw [flatten_eq dotless]
    exact expand_named dotless
  have names : (flatten data).keys.Nodup := by
    rw [flatten_eq dotless]
    exact nodup_named dotless
  refine ⟨flatten_eq dotless, names, back data dotless, fun other clear same => ?_⟩
  rw [← back other clear, same, back data dotless]

/-- A mapping with an empty key at two levels, an empty mapping, a null and a list. -/
def sparseFolders : Record :=
  [("", .dict [("b", .null), ("", .dict [])]), ("a", .list [.dict [("x.y", .int 1)]]),
    ("c", .dict [("b", .dict [("", .int 2)]), ("a", .bool true)])]

theorem expand_flatten_sparse : areDotless sparseFolders = true ∧
    expand [(".b", .null), (".", .dict []), ("a", .list [.dict [("x.y", .int 1)]]), ("c.b.", .int 2),
      ("c.a", .bool true)] = sparseFolders := by
  have dotless : areDotless sparseFolders = true := by decide
  obtain ⟨flat, _, same, _⟩ := expand_flatten dotless
  rw [flat] at same
  exact ⟨dotless, same⟩

/-- The flat form without its nulls is that of the pruned mapping. -/
theorem filter_flatten (dotless : areDotless data = true) :
    ((flatten data).filter fun (_, v) => !v.isNull) = (leavesOf (prunedOf data)).map named := by
  rw [flatten_eq dotless, List.filter_map, leavesOf_prunedOf]
  rfl

theorem checkKeys_named (dotless : areDotless data = true) (field : String) :
    checkKeys field ((leavesOf data).map named) =
      if data.HasJsonKeys then .ok () else .error (.field (.jsonKey field)) := by
  have same : (((leavesOf data).map named).all fun (key, _) =>
      (Text.split key ".").all Text.isJsonKey) = true ↔ data.HasJsonKeys := by
    simp only [List.all_map, List.all_eq_true, HasJsonKeys, Function.comp_apply]
    refine forall_congr' fun entry => forall_congr' fun member => ?_
    rw [named, split_named dotless member]
  unfold checkKeys
  simp only [same]

theorem define_eq (dotless : areDotless data = true) (field : String) :
    define field (.dict data) =
      if (prunedOf data).HasJsonKeys then .ok (prunedOf data)
      else .error (.field (.jsonKey field)) := by
  have kept := areDotless_prunedOf dotless
  have opened : define field (.dict data) =
    checkKeys field ((flatten data).filter fun (_, v) => !v.isNull) >>= fun _ =>
      pure (expand ((flatten data).filter fun (_, v) => !v.isNull)) := rfl
  rw [opened, filter_flatten dotless, checkKeys_named kept, expand_named kept]
  split
  · rfl
  · rfl

/-- A JSON column takes a mapping whose keys have no dots exactly if the keys that are left in the
pruned mapping are JSON keys, and has the pruned mapping then, with its keys in the order they had.
The pruned mapping is taken again and stays as it is. -/
theorem define_prunes {field : String} {data : Record} (dotless : areDotless data = true) :
    (∀ result, define field (.dict data) = .ok result ↔
      result = prunedOf data ∧ (prunedOf data).HasJsonKeys) ∧
    ∀ result, define field (.dict data) = .ok result → define field (.dict result) = .ok result := by
  have taken : ∀ result, define field (.dict data) = .ok result ↔
      result = prunedOf data ∧ (prunedOf data).HasJsonKeys := by
    intro result
    rw [define_eq dotless]
    by_cases keys : (prunedOf data).HasJsonKeys
    · rw [if_pos keys]
      constructor
      · intro ok
        cases ok
        exact ⟨rfl, keys⟩
      · rintro ⟨rfl, _⟩
        rfl
    · rw [if_neg keys]
      exact ⟨nofun, fun ⟨_, valid⟩ => absurd valid keys⟩
  refine ⟨taken, fun result ok => ?_⟩
  obtain ⟨rfl, keys⟩ := (taken result).mp ok
  rw [define_eq (areDotless_prunedOf dotless), prunedOf_prunedOf dotless, if_pos keys]

end NullableJson

namespace Sample

/-- A mapping with nulls at two depths, a mapping of nothing else, and empty values. -/
def sparseMeta : Record :=
  [("size", .dict [("w", .null), ("h", .dict [])]), ("colors", .dict [("fore", .null)]),
    ("tags", .list [.null]), ("bad key", .null)]

theorem colors_pruned : areDotless sparseMeta = true ∧
    NullableJson.define "meta" (.dict sparseMeta) =
      .ok [("size", .dict [("h", .dict [])]), ("tags", .list [.null])] ∧
    NullableJson.define "meta" (.dict [("size", .dict [("h", .dict [])]), ("tags", .list [.null])]) =
      .ok [("size", .dict [("h", .dict [])]), ("tags", .list [.null])] := by
  have dotless : areDotless sparseMeta = true := by decide
  obtain ⟨taken, again⟩ := @NullableJson.define_prunes "meta" _ dotless
  have ok := (taken _).mpr ⟨rfl, by decide⟩
  exact ⟨dotless, ok, again _ ok⟩

end Sample

end Curator
