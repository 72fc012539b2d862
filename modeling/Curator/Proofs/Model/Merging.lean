import Curator.Proofs.Database.World
import Curator.Proofs.Model.Checking
import Curator.Proofs.Model.Pages
import Curator.Proofs.Value.Leaves
/-!
# Merged JSON

What a JSON column holds after data is laid over the mapping that is stored in it.  Every leaf of the
data that is not null takes its place, and a stored leaf that no leaf of the data meets stays.  A null
removes the leaf it stands at; but what is stored behind the end of its way is spared.
-/

set_option autoImplicit false

namespace Curator

open Sql Outcome Session

namespace NullableJson

open Record

variable {stored data result : Record} {field : String} {way : List String} {v w : Value}

/-! ## The leaves that are put in -/

/-- The stored leaves, those that the data has a leaf for replaced and nulls left out. -/
def replaced (stored data : Record) : List (List String × Value) :=
  ((leavesOf stored).map fun (way, w) =>
    (way, ((flatten data).value? (Text.join "." way)).getD w)).filter fun entry => !entry.2.isNull

/-- The leaves of the data at whose ways no leaf is stored, nulls left out. -/
def added (stored data : Record) : List (List String × Value) :=
  (leavesOf data).filter fun (way, v) => !(flatten stored).has (Text.join "." way) && !v.isNull

theorem mem_replaced (storedDotless : areDotless stored = true) (dotless : areDotless data = true) :
    (way, v) ∈ replaced stored data ↔ v.isNull = false ∧
      ∃ w, stored.LeafAt way w ∧ (data.LeafAt way v ∨ (∀ x, ¬ data.LeafAt way x) ∧ v = w) := by
  rw [replaced, List.mem_filter, List.mem_map]
  constructor
  · rintro ⟨⟨⟨other, w⟩, member, same⟩, given⟩
    obtain ⟨rfl, value⟩ := Prod.mk.inj same
    have there := (mem_leavesOf storedDotless).mp member
    have clear := dotless_of_mem_leavesOf storedDotless member
    refine ⟨by simpa using given, w, there, ?_⟩
    cases found : (flatten data).value? (Text.join "." other) with
    | none =>
      rw [found] at value
      refine Or.inr ⟨fun x at_way => ?_, value.symm⟩
      rw [(value?_flatten dotless clear there.some_key).mpr at_way] at found
      cases found
    | some x =>
      rw [found] at value
      cases value
      exact Or.inl ((value?_flatten dotless clear there.some_key).mp found)
  · rintro ⟨given, w, there, which⟩
    have member := (mem_leavesOf storedDotless).mpr there
    have look := fun x => value?_flatten (v := x) dotless
      (dotless_of_mem_leavesOf storedDotless member) there.some_key
    refine ⟨⟨(way, w), member, ?_⟩, by simpa using given⟩
    rcases which with at_way | ⟨absent, rfl⟩
    · simp only [(look v).mpr at_way, Option.getD_some]
    · cases found : (flatten data).value? (Text.join "." way) with
      | none => simp only [found, Option.getD_none]
      | some x => exact absurd ((look x).mp found) (absent x)

theorem mem_added (storedDotless : areDotless stored = true) (dotless : areDotless data = true) :
    (way, v) ∈ added stored data ↔
      v.isNull = false ∧ data.LeafAt way v ∧ ∀ w, ¬ stored.LeafAt way w := by
  rw [added, List.mem_filter, mem_leavesOf dotless]
  have look : data.LeafAt way v → ((flatten stored).has (Text.join "." way) = false ↔
      ∀ w, ¬ stored.LeafAt way w) := by
    intro at_way
    have clear := dotless_of_mem_leavesOf dotless ((mem_leavesOf dotless).mpr at_way)
    have each := fun w => value?_flatten (v := w) storedDotless clear at_way.some_key
    rw [Mapping.has, ← Mapping.value?, Option.isSome_eq_false_iff, Option.isNone_iff_eq_none]
    constructor
    · intro absent w there
      rw [(each w).mpr there] at absent
      cases absent
    · intro absent
      cases found : (flatten stored).value? (Text.join "." way) with
      | none => rfl
      | some w => exact absurd ((each w).mp found) (absent w)
  simp only [Bool.and_eq_true, Bool.not_eq_true']
  constructor
  · rintro ⟨at_way, absent, given⟩
    exact ⟨given, at_way, (look at_way).mp absent⟩
  · rintro ⟨given, at_way, absent⟩
    exact ⟨at_way, (look at_way).mpr absent, given⟩

theorem scattered_replaced (storedDotless : areDotless stored = true)
    (dotless : areDotless data = true) : Scattered (replaced stored data) := by
  refine ⟨fun entry member => ?_, ?_⟩
  · obtain ⟨way, v⟩ := entry
    obtain ⟨_, w, there, which⟩ := (mem_replaced storedDotless dotless).mp member
    refine ⟨there.some_key, ?_⟩
    rcases which with at_way | ⟨_, rfl⟩
    · exact at_way.leaf
    · exact there.leaf
  · have ways : ((replaced stored data).map (·.1)).Sublist ((leavesOf stored).map (·.1)) := by
      have all := (List.filter_sublist (p := fun entry : List String × Value => !entry.2.isNull)
        (l := (leavesOf stored).map fun (way, w) =>
          (way, ((flatten data).value? (Text.join "." way)).getD w))).map (·.1)
      rw [List.map_map] at all
      exact all
    exact (scattered_leavesOf storedDotless).apart.sublist ways

theorem scattered_added (dotless : areDotless data = true) : Scattered (added stored data) := by
  have all := scattered_leavesOf dotless
  exact ⟨fun entry member => all.leaves entry (List.mem_of_mem_filter member),
    all.apart.sublist (List.filter_sublist.map _)⟩

/-- In a merge the replaced leaves come first and the added ones after them. -/
theorem expand_overlay (storedDotless : areDotless stored = true)
    (dotless : areDotless data = true) :
    expand (((flatten stored).overlay (flatten data)).filter fun (_, v) => !v.isNull) =
      (assignEach [] (replaced stored data)).assignEach (added stored data) := by
  have distinct := nodup_named storedDotless
  have fresh := nodup_named dotless
  rw [← flatten_eq storedDotless] at distinct
  rw [← flatten_eq dotless] at fresh
  have first : (((flatten stored).map fun (k, v) => (k, ((flatten data).value? k).getD v)).filter
      fun (_, v) => !v.isNull) = (replaced stored data).map named := by
    rw [replaced, flatten_eq storedDotless, List.map_map, List.filter_map, List.filter_map,
      List.map_map]
    rfl
  have second : (((flatten data).filter fun (k, _) => !(flatten stored).has k).filter
      fun (_, v) => !v.isNull) = (added stored data).map named := by
    rw [added, flatten_eq dotless, List.filter_filter, List.filter_map]
    congr 1
    apply List.filter_congr
    rintro ⟨way, v⟩ _
    exact Bool.and_comm _ _
  -- without dots in the keys, a way is split off its name again
  have back : ∀ placed : List (List String × Value),
      (∀ entry ∈ placed, Text.split (Text.join "." entry.1) "." = entry.1) →
      ((placed.map named).map fun (key, v) => (Text.split key ".", v)) = placed := by
    intro placed each
    rw [List.map_map]
    refine (List.map_congr_left ?_).trans (List.map_id placed)
    rintro ⟨way, v⟩ member
    exact congrArg (·, v) (each _ member)
  rw [Mapping.overlay_eq distinct fresh, List.filter_append, first, second, expand_eq,
    List.map_append, back, back, assignEach, List.foldl_append]
  · rfl
  · rintro ⟨way, v⟩ member
    exact split_named dotless (List.mem_of_mem_filter member)
  · rintro ⟨way, v⟩ member
    obtain ⟨_, w, there, _⟩ := (mem_replaced storedDotless dotless).mp member
    exact split_named storedDotless ((mem_leavesOf storedDotless).mpr there)

/-- A leaf of a merge is one of the data or a stored one that none of the data meets; a null of the
data meets no leaf but the one at its own way. -/
theorem leafAt_merge (storedDotless : areDotless stored = true) (dotless : areDotless data = true)
    (ok : merge field stored (.dict data) = .ok result) :
    result.LeafAt way v ↔ v.isNull = false ∧ (data.LeafAt way v ∨
      stored.LeafAt way v ∧ (∀ w, ¬ data.LeafAt way w) ∧
        ∀ other w, data.LeafAt other w → w.isNull = false → Diverge other way) := by
  obtain ⟨_, _, ok⟩ := bind_ok (f := fun _ => pure _) ok
  cases pure_ok ok
  -- the replaced leaves are put into an empty mapping, and the added ones behind them
  have none_before : ¬ LeafAt [] way v := fun ⟨some_key, found, _⟩ => by
    rw [Value.follow_leaf rfl some_key] at found
    cases found
  rw [expand_overlay storedDotless dotless, leafAt_assignEach (scattered_added dotless),
    leafAt_assignEach (scattered_replaced storedDotless dotless),
    mem_added storedDotless dotless, mem_replaced storedDotless dotless]
  constructor
  · rintro (⟨given, at_way, _⟩ | ⟨⟨given, w, there, at_way | ⟨absent, rfl⟩⟩ | ⟨before, _⟩, apart⟩)
    · exact ⟨given, Or.inl at_way⟩
    · exact ⟨given, Or.inl at_way⟩
    · refine ⟨given, Or.inr ⟨there, absent, fun other x at_other given => ?_⟩⟩
      -- a leaf of the data stands where one is stored, or it was added
      by_cases known : ∃ y, stored.LeafAt other y
      · obtain ⟨y, there'⟩ := known
        exact there'.diverge there fun same => absent x (same ▸ at_other)
      · have member := (mem_added storedDotless dotless).mpr
          ⟨given, at_other, fun y there' => known ⟨y, there'⟩⟩
        exact apart (other, x) member
    · exact absurd before none_before
  · rintro ⟨given, at_way | ⟨there, absent, apart⟩⟩
    · by_cases known : ∃ w, stored.LeafAt way w
      · obtain ⟨w, there⟩ := known
        refine Or.inr ⟨Or.inl ⟨given, w, there, Or.inl at_way⟩, ?_⟩
        rintro ⟨other, x⟩ member
        obtain ⟨_, at_other, unknown⟩ := (mem_added storedDotless dotless).mp member
        exact at_other.diverge at_way fun same => unknown w (same ▸ there)
      · exact Or.inl ⟨given, at_way, fun w there => known ⟨w, there⟩⟩
    · refine Or.inr ⟨Or.inl ⟨given, v, there, Or.inr ⟨absent, rfl⟩⟩, ?_⟩
      rintro ⟨other, x⟩ member
      obtain ⟨given', at_other, _⟩ := (mem_added storedDotless dotless).mp member
      exact apart other x at_other given'

/-- What data makes of the stored mapping it is merged into. -/
structure Merged (stored data result : Record) : Prop where
  put : ∀ way v, data.LeafAt way v → v.isNull = false → result.LeafAt way v
  kept : ∀ way v, stored.LeafAt way v → v.isNull = false →
    (∀ other w, data.LeafAt other w → Diverge other way) → result.LeafAt way v
  only : ∀ way v, result.LeafAt way v → v.isNull = false ∧ (data.LeafAt way v ∨ stored.LeafAt way v)
  removed : ∀ way, data.LeafAt way .null → ((Value.dict result).follow way = none ↔
    ∀ further w, further ≠ [] → stored.LeafAt (way ++ further) w → w.isNull = true)

section

variable {further : List String} (storedDotless : areDotless stored = true)
  (dotless : areDotless data = true) (ok : merge field stored (.dict data) = .ok result)

include storedDotless dotless ok

/-- What is stored behind the way to a null stays where it is. -/
theorem leafAt_spared (at_null : data.LeafAt way .null) (some_key : further ≠ [])
    (there : stored.LeafAt (way ++ further) w) (given : w.isNull = false) :
    result.LeafAt (way ++ further) w := by
  have ahead := List.prefix_append way further
  refine (leafAt_merge storedDotless dotless ok).mpr
    ⟨given, Or.inr ⟨there, fun x behind => ?_, fun other x at_other given => ?_⟩⟩
  · have same := at_null.eq_of_prefix behind ahead
    exact some_key (by simpa using same)
  · refine Diverge.append (at_other.diverge at_null fun same => ?_) further
    subst same
    cases at_other.unique at_null
    cases given

/-- Nothing but what is stored there is behind the way to a null. -/
theorem stored_of_null (at_null : data.LeafAt way .null)
    (at_result : result.LeafAt (way ++ further) w) :
    further ≠ [] ∧ stored.LeafAt (way ++ further) w ∧ w.isNull = false := by
  obtain ⟨given, behind | ⟨there, absent, _⟩⟩ := (leafAt_merge storedDotless dotless ok).mp at_result
  · have same := at_null.eq_of_prefix behind (List.prefix_append way further)
    rw [← same] at behind
    cases at_null.unique behind
    cases given
  · refine ⟨?_, there, given⟩
    rintro rfl
    rw [List.append_nil] at absent
    exact absent _ at_null

theorem merged_of_merge : Merged stored data result := by
  have leaves : ∀ way v, result.LeafAt way v ↔ _ :=
    fun way v => leafAt_merge storedDotless dotless ok
  refine ⟨fun way v at_way given => (leaves way v).mpr ⟨given, Or.inl at_way⟩,
    fun way v there given apart => ?_, fun way v at_result => ?_, fun way at_null => ⟨?_, ?_⟩⟩
  · exact (leaves way v).mpr ⟨given, Or.inr ⟨there, fun w at_way => Diverge.ne (apart way w at_way) rfl,
      fun other w at_other _ => apart other w at_other⟩⟩
  · obtain ⟨given, at_way | ⟨there, _⟩⟩ := (leaves way v).mp at_result
    · exact ⟨given, Or.inl at_way⟩
    · exact ⟨given, Or.inr there⟩
  · intro absent further w some_key there
    by_contra given
    have at_result := leafAt_spared storedDotless dotless ok at_null some_key there (by simpa using given)
    have found := at_result.found
    rw [Value.follow_append, absent] at found
    cases found
  · intro nothing
    by_contra present
    obtain ⟨inside, found⟩ := Option.ne_none_iff_exists'.mp present
    obtain ⟨further, leaf, reached, isLeaf⟩ := inside.exists_leaf
    have at_result : result.LeafAt (way ++ further) leaf := by
      refine ⟨by simp [at_null.some_key], ?_, isLeaf⟩
      rw [Value.follow_append, found]
      exact reached
    obtain ⟨some_key, there, given⟩ := stored_of_null storedDotless dotless ok at_null at_result
    rw [nothing further leaf some_key there] at given
    cases given

end

end NullableJson

/-! ## The statement that is asked first -/

namespace Model

variable {m : Model} {d : Dialect} {mode : TrashedMode} {column : String} {key data : Value}

/-- The selection of what is stored in a column of the row with a key. -/
def storedSelection (m : Model) (d : Dialect) (column : String) (key : Value) :
    Except Failure Select := do
  let s ← (Select.new d).from_ m.schema.table
  let s ← s.column (m.column column) (some column)
  let s ← s.where_ .and (m.column m.schema.primaryKey) .eq key
  pure { s with limit := some 1 }

theorem updatedJson_eq (m : Model) (column : String) (key data : Value) :
    m.updatedJson column key data = dialect >>= fun d =>
      of (m.storedSelection d column key >>= Select.toSql) >>= fun f =>
        execute f >>= fun a => of (mergedJson a.rows column data) := by
  simp only [updatedJson, rows, rowsOf, narrowed, fetch, select, storedSelection, mergedJson, of_bind,
    bind_assoc, pure_bind]
  rfl

/-- A merge asks for what is stored and nothing else. -/
theorem yields_updatedJson : Yields d mode (m.updatedJson column key data) fun outcome xs =>
    ∀ changed, outcome = .ok changed → ∃ x a, xs = [x] ∧
      (m.storedSelection d column key >>= Select.toSql) = .ok x.statement ∧ x.answer d = .ok a ∧
      mergedJson a.rows column data = .ok changed := by
  rw [updatedJson_eq]
  refine yields_dialect_bind (yields_of_bind (fun _ _ => nofun) fun f made => ?_)
  refine yields_execute_bind (fun _ _ _ _ => nofun) fun x same a answered s script changed ok => ?_
  exact ⟨x, a, rfl, same ▸ made, answered, ok⟩

end Model

/-- Merging data into the JSON of a row.  If the keys in both have no dots, every leaf of the data that
is not null is in the result; a stored leaf that is not null stays where it is if its way and those to
the leaves of the data lead apart; nothing else is in the result.  At a null of the data there is
nothing exactly if nothing but nulls is stored behind it. -/
theorem Model.merges_leaves {m : Model} {column : String} {key : Value} {data result : Record}
    {s : SessionState} {script : List Reply} (connected : s.database.pending = some script)
    (ok : (m.updatedJson column key (.dict data) s).outcome = .ok result)
    (dotless : areDotless data = true) :
    ∃ x a stored, (m.updatedJson column key (.dict data) s).sent script = [x] ∧
      (m.storedSelection s.database.dialect column key >>= Select.toSql) = .ok x.statement ∧
      x.answer s.database.dialect = .ok a ∧
      (storedValue a.rows column >>= storedMapping) = .ok stored ∧
      (areDotless stored = true → NullableJson.Merged stored data result) := by
  obtain ⟨x, a, sent, asked, answered, merged⟩ :=
    yields_updatedJson s script rfl connected rfl result ok
  obtain ⟨value, found, merged⟩ := bind_ok merged
  obtain ⟨stored, read, merged⟩ := bind_ok merged
  have current : (storedValue a.rows column >>= storedMapping) = .ok stored := by
    rw [found]
    exact read
  exact ⟨x, a, stored, sent, asked, answered, current, fun storedDotless =>
    NullableJson.merged_of_merge storedDotless dotless merged⟩

namespace Sample

/-- What a page has in its JSON column, and the reply that tells it. -/
def storedMeta : Record :=
  [("size", .dict [("w", .int 1), ("h", .int 2)]), ("colors", .dict [("fore", .str "red")])]

def metaReplies : List Reply := [rowsReply [[("meta", .dict storedMeta)]]]

/-- The JSON of a page after data is merged into it. -/
def mergedMeta (data : Record) : Ran Record :=
  (pageModel []).updatedJson "meta" (.int 1) (.dict data) (pageState metaReplies)

theorem only_reply {x : Exchange} {a : Answered} {ran : Ran Record}
    (sent : ran.sent metaReplies = [x]) (answered : x.answer .sqlite = .ok a) :
    a.rows = [[("meta", .dict storedMeta)]] := by
  have reply : x.reply = metaReplies.head? := by
    rw [Ran.sent] at sent
    cases asked : statements ran.entries with
    | nil =>
      rw [asked] at sent
      cases sent
    | cons f rest =>
      rw [asked] at sent
      cases (List.cons.inj sent).1
      rfl
  rw [Exchange.answer, reply] at answered
  cases answered
  rfl

/-- A height is replaced, a fore color is removed and a back color is put in. -/
def newMeta : Record :=
  [("size", .dict [("h", .int 3)]), ("colors", .dict [("fore", .null), ("back", .str "blue")])]

theorem width_stays_with_new_height : ∃ result : Record,
    (mergedMeta newMeta).outcome = .ok result ∧ result.LeafAt ["size", "h"] (.int 3) ∧
      result.LeafAt ["size", "w"] (.int 1) ∧
      (Value.dict result).follow ["colors", "fore"] = none := by
  have fine : (mergedMeta newMeta).outcome.isOk = true := by decide +kernel
  obtain ⟨result, ok⟩ := ok_of_isOk fine
  obtain ⟨x, a, stored, sent, _, answered, found, merged⟩ :=
    Model.merges_leaves (m := pageModel []) (s := pageState metaReplies) rfl ok (by decide)
  rw [only_reply sent answered] at found
  cases found
  obtain ⟨put, kept, _, removed⟩ := merged (by decide)
  refine ⟨result, ok, put _ _ ⟨nofun, rfl, rfl⟩ rfl, kept _ _ ⟨nofun, rfl, rfl⟩ rfl ?_,
    (removed ["colors", "fore"] ⟨nofun, rfl, rfl⟩).mpr ?_⟩
  · intro other w at_other
    have member := (Record.mem_leavesOf (by decide)).mpr at_other
    have listed : other ∈ [["size", "h"], ["colors", "fore"], ["colors", "back"]] :=
      List.mem_map_of_mem (f := Prod.fst) member
    simp only [List.mem_cons, List.not_mem_nil, or_false] at listed
    rcases listed with rfl | rfl | rfl
    all_goals exact ⟨by decide, by decide⟩
  · intro further w some_key there
    have red : (Value.dict storedMeta).follow ["colors", "fore"] = some (.str "red") := rfl
    have found := there.found
    rw [Value.follow_append, red, Option.bind_some, Value.follow_leaf rfl some_key] at found
    cases found

/-- A null for all colors leaves the fore color where it is. -/
theorem colors_left : Record.LeafAt [("colors", .null)] ["colors"] .null ∧
    ∃ result : Record, (mergedMeta [("colors", .null)]).outcome = .ok result ∧
      (Value.dict result).follow ["colors"] = some (.dict [("fore", .str "red")]) := by
  have fine : (mergedMeta [("colors", .null)]).outcome.isOk = true := by decide +kernel
  obtain ⟨result, ok⟩ := ok_of_isOk fine
  obtain ⟨x, a, sent, _, answered, merged⟩ :=
    Model.yields_updatedJson (pageState metaReplies) metaReplies rfl rfl rfl result ok
  rw [only_reply sent answered] at merged
  cases merged
  exact ⟨⟨nofun, rfl, rfl⟩, _, ok, rfl⟩

end Sample

end Curator
