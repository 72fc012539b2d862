import Curator.Proofs.Model.Pages
import Curator.Proofs.Plan.Compiled
import Curator.Proofs.Plan.JoinOrder
import Curator.Proofs.Plan.Nesting
import Curator.Proofs.Transform.Applied
/-!
# Accessors from the bottom up

Reshaping a row applies the accessors of the joined resources path by path, the longest paths first, and
looks for each record from the root.  That comes to the same as one walk through the nested record:
at every record of a resource first the records of the resources joined below it, and then its own
fields.
-/

set_option autoImplicit false

namespace Curator

open Outcome

/-! ## The walk -/

/-- The fields of a record that have an accessor, changed by it, in the order of the accessors. -/
def Record.accessed (accessors : Mapping Value) (record : Record) : Except Failure Record :=
  accessors.foldlM (fun record (field, accessor) =>
    match record.value? field with
    | some value => do
      let value ← TransformTable.standard.applyTo field accessor value
      pure (record.put field value)
    | none => pure record) record

/-- Which resource is joined at a column of a resource that stands at a path. -/
abbrev JoinedBelow := Schema → List String → String → Option Schema

mutual

/-- What stands at a path as it is shown: a record of a joined resource with everything below it
shown first and its own accessors then, and all else as it is. -/
def Value.shown (joined? : JoinedBelow) : Option Schema → List String → Value → Except Failure Value
  | some schema, path, .dict entries => do
    let entries ← shownBelow joined? schema path entries
    let entries ← Record.accessed schema.accessors entries
    pure (.dict entries)
  | _, _, other => pure other

/-- The entries of a record of a resource with the records of joined resources below it shown. -/
def shownBelow (joined? : JoinedBelow) (schema : Schema) (path : List String) :
    List (String × Value) → Except Failure (List (String × Value))
  | [] => pure []
  | (column, value) :: rest => do
    let value ← Value.shown joined? (joined? schema path column) (path ++ [column]) value
    let rest ← shownBelow joined? schema path rest
    pure ((column, value) :: rest)

end

/-- The record of a root as it is shown. -/
def Record.shown (joined? : JoinedBelow) (root : Schema) (record : Record) : Except Failure Record := do
  let record ← shownBelow joined? root [] record
  Record.accessed root.accessors record

/-- The resource that a column refers to, if a plan joins it at the column's path. -/
def Plan.joinedBelow (plan : Plan) (registry : Registry) : JoinedBelow := fun schema path column =>
  if (path ++ [column]) ∈ plan.joins.map (·.path) then do
    let target ← schema.related.value? column
    (FieldSelection.relatedSchema registry plan.schema target).toOption
  else none

/-! ## Values with one entry for each key -/

/-- A value in which every mapping has distinct keys, as mappings do where rows are made. -/
def Value.Tidy (v : Value) : Prop :=
  ∀ way entries, v.follow way = some (.dict entries) → (Mapping.keys entries).Nodup

section

variable {record : Record} {key : String} {v : Value}

theorem Value.Tidy.nodup (tidy : (Value.dict record).Tidy) : record.keys.Nodup :=
  tidy [] record rfl

theorem Value.Tidy.inside (tidy : (Value.dict record).Tidy) (found : record.value? key = some v) :
    v.Tidy := by
  intro way entries reached
  refine tidy (key :: way) entries ?_
  rw [Value.follow_dict, found]
  exact reached

theorem Value.tidy_put (tidy : (Value.dict record).Tidy) (inner : v.Tidy) :
    (Value.dict (record.put key v)).Tidy := by
  intro way entries reached
  cases way with
  | nil =>
    cases reached
    exact Mapping.nodup_put tidy.nodup key v
  | cons first rest =>
    rw [Value.follow_dict, Mapping.value?_put] at reached
    split at reached
    · exact inner rest entries reached
    · exact tidy (first :: rest) entries reached

theorem Value.tidy_empty : (Value.dict []).Tidy := by
  intro way entries reached
  cases way with
  | nil =>
    cases reached
    exact List.nodup_nil
  | cons first rest => cases reached

theorem Record.tidy_assign {keys : List String} (tidy : (Value.dict record).Tidy) (inner : v.Tidy) :
    (Value.dict (record.assign keys v)).Tidy := by
  induction keys generalizing record with
  | nil => exact tidy
  | cons key rest ih =>
    cases rest with
    | nil => exact Value.tidy_put tidy inner
    | cons next more =>
      rw [Record.assign_cons]
      refine Value.tidy_put tidy (ih ?_)
      unfold Record.inner
      split
      · rename_i entries found
        exact tidy.inside found
      · exact Value.tidy_empty

theorem Record.tidy_unflatten {row : Record} (tidy : ∀ entry ∈ row, entry.2.Tidy) :
    (Value.dict (Record.unflatten row)).Tidy := by
  have all : ∀ (columns record : Record), (∀ entry ∈ columns, entry.2.Tidy) →
      (Value.dict record).Tidy → (Value.dict (columns.foldl
        (fun (acc : Record) (column, value) => acc.assign (segments column) value) record)).Tidy := by
    intro columns
    induction columns with
    | nil => exact fun _ _ tidy => tidy
    | cons entry rest ih =>
      intro record each tidy
      exact ih _ (fun other member => each other (List.mem_cons_of_mem _ member))
        (Record.tidy_assign tidy (each entry List.mem_cons_self))
  refine all _ [] (fun entry member => ?_) Value.tidy_empty
  rcases List.mem_append.mp member with member | member
  · exact tidy entry (List.mem_of_mem_filter member)
  · exact tidy entry (List.mem_of_mem_filter member)

end

/-! ## Visits to records -/

/-- A resource whose accessors are applied at a path. -/
abbrev Stop := List String × Schema

/-- A record after the accessors of a resource were applied at a path, if there is a record. -/
def Record.visit (record : Record) (stop : Stop) : Except Failure Record :=
  Record.modifyAt (Record.accessed stop.2.accessors) stop.1 record

/-- A value after a visit, which only a record can have. -/
def Value.visit (v : Value) (stop : Stop) : Except Failure Value :=
  match v with
  | .dict entries => do
    let entries ← Record.visit entries stop
    pure (.dict entries)
  | other => pure other

/-- What the stops behind a key are for the value under that key. -/
def stopsUnder (key : String) (stops : List Stop) : List Stop :=
  stops.filterMap fun (way, schema) =>
    match way with
    | [] => none
    | first :: rest => if first = key then some (rest, schema) else none

theorem mem_stopsUnder {key : String} {stops : List Stop} {way : List String} {schema : Schema} :
    (way, schema) ∈ stopsUnder key stops ↔ (key :: way, schema) ∈ stops := by
  unfold stopsUnder
  rw [List.mem_filterMap]
  constructor
  · rintro ⟨⟨other, own⟩, member, found⟩
    cases other with
    | nil => cases found
    | cons first rest =>
      by_cases same : first = key
      · simp only [if_pos same, Option.some.injEq, Prod.mk.injEq] at found
        obtain ⟨rfl, rfl⟩ := found
        exact same ▸ member
      · simp only [if_neg same, reduceCtorEq] at found
  · intro member
    exact ⟨_, member, by simp⟩

theorem length_stopsUnder (key : String) (stops : List Stop) :
    (stopsUnder key stops).length ≤ stops.length :=
  List.length_filterMap_le _ _

/-- A list of entries that a function makes of another one, entry by entry. -/
def MadeEach (make : String → Value → Except Failure Value) (record result : Record) : Prop :=
  List.Forall₂ (fun entry made => made.1 = entry.1 ∧ make entry.1 entry.2 = .ok made.2) record result

section

variable {record result : Record} {key : String} {v w : Value}

/-- A visit behind a key changes the value under the key and nothing else. -/
theorem Record.visit_cons (record : Record) (key : String) (way : List String) (schema : Schema) :
    record.visit (key :: way, schema) =
      match record.value? key with
      | some v => do
        let v ← v.visit (way, schema)
        pure (record.put key v)
      | none => pure record := by
  unfold Record.visit
  rw [Record.modifyAt]
  cases found : record.value? key with
  | none => rfl
  | some v =>
    cases v with
    | dict entries =>
      simp only [Value.visit, bind_assoc, pure_bind]
      rfl
    | _ => simp only [Value.visit, pure_bind, Mapping.put_value? found]; rfl

theorem Value.visit_dict (entries : Record) (stop : Stop) : (Value.dict entries).visit stop =
    (Record.visit entries stop >>= fun entries => pure (.dict entries)) := rfl

theorem Value.foldlM_visit_dict (stops : List Stop) (entries : Record) :
    stops.foldlM Value.visit (.dict entries) =
      (stops.foldlM Record.visit entries >>= fun entries => pure (.dict entries)) := by
  induction stops generalizing entries with
  | nil => rfl
  | cons stop rest ih =>
    rw [List.foldlM_cons, List.foldlM_cons, Value.visit_dict]
    simp only [bind_assoc, pure_bind, ih]

theorem Value.foldlM_visit_plain (stops : List Stop) (plain : v.dict? = none) :
    stops.foldlM Value.visit v = pure v := by
  induction stops with
  | nil => rfl
  | cons stop rest ih =>
    have same : v.visit stop = pure v := by
      cases v with
      | dict entries => cases plain
      | _ => rfl
    rw [List.foldlM_cons, same, pure_bind, ih]

end

/-! ### Entry by entry -/

section

variable {make other : String → Value → Except Failure Value} {record result : Record}

theorem MadeEach.congr (same : ∀ entry ∈ record, ∀ w,
    make entry.1 entry.2 = .ok w ↔ other entry.1 entry.2 = .ok w) :
    MadeEach make record result ↔ MadeEach other record result := by
  have within : ∀ make, MadeEach make record result ↔ List.Forall₂ (fun entry made =>
      entry ∈ record ∧ made.1 = entry.1 ∧ make entry.1 entry.2 = .ok made.2) record result :=
    fun make => by simp only [MadeEach, List.forall₂_and_left, imp_self, implies_true, true_and]
  rw [within, within]
  constructor
  · refine List.Forall₂.imp fun entry made ⟨member, key, ok⟩ => ⟨member, key, ?_⟩
    exact (same entry member _).mp ok
  · refine List.Forall₂.imp fun entry made ⟨member, key, ok⟩ => ⟨member, key, ?_⟩
    exact (same entry member _).mpr ok

theorem MadeEach.of_mem (each : MadeEach make record result) {entry : String × Value}
    (member : entry ∈ record) : ∃ w, make entry.1 entry.2 = .ok w := by
  obtain ⟨made, _, _, ok⟩ := mem_of_forall₂ (R := flip fun entry made : String × Value =>
    made.1 = entry.1 ∧ make entry.1 entry.2 = .ok made.2) each.flip member
  exact ⟨_, ok⟩

theorem madeEach_pure : MadeEach (fun _ v => pure v) record result ↔ record = result := by
  rw [← List.forall₂_eq_eq_eq]
  have each : ∀ entry made : String × Value,
      made.1 = entry.1 ∧ (pure entry.2 : Except Failure Value) = .ok made.2 ↔ entry = made := by
    rintro ⟨key, v⟩ ⟨other, w⟩
    constructor
    · rintro ⟨rfl, same⟩
      cases pure_ok same
      rfl
    · rintro ⟨⟩
      exact ⟨rfl, rfl⟩
  unfold MadeEach
  simp only [each]

theorem madeEach_put {key : String} (distinct : record.keys.Nodup) (there : key ∈ record.keys)
    (w : Value) : MadeEach make (record.put key w) result ↔
      MadeEach (fun k u => make k (if k = key then w else u)) record result := by
  rw [Mapping.put_of_mem distinct there, MadeEach, List.forall₂_map_left_iff]
  rfl

theorem stopsUnder_cons (key other : String) (way : List String) (schema : Schema)
    (stops : List Stop) : stopsUnder other ((key :: way, schema) :: stops) =
      if key = other then (way, schema) :: stopsUnder other stops else stopsUnder other stops := by
  unfold stopsUnder
  by_cases same : key = other
  · rw [List.filterMap_cons_some (b := (way, schema)) (by simp only [if_pos same]), if_pos same]
  · rw [List.filterMap_cons_none (by simp only [if_neg same]), if_neg same]

/-- Visits behind the keys of a record are for each key the visits to what is under it: what is done
under one key neither moves nor hides what is under another. -/
theorem Record.foldlM_visit_iff {stops : List Stop} (distinct : record.keys.Nodup)
    (behind : ∀ stop ∈ stops, stop.1 ≠ []) :
    stops.foldlM Record.visit record = .ok result ↔
      MadeEach (fun key v => (stopsUnder key stops).foldlM Value.visit v) record result := by
  induction stops generalizing record with
  | nil =>
    have nothing : ∀ key, stopsUnder key [] = [] := fun _ => rfl
    simp only [nothing, List.foldlM_nil, madeEach_pure]
    exact ⟨pure_ok, fun same => same ▸ rfl⟩
  | cons stop rest ih =>
    obtain ⟨way, schema⟩ := stop
    have others := fun other member => behind other (List.mem_cons_of_mem _ member)
    cases way with
    | nil => exact absurd rfl (behind _ List.mem_cons_self)
    | cons key way =>
      rw [List.foldlM_cons, Record.visit_cons]
      cases found : record.value? key with
      | none =>
        simp only [pure_bind]
        rw [ih distinct others]
        refine MadeEach.congr fun entry member w => ?_
        rw [stopsUnder_cons, if_neg]
        rintro rfl
        rw [(Mapping.value?_eq_some_iff distinct).mpr member] at found
        cases found
      | some v =>
        have there : (key, v) ∈ record := Mapping.mem_of_value? found
        have first : (stopsUnder key ((key :: way, schema) :: rest)).foldlM Value.visit v =
            (v.visit (way, schema) >>= (stopsUnder key rest).foldlM Value.visit) := by
          rw [stopsUnder_cons, if_pos rfl, List.foldlM_cons]
        cases visited : v.visit (way, schema) with
        | error failure =>
          rw [visited] at first
          constructor
          · intro ok
            simp only [visited] at ok
            cases ok
          · intro each
            obtain ⟨w, ok⟩ := each.of_mem there
            rw [first] at ok
            cases ok
        | ok w =>
          rw [visited] at first
          have kept := Mapping.keys_put (Mapping.mem_keys there) w
          simp only [visited, ok_bind, pure_bind]
          rw [ih (kept ▸ distinct) others, madeEach_put distinct (Mapping.mem_keys there)]
          refine MadeEach.congr fun entry member _ => ?_
          by_cases same : entry.1 = key
          · have own : entry.2 = v := by
              have again := (Mapping.value?_eq_some_iff distinct).mpr member
              rw [same, found] at again
              exact (Option.some.inj again).symm
            simp only [same, own, if_true, first, ok_bind]
          · simp only [if_neg same]
            rw [stopsUnder_cons, if_neg (Ne.symm same)]

end

/-! ## The loop and the walk -/

theorem Value.shown_dict (joined? : JoinedBelow) (schema : Schema) (path : List String)
    (entries : Record) : (Value.dict entries).shown joined? (some schema) path =
      (shownBelow joined? schema path entries >>= fun entries =>
        Record.accessed schema.accessors entries >>= fun entries => pure (.dict entries)) := rfl

theorem Value.shown_none (joined? : JoinedBelow) (path : List String) (v : Value) :
    v.shown joined? none path = pure v := by
  cases v <;> rfl

theorem shownBelow_ok_iff {joined? : JoinedBelow} {schema : Schema} {path : List String}
    {record result : Record} : shownBelow joined? schema path record = .ok result ↔
      MadeEach (fun column v => v.shown joined? (joined? schema path column) (path ++ [column]))
        record result := by
  induction record generalizing result with
  | nil =>
    rw [shownBelow, MadeEach, List.forall₂_nil_left_iff]
    exact ⟨fun ok => (pure_ok ok).symm, fun same => same ▸ rfl⟩
  | cons entry rest ih =>
    obtain ⟨column, v⟩ := entry
    rw [shownBelow, MadeEach, List.forall₂_cons_left_iff]
    constructor
    · intro ok
      obtain ⟨w, shown, ok⟩ := bind_ok ok
      obtain ⟨others, below, ok⟩ := bind_ok ok
      cases pure_ok ok
      exact ⟨(column, w), others, ⟨rfl, shown⟩, ih.mp below, rfl⟩
    · rintro ⟨⟨_, w⟩, others, ⟨rfl, shown⟩, below, rfl⟩
      rw [shown, ok_bind, ih.mpr below, ok_bind]
      rfl

/-- The stops that are the joined resources, each at its path, of resources that are reached from a root:
a resource is joined below another one at exactly the stops one column further. -/
structure Family (registry : Registry) (root : Schema) (joined? : JoinedBelow) (stops : List Stop) :
    Prop where
  reached : ∀ path schema, (path, schema) ∈ stops → Reaches registry root path schema
  joined : ∀ path schema column child, Reaches registry root path schema →
    (joined? schema path column = some child ↔ (path ++ [column], child) ∈ stops)
  closed : ∀ path column way schema, (path ++ column :: way, schema) ∈ stops →
    ∃ child, (path ++ [column], child) ∈ stops

/-- The stops of a family that lie strictly behind a path, from there on, the longest ways first. -/
structure StopsBehind (stops : List Stop) (path : List String) (left : List Stop) : Prop where
  mem : ∀ way schema, (way, schema) ∈ left ↔ way ≠ [] ∧ (path ++ way, schema) ∈ stops
  ordered : left.Pairwise fun a b => b.1.length ≤ a.1.length ∧ a.1 ≠ b.1

section

variable {registry : Registry} {root schema child : Schema} {joined? : JoinedBelow}
  {stops left : List Stop} {path : List String} {column : String} {record result : Record}

theorem ordered_stopsUnder (ordered : left.Pairwise fun a b => b.1.length ≤ a.1.length ∧ a.1 ≠ b.1)
    (key : String) : (stopsUnder key left).Pairwise fun a b =>
      b.1.length ≤ a.1.length ∧ a.1 ≠ b.1 := by
  refine List.Pairwise.filterMap _ ?_ ordered
  rintro ⟨way, s⟩ ⟨other, t⟩ ⟨longer, apart⟩ a foundA b foundB
  cases way with
  | nil => cases foundA
  | cons first way =>
    cases other with
    | nil => cases foundB
    | cons second other =>
      simp only [Option.ite_none_right_eq_some, Option.some.injEq] at foundA foundB
      obtain ⟨rfl, rfl⟩ := foundA
      obtain ⟨rfl, rfl⟩ := foundB
      exact ⟨Nat.le_of_succ_le_succ longer, fun same => apart (congrArg (_ :: ·) same)⟩

/-- Behind a column where nothing is joined there are no stops. -/
theorem StopsBehind.none_under (family : Family registry root joined? stops)
    (behind : StopsBehind stops path left) (reaches : Reaches registry root path schema)
    (nothing : joined? schema path column = none) : stopsUnder column left = [] := by
  refine List.eq_nil_iff_forall_not_mem.mpr ?_
  rintro ⟨way, s⟩ member
  obtain ⟨_, known⟩ := (behind.mem _ _).mp (mem_stopsUnder.mp member)
  obtain ⟨child, joined⟩ := family.closed _ _ _ _ known
  rw [(family.joined path schema column child reaches).mpr joined] at nothing
  cases nothing

/-- Where a resource is joined, all stops behind it come before the one at it. -/
theorem StopsBehind.under (family : Family registry root joined? stops)
    (behind : StopsBehind stops path left) (reaches : Reaches registry root path schema)
    (below : joined? schema path column = some child) : ∃ front,
      stopsUnder column left = front ++ [([], child)] ∧
        StopsBehind stops (path ++ [column]) front := by
  have known := (family.joined path schema column child reaches).mp below
  have member : ([], child) ∈ stopsUnder column left :=
    mem_stopsUnder.mpr ((behind.mem _ _).mpr ⟨List.cons_ne_nil _ _, known⟩)
  have ordered := ordered_stopsUnder behind.ordered column
  obtain ⟨front, others, parts⟩ := List.append_of_mem member
  rw [parts, List.pairwise_append, List.pairwise_cons] at ordered
  obtain ⟨inFront, ⟨first, _⟩, across⟩ := ordered
  -- nothing is shorter than the way to the resource itself
  have last : others = [] := by
    refine List.eq_nil_iff_forall_not_mem.mpr fun other later => ?_
    obtain ⟨short, apart⟩ := first other later
    exact apart (List.eq_nil_of_length_eq_zero (Nat.le_zero.mp short)).symm
  subst last
  refine ⟨front, parts, fun way s => ?_, inFront⟩
  have all : (way, s) ∈ stopsUnder column left ↔ (path ++ [column] ++ way, s) ∈ stops := by
    rw [mem_stopsUnder, behind.mem]
    simp
  rw [parts, List.mem_append, List.mem_singleton, Prod.mk.injEq] at all
  rw [← all]
  constructor
  · intro inside
    exact ⟨(across _ inside _ (List.mem_singleton_self _)).2, Or.inl inside⟩
  · rintro ⟨further, inside | ⟨here, _⟩⟩
    · exact inside
    · exact absurd here further

/-- The stops behind a path, visited in their order, leave a record as the walk below the path does. -/
theorem foldlM_visit_shownBelow (family : Family registry root joined? stops)
    (behind : StopsBehind stops path left) (reaches : Reaches registry root path schema)
    (tidy : (Value.dict record).Tidy) :
    left.foldlM Record.visit record = .ok result ↔
      shownBelow joined? schema path record = .ok result := by
  -- fewer stops are left behind every column than behind the path
  induction size : left.length using Nat.strong_induction_on
    generalizing left path schema record result with
  | _ many ih =>
    have proper : ∀ stop ∈ left, stop.1 ≠ [] := fun stop member => ((behind.mem _ _).mp member).1
    rw [Record.foldlM_visit_iff tidy.nodup proper, shownBelow_ok_iff]
    refine MadeEach.congr fun entry member made => ?_
    obtain ⟨column, v⟩ := entry
    cases below : joined? schema path column with
    | none => rw [behind.none_under family reaches below, Value.shown_none]; rfl
    | some child =>
      obtain ⟨front, parts, further⟩ := behind.under family reaches below
      cases v with
      | dict entries =>
        have inner := tidy.inside ((Mapping.value?_eq_some_iff tidy.nodup).mpr member)
        have fewer : front.length < many := by
          have all := length_stopsUnder column left
          rw [parts, List.length_append, List.length_singleton] at all
          omega
        have reached := family.reached _ _ ((family.joined path schema column child reaches).mp below)
        have step : ∀ result, front.foldlM Record.visit entries = .ok result ↔
            shownBelow joined? child (path ++ [column]) entries = .ok result :=
          fun result => ih front.length fewer further reached inner rfl
        have last : ∀ entries, Value.visit (.dict entries) ([], child) =
            (Record.accessed child.accessors entries >>= fun entries => pure (.dict entries)) :=
          fun _ => rfl
        rw [parts, List.foldlM_append, Value.foldlM_visit_dict, Value.shown_dict, bind_assoc]
        simp only [pure_bind, List.foldlM_cons, List.foldlM_nil, last, bind_pure]
        exact bind_ok_congr step
      | _ => rw [parts]; exact Iff.of_eq (congrArg (· = _) (Value.foldlM_visit_plain _ rfl))

end

/-! ## The plan of a request -/

theorem Record.accessed_cons (field : String) (accessor : Value) (rest : Mapping Value)
    (record : Record) : Record.accessed ((field, accessor) :: rest) record =
      match record.value? field with
      | some v => TransformTable.standard.applyTo field accessor v >>= fun w =>
          Record.accessed rest (record.put field w)
      | none => Record.accessed rest record := by
  rw [Record.accessed, List.foldlM_cons]
  cases held : record.value? field with
  | none => simp only [held, pure_bind]; rfl
  | some v => simp only [held, bind_assoc, pure_bind]; rfl

theorem Record.accessed_eq (accessors : Mapping Value) (record : Record) :
    Record.accessed accessors record = TransformTable.standard.transformed record accessors := by
  induction accessors generalizing record with
  | nil => rfl
  | cons entry rest ih =>
    obtain ⟨field, accessor⟩ := entry
    rw [Record.accessed_cons, TransformTable.transformed_cons]
    cases record.value? field with
    | none => exact ih record
    | some v => exact bind_congr fun w => ih (record.put field w)

theorem Record.visit_unread (record : Record) (path : List String) {schema : Schema}
    (unread : schema.accessors = []) : record.visit (path, schema) = pure record := by
  induction path generalizing record with
  | nil => rw [Record.visit, unread]; rfl
  | cons key way ih =>
    rw [Record.visit_cons]
    cases found : record.value? key with
    | none => rfl
    | some v =>
      have same : v.visit (way, schema) = pure v := by
        cases v with
        | dict entries => rw [Value.visit_dict, ih entries]; rfl
        | _ => rfl
      simp only [same, pure_bind, Mapping.put_value? found]

namespace Plan

variable {setting : Setting} {schema : Schema} {spec : Spec} {trashed : TrashedMode}
  {listAll : Bool} {equals row record : Record} {plan : Plan}

theorem reshape_eq (plan : Plan) (row : Record) : plan.reshape row =
    ((deepestFirst plan.related).foldlM Record.visit (Record.unflatten (plan.shownColumns row)) >>=
      Record.accessed plan.schema.accessors) := by
  have step : (fun (record : Record) ((path, schema) : List String × Schema) =>
      if schema.accessors.isEmpty then pure record
      else Record.modifyAt
        (fun target => TransformTable.standard.transformed target schema.accessors) path record) =
      Record.visit := by
    funext record stop
    obtain ⟨path, schema⟩ := stop
    by_cases unread : schema.accessors = []
    · simp only [unread, List.isEmpty_nil, if_true, record.visit_unread path unread]
    · have accessed : (fun target => TransformTable.standard.transformed target schema.accessors) =
          Record.accessed schema.accessors := funext fun target => (Record.accessed_eq _ target).symm
      simp only [List.isEmpty_iff, unread, if_false, accessed]
      rfl
  have last : Record.accessed plan.schema.accessors = fun record =>
      TransformTable.standard.transformed record plan.schema.accessors := funext (Record.accessed_eq _)
  rw [reshape, step, last]

section

variable (registered : setting.registry.Declared) (declared : schema.Declared)
  (compiled : compile setting schema spec trashed listAll equals = .ok plan)

include registered declared compiled

/-- The resources of a plan are those of its joins, each reached by its path. -/
theorem related_reached : plan.schema = schema ∧
    (∃ maxDepth, FieldSelection.InOrder
      (FieldSelection.JoinsBehind setting.registry schema maxDepth) plan.joins) ∧
    plan.related.map (·.1) = plan.joins.map (·.path) ∧ (plan.joins.map (·.path)).Nodup ∧
    ∀ stop ∈ plan.related, Reaches setting.registry schema stop.1 stop.2 := by
  obtain ⟨selected, filter, search, cursor, parts⟩ := compile_ok compiled
  have steps := FieldSelection.ofFields_steps registered declared.checked parts.fields_ok
  obtain ⟨ordered, recorded, reached⟩ := steps.inOrder
  rw [parts.schema_eq, parts.joins_eq, parts.related_eq]
  exact ⟨rfl, ⟨_, ordered⟩, recorded, steps.paths_distinct, reached⟩

/-- The joins of a plan make up a family with the resources recorded for them. -/
theorem family :
    Family setting.registry schema (plan.joinedBelow setting.registry) plan.related := by
  obtain ⟨root, ⟨_, ordered⟩, recorded, _, reached⟩ := related_reached registered declared compiled
  have joined : ∀ path, path ∈ plan.joins.map (·.path) ↔ ∃ child, (path, child) ∈ plan.related := by
    intro path
    rw [← recorded, List.mem_map]
    exact ⟨fun ⟨⟨_, child⟩, member, same⟩ => ⟨child, same ▸ member⟩,
      fun ⟨child, member⟩ => ⟨_, member, rfl⟩⟩
  refine ⟨fun path child member => reached _ member, fun path own column child reaches => ?_,
    fun path column way own member => ?_⟩
  · have below : plan.joinedBelow setting.registry own path column = some child ↔
        (∃ other, (path ++ [column], other) ∈ plan.related) ∧ ∃ target,
          own.related.value? column = some target ∧
          FieldSelection.relatedSchema setting.registry schema target = .ok child := by
      unfold joinedBelow
      rw [root, ← joined]
      by_cases there : (path ++ [column]) ∈ plan.joins.map (·.path)
      · rw [if_pos there]
        simp only [there, true_and, Option.bind_eq_bind, Option.bind_eq_some_iff, toOption_ok_iff]
      · rw [if_neg there]
        simp only [there, false_and, reduceCtorEq]
    rw [below]
    constructor
    · rintro ⟨⟨other, member⟩, target, related, found⟩
      obtain ⟨before, first, reaches', _, related', found'⟩ := (reached _ member).last
      cases reaches.functional reaches'
      cases related.symm.trans related'
      cases found.symm.trans found'
      exact member
    · intro member
      obtain ⟨before, target, reaches', _, related, found⟩ := (reached _ member).last
      cases reaches.functional reaches'
      exact ⟨⟨child, member⟩, target, related, found⟩
  · refine (joined _).mp ?_
    obtain ⟨join, inside, whole⟩ := List.mem_map.mp ((joined _).mpr ⟨own, member⟩)
    cases way with
    | nil => exact List.mem_map.mpr ⟨join, inside, whole⟩
    | cons next rest =>
      obtain ⟨before, behind, order⟩ := List.append_of_mem inside
      have proper : path ++ [column] ≠ join.path := by
        rw [whole]
        simp
      have begins : path ++ [column] <+: join.path := ⟨next :: rest, by rw [whole]; simp⟩
      obtain ⟨earlier, among, same⟩ := ordered.joined_before order (by simp) proper begins
      exact List.mem_map.mpr ⟨earlier, order ▸ List.mem_append_left _ among, same⟩

/-- The resources of a plan, the longest paths first, are the stops behind its root. -/
theorem stopsBehind : StopsBehind plan.related [] (deepestFirst plan.related) := by
  obtain ⟨_, ⟨_, ordered⟩, recorded, distinct, _⟩ := related_reached registered declared compiled
  have perm : (deepestFirst plan.related).Perm plan.related := List.mergeSort_perm _ _
  constructor
  · intro way own
    rw [perm.mem_iff, List.nil_append]
    refine ⟨fun member => ⟨?_, member⟩, fun ⟨_, member⟩ => member⟩
    have known : way ∈ plan.joins.map (·.path) := recorded ▸ List.mem_map_of_mem (f := (·.1)) member
    obtain ⟨join, inside, rfl⟩ := List.mem_map.mp known
    obtain ⟨before, behind, order⟩ := List.append_of_mem inside
    obtain ⟨front, _, _, _, path, _⟩ := (ordered before join behind order).target
    rw [path]
    simp
  · have sorted : (deepestFirst plan.related).Pairwise fun a b =>
        decide (b.1.length ≤ a.1.length) = true := by
      apply List.pairwise_mergeSort
      · intro a b c longer still
        simp only [decide_eq_true_eq] at longer still ⊢
        omega
      · intro a b
        simp only [Bool.or_eq_true, decide_eq_true_eq]
        omega
    have apart : (deepestFirst plan.related).Pairwise fun a b => a.1 ≠ b.1 := by
      rw [← recorded, ← (perm.map _).nodup_iff] at distinct
      exact List.pairwise_map.mp distinct
    exact (sorted.and apart).imp fun ⟨longer, different⟩ => ⟨of_decide_eq_true longer, different⟩

end

/-- A row without the raw value of its cursor, unless a request asks for that by its name or for
everything by a star in front. -/
def withoutRawCursor (schema : Schema) (spec : Spec) (row : Record) : Record :=
  if schema.cursorField ∈ askedFields spec ∨
      ∃ field ∈ askedFields spec, field.toList.head? = some '*' then row
  else row.without schema.cursorField

theorem shownColumns_eq (compiled : compile setting schema spec trashed listAll equals = .ok plan)
    (row : Record) : plan.shownColumns row = withoutRawCursor schema spec row := by
  have keeps : plan.schema = schema ∧ plan.keepCursor =
      ((askedFields spec).contains schema.cursorField ||
        (askedFields spec).any fun field => Text.startsWith field "*") := by
    unfold compile at compiled
    iterate 5 obtain ⟨_, _, compiled⟩ := bind_ok compiled
    cases listAll with
    | true =>
      cases pure_ok compiled
      exact ⟨rfl, rfl⟩
    | false =>
      iterate 2 obtain ⟨_, _, compiled⟩ := bind_ok compiled
      cases pure_ok compiled
      exact ⟨rfl, rfl⟩
  have star : ∀ field : String, Text.startsWith field "*" = true ↔ field.toList.head? = some '*' := by
    intro field
    have mark : "*".toList = ['*'] := rfl
    rw [Text.startsWith, mark]
    cases field.toList with
    | nil => simp
    | cons c rest =>
      simp only [List.isPrefixOf, Bool.and_true, beq_iff_eq, List.head?_cons, Option.some.injEq]
      exact eq_comm
  unfold shownColumns withoutRawCursor
  rw [keeps.1, keeps.2]
  simp only [Bool.or_eq_true, List.contains_iff_mem, List.any_eq_true, star]

/-- Accessors apply from the bottom up, each once.  The reshaped row of a plan is what the walk through
its nested record makes of it: without the raw value of the cursor unless the request asked for it,
nested, and then at every record of a resource first the records of the resources joined below it and
after them its own accessors, in the order in which they are declared, to the fields it has. -/
theorem accessors_apply_bottom_up (registered : setting.registry.Declared)
    (declared : schema.Declared)
    (compiled : compile setting schema spec trashed listAll equals = .ok plan)
    (tidy : ∀ entry ∈ row, entry.2.Tidy) :
    plan.reshape row = .ok record ↔
      (Record.unflatten (withoutRawCursor schema spec row)).shown
        (plan.joinedBelow setting.registry) schema = .ok record := by
  have shown_tidy : ∀ entry ∈ withoutRawCursor schema spec row, entry.2.Tidy := by
    intro entry member
    unfold withoutRawCursor at member
    split at member
    · exact tidy entry member
    · exact tidy entry (List.mem_of_mem_filter member)
  have nested_tidy := Record.tidy_unflatten shown_tidy
  rw [reshape_eq, shownColumns_eq compiled, (related_reached registered declared compiled).1]
  exact bind_ok_congr fun nested => foldlM_visit_shownBelow (family registered declared compiled)
    (stopsBehind registered declared compiled) .root nested_tidy

end Plan

/-! ## Folders shown within folders -/

theorem Value.tidy_scalar {v : Value} (scalar : v.dict? = none) : v.Tidy := by
  intro way entries reached
  cases way with
  | nil =>
    cases reached
    cases scalar
  | cons key rest =>
    rw [Value.follow_scalar scalar (List.cons_ne_nil key rest)] at reached
    cases reached

namespace Sample

/-- Folders that show no empty names, and the folder above each as text. -/
def shownFolder : Schema :=
  { folderSchema with accessors := [("name", .str "nullify"), ("parent_id", .str "json_encode")] }

theorem shownFolder_declared : shownFolder.Declared :=
  ⟨{ folderDefinition with
      accessors := .dict [("name", .str "nullify"), ("parent_id", .str "json_encode")] }, by rfl⟩

def shownSetting : Plan.Setting := ⟨⟨.standard, [⟨shownFolder, none⟩]⟩, .standard, default⟩

/-- The names of a folder and of the two above it. -/
def shownRequest : Spec :=
  { Spec.all with fields := ["name", "parent_id.name", "parent_id.parent_id.name"] }

def shownRow : Record :=
  [("name", .str "inbox"), ("parent_id.name", .str ""), ("parent_id.parent_id.name", .str "x"),
    ("id", .int 3)]

/-- What is shown of the row: its name, and the folder above as a text that holds a text. -/
def shownEntries : List (String × Option (String ⊕ Int)) :=
  [("name", some (.inl "inbox")), ("parent_id", some (.inl
    "\x7b\"name\":null,\"parent_id\":\"\x7b\\\"name\\\":\\\"x\\\"\x7d\"\x7d"))]

theorem shownRequest_joins :
    (Plan.compile shownSetting shownFolder shownRequest .exclude false []).toOption.map
      (fun plan => plan.joins.map (·.path)) = some [["parent_id"], ["parent_id", "parent_id"]] := by
  decide +kernel

/-- The folder above is written as text after the one above it was, and the key is left out. -/
theorem folders_shown_within_folders : ∃ plan record,
    Plan.compile shownSetting shownFolder shownRequest .exclude false [] = .ok plan ∧
      plan.reshape shownRow = .ok record ∧
      record.map (fun entry => (entry.1, scalar? entry.2)) = shownEntries := by
  have registered : shownSetting.registry.Declared := fun registration member => by
    rw [List.mem_singleton.mp member]
    exact shownFolder_declared
  have scalar : ∀ entry ∈ shownRow, entry.2.dict? = none := by simp [shownRow, Value.dict?]
  obtain ⟨plan, found, paths⟩ := Option.map_eq_some_iff.mp shownRequest_joins
  have compiled := toOption_ok_iff.mp found
  have root : plan.schema = shownFolder := (Plan.related_reached registered shownFolder_declared compiled).1
  have walk : ((Record.unflatten (Plan.withoutRawCursor shownFolder shownRequest shownRow)).shown
      (plan.joinedBelow shownSetting.registry) shownFolder).toOption.map
      (fun record => record.map fun entry => (entry.1, scalar? entry.2)) =
      some shownEntries := by
    unfold Plan.joinedBelow
    rw [root, paths]
    decide +kernel
  obtain ⟨record, shown, entries⟩ := Option.map_eq_some_iff.mp walk
  refine ⟨plan, record, compiled, ?_, entries⟩
  refine (Plan.accessors_apply_bottom_up registered shownFolder_declared compiled ?_).mpr
    (toOption_ok_iff.mp shown)
  exact fun entry member => Value.tidy_scalar (scalar entry member)

end Sample

end Curator
