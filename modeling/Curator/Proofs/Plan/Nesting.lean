import Curator.Plan.Reshape
import Curator.Proofs.Mapping
import Curator.Proofs.Text.Names
/-!
# Nested rows

What is found in the nested record of a row at the end of a column's keys.  Where the keys of one column
begin those of another, the longer ones lead to their value unless the shorter column is itself nested
and comes later in the row: then it is put over all that was nested under it.
-/

set_option autoImplicit false

namespace Curator

/-- What is found at the end of a way of keys through nested records. -/
def Value.follow : List String → Value → Option Value
  | [], v => some v
  | key :: rest, .dict entries => (Mapping.value? entries key).bind (Value.follow rest)
  | _ :: _, _ => none

theorem Value.follow_dict (record : Record) (key : String) (rest : List String) :
    (Value.dict record).follow (key :: rest) = (record.value? key).bind (Value.follow rest) := rfl

theorem Value.follow_scalar {v : Value} (scalar : v.dict? = none) {keys : List String}
    (some_keys : keys ≠ []) : v.follow keys = none := by
  cases keys with
  | nil => exact absurd rfl some_keys
  | cons key rest =>
    cases v with
    | dict entries => cases scalar
    | _ => rfl

namespace Record

/-! ## Assigning -/

/-- The record under a key, an empty one where there is none. -/
def inner (record : Record) (key : String) : Record :=
  match record.value? key with
  | some (.dict entries) => entries
  | _ => []

theorem assign_cons (record : Record) (key next : String) (rest : List String) (v : Value) :
    record.assign (key :: next :: rest) v =
      record.put key (.dict ((record.inner key).assign (next :: rest) v)) := rfl

theorem follow_inner (record : Record) (key : String) {keys : List String} (some_keys : keys ≠ []) :
    (Value.dict (record.inner key)).follow keys = (Value.dict record).follow (key :: keys) := by
  obtain ⟨next, rest, rfl⟩ := List.exists_cons_of_ne_nil some_keys
  rw [Value.follow_dict record key]
  unfold inner
  cases held : Mapping.value? record key with
  | none => rfl
  | some v =>
    cases v with
    | dict entries => rfl
    | _ => rfl

/-- What is put at the end of a way is found there. -/
theorem follow_assign_append (record : Record) {keys : List String} (some_keys : keys ≠ [])
    (rest : List String) (v : Value) :
    (Value.dict (record.assign keys v)).follow (keys ++ rest) = v.follow rest := by
  induction keys generalizing record with
  | nil => exact absurd rfl some_keys
  | cons key others ih =>
    cases others with
    | nil =>
      change (Value.dict (Mapping.put key v record)).follow (key :: rest) = v.follow rest
      rw [Value.follow_dict, Mapping.value?_put, if_pos rfl]
      rfl
    | cons next more =>
      have below := ih (record.inner key) (List.cons_ne_nil next more)
      rw [assign_cons, List.cons_append, Value.follow_dict, Mapping.value?_put, if_pos rfl]
      exact below

/-- At the end of a way that parts from another, nothing changes when a value is put there. -/
theorem follow_assign_apart (record : Record) {keys other : List String} (v : Value)
    (shorter : ¬ keys <+: other) (longer : ¬ other <+: keys) :
    (Value.dict (record.assign keys v)).follow other = (Value.dict record).follow other := by
  induction keys generalizing record other with
  | nil => exact absurd List.nil_prefix shorter
  | cons key rest ih =>
    cases other with
    | nil => exact absurd List.nil_prefix longer
    | cons first others =>
      by_cases same : first = key
      · subst same
        rw [List.prefix_cons_inj] at shorter longer
        cases rest with
        | nil => exact absurd List.nil_prefix shorter
        | cons next more =>
          have further : others ≠ [] := by
            rintro rfl
            exact longer List.nil_prefix
          have below := ih (record.inner first) shorter longer
          rw [assign_cons, Value.follow_dict, Mapping.value?_put, if_pos rfl, Option.bind_some, below]
          exact follow_inner record first further
      · cases rest with
        | nil =>
          change (Value.dict (Mapping.put key v record)).follow (first :: others) = _
          rw [Value.follow_dict, Mapping.value?_put_other record v same]
          rfl
        | cons next more =>
          rw [assign_cons, Value.follow_dict, Mapping.value?_put_other record _ same]
          rfl

/-! ## Assigning columns -/

/-- The record with the values of columns put at the ends of their keys, one after the other. -/
def assignAll (record columns : Record) : Record :=
  columns.foldl (fun acc (column, value) => acc.assign (segments column) value) record

theorem unflatten_eq (row : Record) : unflatten row =
    assignAll [] (row.filter (fun (column, _) => !isNestedColumn column) ++
      row.filter fun (column, _) => isNestedColumn column) := rfl

theorem assignAll_append (record first second : Record) :
    assignAll record (first ++ second) = assignAll (assignAll record first) second :=
  List.foldl_append

theorem assignAll_cons (record : Record) (column : String) (v : Value) (rest : Record) :
    assignAll record ((column, v) :: rest) = assignAll (record.assign (segments column) v) rest :=
  rfl

theorem segments_ne_nil (column : String) : segments column ≠ [] := by
  have keys : Text.split ((Text.split column ".").getLast?.getD "") jsonArrow ≠ [] := by
    unfold Text.split
    rw [Ne, List.map_eq_nil_iff]
    exact Text.piecesFrom_ne_nil _ _ _
  unfold segments
  simp [keys]

theorem split_of_not_holds {text mark : String} (some_mark : mark.toList ≠ [])
    (absent : Text.holds text mark = false) : Text.split text mark = [text] := by
  have uncut : Text.cut? mark.toList text.toList = none := by
    simpa [Text.holds, Text.occurs] using absent
  unfold Text.split
  rw [Text.pieces_eq_cut? some_mark, uncut]
  simp

/-- A plain column is a key by itself. -/
theorem segments_plain {column : String} (plain : isNestedColumn column = false) :
    segments column = [column] := by
  obtain ⟨dot, arrow⟩ := Bool.or_eq_false_iff.mp plain
  have one_part := split_of_not_holds (by decide) dot
  have one_key := split_of_not_holds (by decide) arrow
  simp [segments, one_part, one_key]

/-- Two ways of which neither begins the other. -/
def Diverge (keys other : List String) : Prop := ¬ keys <+: other ∧ ¬ other <+: keys

theorem follow_assignAll_apart {columns : Record} {keys : List String}
    (apart : ∀ entry ∈ columns, Diverge (segments entry.1) keys) (record : Record) :
    (Value.dict (record.assignAll columns)).follow keys = (Value.dict record).follow keys := by
  induction columns generalizing record with
  | nil => rfl
  | cons entry rest ih =>
    obtain ⟨first, others⟩ := List.forall_mem_cons.mp apart
    have later := ih others (record.assign (segments entry.1) entry.2)
    exact later.trans (follow_assign_apart record entry.2 first.1 first.2)

/-- A value that no later column is put over or under is found at the end of its keys. -/
theorem follow_assignAll_last {before after : Record} {column : String} {v : Value}
    (apart : ∀ entry ∈ after, Diverge (segments entry.1) (segments column)) (record : Record) :
    (Value.dict (record.assignAll (before ++ (column, v) :: after))).follow (segments column) =
      some v := by
  have placed := follow_assign_append (record.assignAll before) (segments_ne_nil column) [] v
  rw [List.append_nil] at placed
  rw [assignAll_append, assignAll_cons]
  exact (follow_assignAll_apart apart _).trans placed

/-- Where one of the columns has its value on the way and none leads further than the way does, the end
of the way is not reached. -/
theorem follow_assignAll_lost {columns : Record} {keys : List String}
    (ends : ∀ entry ∈ columns, ¬ keys <+: segments entry.1)
    (scalar : ∀ entry ∈ columns, segments entry.1 <+: keys → entry.2.dict? = none)
    {record : Record}
    (lost : (∃ entry ∈ columns, segments entry.1 <+: keys) ∨
      (Value.dict record).follow keys = none) :
    (Value.dict (record.assignAll columns)).follow keys = none := by
  induction columns generalizing record with
  | nil => exact lost.resolve_left (by simp)
  | cons entry rest ih =>
    obtain ⟨ends_here, ends_later⟩ := List.forall_mem_cons.mp ends
    obtain ⟨scalar_here, scalar_later⟩ := List.forall_mem_cons.mp scalar
    refine ih ends_later scalar_later ?_
    by_cases front : segments entry.1 <+: keys
    · right
      obtain ⟨further, rfl⟩ := front
      rw [follow_assign_append record (segments_ne_nil entry.1)]
      apply Value.follow_scalar (scalar_here ⟨further, rfl⟩)
      rintro rfl
      rw [List.append_nil] at ends_here
      exact ends_here (List.prefix_refl _)
    · rcases lost with ⟨other, member, begins⟩ | missing
      · rcases List.mem_cons.mp member with rfl | member
        · exact absurd begins front
        · exact Or.inl ⟨other, member, begins⟩
      · right
        exact (follow_assign_apart record entry.2 front ends_here).trans missing

/-! ## Rows -/

section

variable {before after : Record} {column : String} {v : Value}

theorem unflatten_at_plain (plain : isNestedColumn column = false) :
    unflatten (before ++ (column, v) :: after) =
      assignAll [] (before.filter (fun (column, _) => !isNestedColumn column) ++ (column, v) ::
        (after.filter (fun (column, _) => !isNestedColumn column) ++
          (before ++ after).filter fun (column, _) => isNestedColumn column)) := by
  rw [unflatten_eq]
  simp [List.filter_append, plain]

theorem unflatten_at_nested (nested : isNestedColumn column = true) :
    unflatten (before ++ (column, v) :: after) =
      assignAll [] (((before ++ after).filter (fun (column, _) => !isNestedColumn column) ++
        before.filter fun (column, _) => isNestedColumn column) ++ (column, v) ::
          after.filter fun (column, _) => isNestedColumn column) := by
  rw [unflatten_eq]
  simp [List.filter_append, nested]

/-- Take a column whose keys neither are nor begin those of another one.  Its value is found at their
end if no nested column whose keys begin them comes after it in the row; if one does, and no column
after it holds a record on the way, then nothing is found there. -/
theorem unflatten_keeps_longest
    (longest : ∀ entry ∈ before ++ after, ¬ segments column <+: segments entry.1) :
    ((∀ entry ∈ after, isNestedColumn entry.1 = true → ¬ segments entry.1 <+: segments column) →
      (Value.dict (unflatten (before ++ (column, v) :: after))).follow (segments column) = some v) ∧
    ((∃ entry ∈ after, isNestedColumn entry.1 = true ∧ segments entry.1 <+: segments column) →
      (∀ entry ∈ after, segments entry.1 <+: segments column → entry.2.dict? = none) →
      (Value.dict (unflatten (before ++ (column, v) :: after))).follow (segments column) = none) := by
  have nested_after : ∀ entry ∈ after.filter (fun (column, _) => isNestedColumn column),
      entry ∈ after ∧ isNestedColumn entry.1 = true := fun entry member =>
    List.mem_filter.mp member
  cases kind : isNestedColumn column with
  | false =>
    -- the only keys that begin those of a plain column are its own
    have alone : ∀ entry ∈ before ++ after, ¬ segments entry.1 <+: segments column := by
      intro entry member begins
      have own := longest entry member
      rw [segments_plain kind] at begins own
      rcases List.prefix_cons_iff.mp begins with none | ⟨rest, same, further⟩
      · exact segments_ne_nil entry.1 none
      · rw [same, List.prefix_nil.mp further] at own
        exact own (List.prefix_refl _)
    constructor
    · intro _
      rw [unflatten_at_plain kind]
      apply follow_assignAll_last
      intro entry member
      have among : entry ∈ before ++ after := by
        rcases List.mem_append.mp member with member | member
        · exact List.mem_append_right before (List.mem_of_mem_filter member)
        · exact List.mem_of_mem_filter member
      exact ⟨alone entry among, longest entry among⟩
    · rintro ⟨entry, member, -, begins⟩
      exact absurd begins (alone entry (List.mem_append_right before member))
  | true =>
    rw [unflatten_at_nested kind]
    constructor
    · intro unshadowed
      apply follow_assignAll_last
      intro entry member
      obtain ⟨later, nested⟩ := nested_after entry member
      exact ⟨unshadowed entry later nested, longest entry (List.mem_append_right before later)⟩
    · rintro ⟨entry, member, nested, begins⟩ scalar
      rw [assignAll_append, assignAll_cons]
      apply follow_assignAll_lost
      · intro other among
        exact longest other (List.mem_append_right before (nested_after other among).1)
      · intro other among
        exact scalar other (nested_after other among).1
      · exact Or.inl ⟨entry, List.mem_filter.mpr ⟨member, nested⟩, begins⟩

end

end Record

namespace Sample

/-- A team by its name and by its number, and the author it belongs to. -/
def teamName : String × Value := ("author->team->name", .str "Core")

def teamNumber : String × Value := ("author.team", .int 7)

def author : String × Value := ("author", .int 3)

/-- What is nested under a column is found, whether the column is plain or came before. -/
theorem team_name_found :
    (∀ entry ∈ [teamNumber] ++ [author],
      ¬ segments "author->team->name" <+: segments entry.1) ∧
    (∀ entry ∈ [author], Record.isNestedColumn entry.1 = true →
      ¬ segments entry.1 <+: segments "author->team->name") ∧
    (Value.dict (Record.unflatten ([teamNumber] ++ teamName :: [author]))).follow
      (segments "author->team->name") = some (.str "Core") := by
  have longest : ∀ entry ∈ [teamNumber] ++ [author],
      ¬ segments "author->team->name" <+: segments entry.1 := by decide
  have unshadowed : ∀ entry ∈ [author], Record.isNestedColumn entry.1 = true →
      ¬ segments entry.1 <+: segments "author->team->name" := by decide
  exact ⟨longest, unshadowed, (Record.unflatten_keeps_longest longest).1 unshadowed⟩

/-- A nested column that comes later is put over what was nested under it. -/
theorem team_name_lost :
    (∀ entry ∈ [teamNumber], ¬ segments "author->team->name" <+: segments entry.1) ∧
    (Value.dict (Record.unflatten [teamName, teamNumber])).follow (segments "author->team->name") =
      none := by
  refine ⟨by decide, ?_⟩
  rfl

end Sample

end Curator
