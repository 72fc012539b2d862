import Curator.Proofs.Plan.Joins
import Curator.Proofs.Schema.Sample
import Mathlib.Data.List.Infix
/-!
# The order of joins

Joins stand in an order in which a database can make them: each goes one step on from the root or
from a join before it.  The selection of a field goes from resource to resource no deeper than the
limit allows, so it comes to an end where resources are related in a circle too.
-/

set_option autoImplicit false

namespace Curator

open Outcome

namespace FieldSelection

/-! ## How deep a selection goes -/

/-- One level of the selection of a dotted name, where `inside` selects the rest of the name in a
related resource. -/
def addHead (registry : Registry) (root : Schema) (maxDepth : Int)
    (inside : Schema → String → String → FieldSelection → Except Failure FieldSelection)
    (schema : Schema) (path : List String) (table : String) (s : FieldSelection)
    (head next : String) (rest : List String) : Except Failure FieldSelection :=
  let throughRelated := fun (s : FieldSelection) (column target : String) => do
    let related ← relatedSchema registry root target
    let (s, label) := s.join (path ++ [column]) table column related
    inside related column label s
  if maxDepth < ((path.length + (rest.length + 2) : Nat) : Int) then
    .error (.request (.relatedDepth maxDepth))
  else if head = "*" then
    schema.readable.foldlM (fun s readable =>
      match schema.related.value? readable with
      | some target =>
        if Text.startsWith next "*" then throughRelated s readable target
        else s.addColumn schema path table readable
      | none => s.addColumn schema path table readable) s
  else
    match schema.related.value? head with
    | some target =>
      if schema.readable.contains head then throughRelated s head target
      else .error (.request (.relatedField (Text.join "." (path ++ head :: next :: rest))))
    | none => .error (.request (.relatedField (Text.join "." (path ++ head :: next :: rest))))

/-- The selection of the parts of a name that may go only so many levels deep.  Where it has to go
deeper it fails in a way of its own. -/
def addPartsWithin (registry : Registry) (root : Schema) (maxDepth : Int) (exhausted : Failure) :
    Nat → Schema → List String → String → FieldSelection → List String →
      Except Failure FieldSelection
  | 0, _, _, _, _, _ => .error exhausted
  | _ + 1, _, _, _, s, [] => .ok s
  | _ + 1, schema, path, table, s, [name] => s.addName schema path table name
  | levels + 1, schema, path, table, s, head :: next :: rest =>
    addHead registry root maxDepth (fun related column label s =>
      addPartsWithin registry root maxDepth exhausted levels related (path ++ [column]) label s
        (next :: rest)) schema path table s head next rest

section

variable {registry : Registry} {root schema : Schema} {maxDepth : Int} {path : List String}
  {table : String} {s t : FieldSelection}

theorem addParts_cons (head next : String) (rest : List String) :
    addParts registry root maxDepth schema path table s (head :: next :: rest) =
      addHead registry root maxDepth (fun related column label s =>
        addParts registry root maxDepth related (path ++ [column]) label s (next :: rest))
        schema path table s head next rest := by
  rw [addParts]
  rfl

/-- No name leads deeper than the limit, however the resources refer to each other. -/
theorem addPartsWithin_eq {exhausted : Failure} {levels : Nat} (positive : 1 ≤ levels)
    (enough : maxDepth ≤ path.length + levels) (parts : List String) :
    addPartsWithin registry root maxDepth exhausted levels schema path table s parts =
      addParts registry root maxDepth schema path table s parts := by
  induction levels generalizing schema path table s parts with
  | zero => omega
  | succ levels ih =>
    rcases parts with _ | ⟨head, _ | ⟨next, rest⟩⟩
    · rfl
    · rfl
    · rw [addParts_cons, addPartsWithin]
      by_cases deep : maxDepth < ((path.length + (rest.length + 2) : Nat) : Int)
      · simp only [addHead, if_pos deep]
      · -- a name that is not too long leaves a level for the rest of it
        congr 1
        funext related column label s
        apply ih
        · omega
        · rw [List.length_append, List.length_singleton]
          omega

/-! ## Joins one behind another -/

/-- Joins each of which stands as `P` says behind those before it. -/
def InOrder (P : List Join → Join → Prop) (joins : List Join) : Prop :=
  ∀ before join behind, joins = before ++ join :: behind → P before join

theorem inOrder_nil (P : List Join → Join → Prop) : InOrder P [] := by
  intro before join behind parts
  simp at parts

theorem InOrder.snoc {P : List Join → Join → Prop} {joins : List Join} {last : Join}
    (ordered : InOrder P joins) (new : P joins last) : InOrder P (joins ++ [last]) := by
  intro before join behind parts
  rcases List.eq_nil_or_concat behind with rfl | ⟨others, final, rfl⟩
  · obtain ⟨rfl, same⟩ := List.append_inj' parts rfl
    cases same
    exact new
  · rw [List.concat_eq_append, ← List.cons_append, ← List.append_assoc] at parts
    exact ordered before join others (List.append_inj' parts rfl).1

/-- A join that goes one step on from the root or from one of the joins before it, to the rows of
the resource that its column refers to, at a path that is new. -/
structure JoinsBehind (registry : Registry) (root : Schema) (maxDepth : Int) (before : List Join)
    (join : Join) : Prop where
  owner : join.path = [join.column] ∧ join.owner = root.table ∨
    ∃ earlier ∈ before, join.path = earlier.path ++ [join.column] ∧ join.owner = earlier.label
  target : ∃ front schema target next, join.path = front ++ [join.column] ∧
    Reaches registry root front schema ∧ schema.related.value? join.column = some target ∧
    relatedSchema registry root target = .ok next ∧ join.table = next.table ∧
    join.primaryKey = next.primaryKey
  new : ∀ earlier ∈ before, earlier.path ≠ join.path
  shallow : (join.path.length : Int) ≤ maxDepth - 1

/-- The resources on the way to a join are joined before it. -/
theorem InOrder.joined_before {joins before behind : List Join} {join : Join} {front : List String}
    (ordered : InOrder (JoinsBehind registry root maxDepth) joins)
    (parts : joins = before ++ join :: behind) (some_field : front ≠ []) (proper : front ≠ join.path)
    (begins : front <+: join.path) : ∃ earlier ∈ before, earlier.path = front := by
  -- from a join to its owner there are fewer and fewer joins before
  induction size : before.length using Nat.strong_induction_on generalizing before join behind with
  | _ many ih =>
    rcases (ordered before join behind parts).owner with ⟨path, _⟩ | ⟨earlier, among, path, _⟩
    · rw [path, ← List.nil_append [join.column], List.prefix_concat_iff] at begins
      rcases begins with same | begins
      · exact absurd (same.trans path.symm) proper
      · exact absurd (List.prefix_nil.mp begins) some_field
    · rw [path, List.prefix_concat_iff] at begins
      rcases begins with same | begins
      · exact absurd (same.trans path.symm) proper
      · by_cases found : earlier.path = front
        · exact ⟨earlier, among, found⟩
        · obtain ⟨first, second, rfl⟩ := List.append_of_mem among
          rw [List.append_assoc, List.cons_append] at parts
          have fewer : first.length < many := by
            simp only [List.length_append, List.length_cons] at size
            omega
          obtain ⟨other, inside, same⟩ := ih first.length fewer parts (Ne.symm found) begins rfl
          exact ⟨other, List.mem_append_left _ inside, same⟩

/-- The table or alias that a new join starts from is that of the root or of a join before it. -/
theorem owner_of_place {column : String} (place : s.tableAt? root path = some table) :
    path ++ [column] = [column] ∧ table = root.table ∨
      ∃ earlier ∈ s.joins, path ++ [column] = earlier.path ++ [column] ∧ table = earlier.label := by
  unfold tableAt? at place
  split at place
  · rename_i empty
    cases place
    exact Or.inl ⟨by rw [empty, List.nil_append], rfl⟩
  · obtain ⟨earlier, found, label⟩ := Option.map_eq_some_iff.mp place
    refine Or.inr ⟨earlier, List.mem_of_find?_eq_some found, ?_, label.symm⟩
    rw [joinAt?_path found]

/-- The joins of a selection are in order, and for each of them the resource is recorded. -/
theorem Steps.inOrder (steps : Steps registry root maxDepth empty s) :
    InOrder (JoinsBehind registry root maxDepth) s.joins ∧
      s.related.map (·.1) = s.joins.map (·.path) ∧
      ∀ entry ∈ s.related, Reaches registry root entry.1 entry.2 := by
  induction steps with
  | refl => exact ⟨inOrder_nil _, rfl, by simp [empty]⟩
  | @tail s t _ step ih =>
    cases step with
    | column _ _ _ _ added =>
      obtain ⟨joins, related, _⟩ := addColumn_keeps added
      rw [joins, related]
      exact ih
    | @join path schema next table column target reaches place readable related found shallow =>
      obtain ⟨ordered, recorded, reached⟩ := ih
      rcases join_eq s (path ++ [column]) table column next with
        ⟨_, _, same⟩ | ⟨fresh, count, label, _, _, same⟩
      · rw [same]
        exact ⟨ordered, recorded, reached⟩
      · rw [same]
        refine ⟨ordered.snoc ?_, ?_, ?_⟩
        · constructor
          · exact owner_of_place place
          · exact ⟨path, schema, target, next, rfl, reaches, related, found, rfl, rfl⟩
          · intro earlier member equal
            exact List.find?_eq_none.mp fresh earlier member (beq_iff_eq.mpr equal)
          · simp only [List.length_append, List.length_singleton]
            omega
        · simp [recorded]
        · intro entry member
          rcases List.mem_append.mp member with member | member
          · exact reached entry member
          · rw [List.mem_singleton.mp member]
            exact .field reaches readable related found

end

/-- Fields are selected in a walk that goes no deeper than the limit, whatever their names and
however the resources refer to each other.  The joins that come of it can be made in their order:
each goes one step on from the root or from a join before it, no path is joined twice, none is
longer than the limit allows, and the resources recorded for accessors are those of the joins. -/
theorem joins_can_be_made_in_order {registry : Registry} {root : Schema} {maxDepth : Int}
    (registered : registry.Declared) (declared : root.Declared) (positive : 1 ≤ maxDepth)
    (fields : List String) :
    (∀ exhausted, ∀ field ∈ fields, ∀ s,
      addPartsWithin registry root maxDepth exhausted maxDepth.toNat root [] root.table s
          (Text.split field ".") =
        addParts registry root maxDepth root [] root.table s (Text.split field ".")) ∧
    ∀ s, ofFields registry maxDepth root fields = .ok s →
      InOrder (fun before join => JoinsBehind registry root maxDepth before join ∧
        ∀ front, front ≠ [] → front ≠ join.path → front <+: join.path →
          ∃ earlier ∈ before, earlier.path = front) s.joins ∧
      (s.joins.map (·.path)).Nodup ∧
      s.related.map (·.1) = s.joins.map (·.path) ∧
      ∀ entry ∈ s.related, Reaches registry root entry.1 entry.2 := by
  constructor
  · intro exhausted field _ s
    apply addPartsWithin_eq
    · omega
    · rw [List.length_nil]
      omega
  · intro s ok
    have steps := ofFields_steps registered declared.checked ok
    obtain ⟨ordered, recorded, reached⟩ := steps.inOrder
    refine ⟨?_, steps.paths_distinct, recorded, reached⟩
    intro before join behind parts
    refine ⟨ordered before join behind parts, ?_⟩
    intro front some_field proper begins
    exact ordered.joined_before parts some_field proper begins

/-- A name that goes twice around a circle of one resource. -/
theorem folders_joined_in_order : ∃ s,
    ofFields Sample.folderRegistry 3 Sample.folderSchema ["name", "parent_id.parent_id.name"] =
      .ok s ∧
    s.joins.map (·.path) = [["parent_id"], ["parent_id", "parent_id"]] ∧
    InOrder (fun before join =>
      JoinsBehind Sample.folderRegistry Sample.folderSchema 3 before join ∧
        ∀ front, front ≠ [] → front ≠ join.path → front <+: join.path →
          ∃ earlier ∈ before, earlier.path = front) s.joins := by
  refine ⟨_, rfl, rfl, ?_⟩
  have selected := joins_can_be_made_in_order Sample.folderRegistry_declared
    Sample.folder_declared (by decide : (1 : Int) ≤ 3) ["name", "parent_id.parent_id.name"]
  exact (selected.2 _ rfl).1

end FieldSelection

end Curator
