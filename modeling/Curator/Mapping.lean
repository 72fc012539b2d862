/-!
# Ordered mappings

A mapping from text keys to values whose order counts: lists of pairs in which the first pair with a
key is the one that speaks for it.  Putting a value under a key that is present keeps the key's
place; a new key goes to the end.
-/

set_option autoImplicit false

namespace Curator

abbrev Mapping (α : Type) := List (String × α)

namespace Mapping

variable {α : Type}

def value? (m : Mapping α) (key : String) : Option α :=
  m.lookup key

def has (m : Mapping α) (key : String) : Bool :=
  (m.lookup key).isSome

def keys (m : Mapping α) : List String :=
  m.map (·.1)

def put (key : String) (value : α) : Mapping α → Mapping α
  | [] => [(key, value)]
  | (k, v) :: rest => if k = key then (k, value) :: rest else (k, v) :: put key value rest

/-- The mapping without a key. -/
def without (m : Mapping α) (key : String) : Mapping α :=
  m.filter (·.1 != key)

/-- The first mapping with every entry of the second put into it, in order. -/
def overlay (m updates : Mapping α) : Mapping α :=
  updates.foldl (fun acc entry => acc.put entry.1 entry.2) m

/-- The mapping that holds every pair, a later one replacing an earlier one of its key. -/
def ofPairs (pairs : List (String × α)) : Mapping α :=
  overlay [] pairs

/-- A value for a key that has none yet. -/
def supply (m : Mapping α) (key : String) (value : α) : Mapping α :=
  if m.has key then m else m ++ [(key, value)]

theorem value?_put (m : Mapping α) (key other : String) (value : α) :
    (m.put key value).value? other = if other = key then some value else m.value? other := by
  induction m with
  | nil =>
    by_cases h : other = key
    · simp [put, value?, h]
    · simp [put, value?, List.lookup_cons, h, beq_false_of_ne h]
  | cons entry rest ih =>
    obtain ⟨k, v⟩ := entry
    unfold value? at ih ⊢
    by_cases hk : k = key
    · subst hk
      by_cases ho : other = k
      · simp [put, ho]
      · simp [put, List.lookup_cons, ho, beq_false_of_ne ho]
    · by_cases ho : other = k
      · subst ho
        simp [put, hk]
      · simp [put, hk, List.lookup_cons, beq_false_of_ne ho, ih]

end Mapping

end Curator
