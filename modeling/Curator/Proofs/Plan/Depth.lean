import Curator.Proofs.Plan.Compiled
import Curator.Proofs.Schema.Sample
/-!
# Groups in groups

How deep the groups of a filter nest, and what a bound on that does to a request that compiles without
one: it is refused if its groups nest deeper, and has the plan it had if they do not.
-/

set_option autoImplicit false

namespace Curator.Plan

open Sql Calendar Outcome

/-! ## Depth -/

mutual

/-- How deep the groups of a filter nest; a group counts whatever is in it. -/
def groupDepth : Value → Nat
  | .list items => depthOfItems items
  | .dict entries => depthOfEntries entries
  | _ => 0

def depthOfItems : List Value → Nat
  | [] => 0
  | item :: rest => max (groupDepth item) (depthOfItems rest)

def depthOfEntries : List (String × Value) → Nat
  | [] => 0
  | (key, value) :: rest =>
    max (if (groupConnector? key).isSome then groupDepth value + 1 else 0) (depthOfEntries rest)

end

theorem groupDepth_plain {v : Value} (plain : v.Plain) : groupDepth v = 0 := by
  cases v with
  | list items => exact absurd rfl (plain.1 items)
  | dict entries => exact absurd rfl (plain.2 entries)
  | _ => rfl

/-! ## Bounds -/

variable {α β : Type} {bound : Int} {depth deepest other : Nat}

/-- A result, if no group is nested deeper than a bound. -/
def bounded (bound : Int) (deepest : Nat) (result : α) : Except Failure α :=
  if bound < deepest then .error (.request (.filterDepth bound)) else .ok result

theorem bounded_of_le {a : α} (shallow : (deepest : Int) ≤ bound) : bounded bound deepest a = .ok a :=
  if_neg (Int.not_lt.mpr shallow)

theorem bounded_of_lt {a : α} (deep : bound < (deepest : Int)) :
    bounded bound deepest a = .error (.request (.filterDepth bound)) :=
  if_pos deep

/-- Results one after the other are bounded as the deeper of them. -/
theorem bounded_seq (first others : List PlanStep) :
    (bounded bound (depth + deepest) first >>= fun steps =>
      bounded bound (depth + other) others >>= fun more => pure (steps ++ more)) =
      bounded bound (depth + max deepest other) (first ++ others) := by
  by_cases deep : bound < ((depth + max deepest other : Nat) : Int)
  · rw [bounded_of_lt deep]
    by_cases here : bound < ((depth + deepest : Nat) : Int)
    · rw [bounded_of_lt here]
      rfl
    · have later : bound < ((depth + other : Nat) : Int) := by omega
      rw [bounded_of_le (Int.not_lt.mp here), ok_bind, bounded_of_lt later]
      rfl
  · have here : ((depth + deepest : Nat) : Int) ≤ bound := by omega
    have later : ((depth + other : Nat) : Int) ≤ bound := by omega
    rw [bounded_of_le (Int.not_lt.mp deep), bounded_of_le here, ok_bind, bounded_of_le later]
    rfl

/-! ## Filters -/

variable {schema : Schema} {now : Moment} {connector : Connector} {steps : List PlanStep}

/-- A group is checked before what is in it. -/
theorem entrySteps_bounded {key : String} {value : Value}
    {inside within : Connector → Except Failure (List PlanStep)}
    (ok : entrySteps schema now none connector depth key value inside = .ok steps)
    (same : ∀ inner steps, inside inner = .ok steps → ((depth + 1 : Nat) : Int) ≤ bound →
      within inner = bounded bound (depth + 1 + deepest) steps) (shallow : (depth : Int) ≤ bound) :
    entrySteps schema now (some bound) connector depth key value within = bounded bound
      (depth + if (groupConnector? key).isSome then deepest + 1 else 0) steps := by
  rcases entrySteps_ok ok with ⟨inner, others, names, _, others_ok, rfl⟩ | ⟨names, readable, field⟩
  · have total : depth + (deepest + 1) = depth + 1 + deepest := by omega
    rw [entrySteps, names]
    simp only [Option.isSome_some, if_true, total]
    by_cases deep : bound < ((depth + 1 : Nat) : Int)
    · have whole : bound < ((depth + 1 + deepest : Nat) : Int) := by omega
      rw [checkDepth, if_pos deep, bounded_of_lt whole]
      rfl
    · rw [checkDepth, if_neg deep, same inner others others_ok (Int.not_lt.mp deep)]
      by_cases deeper : bound < ((depth + 1 + deepest : Nat) : Int)
      · rw [bounded_of_lt deeper, bounded_of_lt deeper]
        rfl
      · rw [bounded_of_le (Int.not_lt.mp deeper), bounded_of_le (Int.not_lt.mp deeper)]
        rfl
  · rw [entrySteps, names]
    simp only [readable, if_true, field]
    exact (bounded_of_le shallow).symm

theorem filterEntry_bounded {key : String} {v : Value}
    (ok : filterEntry schema now none connector depth key v = .ok steps)
    (same : ∀ inner steps, filterSteps schema now none inner (depth + 1) v = .ok steps →
      ((depth + 1 : Nat) : Int) ≤ bound →
        filterSteps schema now (some bound) inner (depth + 1) v =
          bounded bound (depth + 1 + groupDepth v) steps) (shallow : (depth : Int) ≤ bound) :
    filterEntry schema now (some bound) connector depth key v = bounded bound
      (depth + if (groupConnector? key).isSome then groupDepth v + 1 else 0) steps := by
  cases v with
  | list items =>
    rw [filterEntry] at ok ⊢
    exact entrySteps_bounded ok same shallow
  | dict entries =>
    rw [filterEntry] at ok ⊢
    exact entrySteps_bounded ok same shallow
  | _ =>
    simp only [filterEntry] at ok ⊢
    refine entrySteps_bounded ok (fun inner steps refused => ?_) shallow
    cases refused

theorem filterSteps_plain {v : Value} (bare : v.Plain) :
    filterSteps schema now (some bound) connector depth v =
      filterSteps schema now none connector depth v := by
  cases v with
  | list items => exact absurd rfl (bare.1 items)
  | dict entries => exact absurd rfl (bare.2 entries)
  | _ => rfl

theorem filterSteps_bounded {v : Value}
    (ok : filterSteps schema now none connector depth v = .ok steps)
    (shallow : (depth : Int) ≤ bound) :
    filterSteps schema now (some bound) connector depth v =
      bounded bound (depth + groupDepth v) steps := by
  -- values, items and entries recurse into one another, so they are bounded together
  have all : (∀ (v : Value) (connector : Connector) (depth : Nat) (steps : List PlanStep),
      filterSteps schema now none connector depth v = .ok steps → (depth : Int) ≤ bound →
        filterSteps schema now (some bound) connector depth v =
          bounded bound (depth + groupDepth v) steps) ∧
      (∀ (items : List Value) (connector : Connector) (depth : Nat) (steps : List PlanStep),
        filterItems schema now none connector depth items = .ok steps → (depth : Int) ≤ bound →
          filterItems schema now (some bound) connector depth items =
            bounded bound (depth + depthOfItems items) steps) ∧
      ∀ (entries : List (String × Value)) (connector : Connector) (depth : Nat)
        (steps : List PlanStep),
        filterEntries schema now none connector depth entries = .ok steps → (depth : Int) ≤ bound →
          filterEntries schema now (some bound) connector depth entries =
            bounded bound (depth + depthOfEntries entries) steps := by
    refine Value.nested_induction ?plain ?list ?dict ?items_nil ?items_cons ?entries_nil
      ?entries_cons
    case plain =>
      intro v bare connector depth steps ok shallow
      rw [filterSteps_plain bare, groupDepth_plain bare, Nat.add_zero, bounded_of_le shallow, ok]
    case list => exact fun _ within => within
    case dict => exact fun _ within => within
    case items_nil =>
      intro connector depth steps ok shallow
      rw [filterItems] at ok ⊢
      cases ok
      exact (bounded_of_le shallow).symm
    case items_cons =>
      intro v rest _ entriesOf restOf connector depth steps ok shallow
      obtain ⟨entries, first, others, rfl, first_ok, others_ok, rfl⟩ := filterItems_cons_ok ok
      rw [filterItems, entriesOf entries rfl connector depth first first_ok shallow,
        restOf connector depth others others_ok shallow]
      exact bounded_seq first others
    case entries_nil =>
      intro connector depth steps ok shallow
      rw [filterEntries] at ok ⊢
      cases ok
      exact (bounded_of_le shallow).symm
    case entries_cons =>
      intro key v rest valueOf restOf connector depth steps ok shallow
      obtain ⟨first, others, first_ok, others_ok, rfl⟩ := filterEntries_cons_ok ok
      rw [filterEntries, filterEntry_bounded first_ok (fun inner => valueOf inner (depth + 1)) shallow,
        restOf connector depth others others_ok shallow]
      exact bounded_seq first others
  exact all.1 v connector depth steps ok shallow

/-! ## Requests -/

/-- The setting with a bound on the depth of filters. -/
def Setting.boundedBy (setting : Setting) (bound : Int) : Setting :=
  { setting with settings := { setting.settings with maxFilterDepth := some bound } }

/-- A bound on the depth of filters refuses just the requests whose groups nest deeper.  A request that
has a plan without a bound is refused, with the bound in the message, if one of its groups is nested
deeper than the bound; and if none is, it has the same plan. -/
theorem depth_bound_is_exact {setting : Setting} {spec : Spec} {trashed : TrashedMode}
    {listAll : Bool} {equals : Record} {plan : Plan}
    (unbounded : setting.settings.maxFilterDepth = none)
    (compiled : compile setting schema spec trashed listAll equals = .ok plan)
    (positive : 1 ≤ bound) :
    compile (setting.boundedBy bound) schema spec trashed listAll equals =
      if bound < groupDepth spec.filter then .error (.request (.filterDepth bound))
      else .ok plan := by
  unfold compile at compiled ⊢
  dsimp only at compiled ⊢
  obtain ⟨selected, selected_ok, rest⟩ := bind_ok compiled
  obtain ⟨filter, filter_ok, rest⟩ := bind_ok rest
  rw [unbounded] at filter_ok
  have filtered : filterSteps schema setting.now (some bound) .and 0 spec.filter =
      bounded bound (0 + groupDepth spec.filter) filter := filterSteps_bounded filter_ok (by omega)
  rw [Nat.zero_add] at filtered
  -- nothing but the filter heeds the bound
  have selected_too : FieldSelection.ofFields (setting.boundedBy bound).registry
      (schema.limits (setting.boundedBy bound).settings).relatedDepth.toInt schema
      (if spec.fields.isEmpty then ["*"] else spec.fields) = .ok selected := selected_ok
  have filtered_too : filterSteps schema (setting.boundedBy bound).now
      (setting.boundedBy bound).settings.maxFilterDepth .and 0 spec.filter =
        bounded bound (groupDepth spec.filter) filter := filtered
  rw [selected_too, ok_bind, filtered_too, bounded]
  split
  · rfl
  · exact rest

end Curator.Plan

namespace Curator.Sample

open Plan Outcome

/-- Folders by name, beside a group with nothing in it. -/
def nestedRequest : Spec :=
  let byName : Value := .dict [("eq", .str "inbox")]
  { Spec.all with filter := .dict [("_or", .dict [("AND", .list []), ("name", byName)])] }

/-- Two groups in one another are one too many for a bound of one, and not for a bound of two. -/
theorem nested_groups_counted : ∃ plan,
    compile (folderSetting.boundedBy 1) folderSchema nestedRequest .exclude false [] =
      .error (.request (.filterDepth 1)) ∧
    compile (folderSetting.boundedBy 2) folderSchema nestedRequest .exclude false [] = .ok plan := by
  have fine : (compile folderSetting folderSchema nestedRequest .exclude false []).isOk = true := by
    decide +kernel
  obtain ⟨plan, compiled⟩ := ok_of_isOk fine
  have depth : groupDepth nestedRequest.filter = 2 := by decide +kernel
  refine ⟨plan, (depth_bound_is_exact rfl compiled (by decide)).trans ?_,
    (depth_bound_is_exact rfl compiled (by decide)).trans ?_⟩
  · rw [depth]
    rfl
  · rw [depth]
    rfl

end Curator.Sample
