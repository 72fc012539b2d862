import Mathlib.Data.List.Forall2
/-!
# Results of computations

What the success of a computation in several steps says about its steps.
-/

set_option autoImplicit false

namespace Curator.Outcome

variable {ε α β σ : Type}

theorem bind_ok {x : Except ε α} {f : α → Except ε β} {r : β} (ok : (x >>= f) = .ok r) :
    ∃ a, x = .ok a ∧ f a = .ok r := by
  cases x with
  | error e => cases ok
  | ok a => exact ⟨a, rfl, ok⟩

theorem pure_ok {a b : α} (ok : (pure a : Except ε α) = .ok b) : a = b := by
  cases ok
  rfl

theorem ok_of_isOk {x : Except ε α} (ok : x.isOk = true) : ∃ a, x = .ok a := by
  cases x with
  | error e => cases ok
  | ok a => exact ⟨a, rfl⟩

theorem ok_bind (a : α) (f : α → Except ε β) : ((Except.ok a : Except ε α) >>= f) = f a := rfl

/-- Computations that have the same results have the same results of what is done with them. -/
theorem bind_ok_congr {x y : Except ε α} {f : α → Except ε β} {r : β}
    (same : ∀ a, x = .ok a ↔ y = .ok a) : (x >>= f) = .ok r ↔ (y >>= f) = .ok r := by
  constructor
  · intro ok
    obtain ⟨a, first, last⟩ := bind_ok ok
    rw [(same a).mp first]
    exact last
  · intro ok
    obtain ⟨a, first, last⟩ := bind_ok ok
    rw [(same a).mpr first]
    exact last

theorem toOption_ok_iff {x : Except ε α} {a : α} : x.toOption = some a ↔ x = .ok a := by
  cases x with
  | error e => exact ⟨nofun, nofun⟩
  | ok b => exact ⟨fun same => congrArg _ (Option.some.inj same), fun same => by cases same; rfl⟩

/-- A computation whose last step is changed in its result. -/
theorem bind_map_congr {γ : Type} {x : Except ε α} {f : α → Except ε γ} {g : α → Except ε β}
    {h : β → γ} (same : ∀ a, f a = h <$> g a) : (x >>= f) = h <$> (x >>= g) := by
  rw [map_bind]
  exact bind_congr same

theorem mapM_ok {f : α → Except ε β} {xs : List α} {ys : List β} (ok : xs.mapM f = .ok ys) :
    List.Forall₂ (fun x y => f x = .ok y) xs ys := by
  induction xs generalizing ys with
  | nil =>
    cases ok
    exact .nil
  | cons x rest ih =>
    rw [List.mapM_cons] at ok
    obtain ⟨y, head, ok⟩ := bind_ok ok
    obtain ⟨others, tail, ok⟩ := bind_ok ok
    cases pure_ok ok
    exact .cons head (ih tail)

theorem mem_of_forall₂ {R : α → β → Prop} {xs : List α} {ys : List β} {y : β}
    (pairs : List.Forall₂ R xs ys) (member : y ∈ ys) : ∃ x ∈ xs, R x y := by
  induction pairs with
  | nil => cases member
  | cons head _ ih =>
    rcases List.mem_cons.mp member with rfl | later
    · exact ⟨_, List.mem_cons_self, head⟩
    · obtain ⟨x, inside, related⟩ := ih later
      exact ⟨x, List.mem_cons_of_mem _ inside, related⟩

theorem mem_of_mapM_ok {f : α → Except ε β} {xs : List α} {ys : List β} {y : β}
    (ok : xs.mapM f = .ok ys) (member : y ∈ ys) : ∃ x ∈ xs, f x = .ok y :=
  mem_of_forall₂ (R := fun x y => f x = .ok y) (mapM_ok ok) member

/-- What every step of a fold keeps holds at its end. -/
theorem foldlM_keeps {f : σ → α → Except ε σ} {P : σ → Prop} {xs : List α} {s t : σ}
    (step : ∀ s x t, x ∈ xs → P s → f s x = .ok t → P t) (start : P s)
    (ok : xs.foldlM f s = .ok t) : P t := by
  induction xs generalizing s with
  | nil =>
    cases ok
    exact start
  | cons x rest ih =>
    rw [List.foldlM_cons] at ok
    obtain ⟨next, first, ok⟩ := bind_ok ok
    have kept := step s x next List.mem_cons_self start first
    exact ih (fun s y t member => step s y t (List.mem_cons_of_mem x member)) kept ok

theorem foldlM_append_ok {f : σ → α → Except ε σ} {xs ys : List α} {s t : σ}
    (ok : (xs ++ ys).foldlM f s = .ok t) :
    ∃ middle, xs.foldlM f s = .ok middle ∧ ys.foldlM f middle = .ok t := by
  rw [List.foldlM_append] at ok
  exact bind_ok ok

/-! ## Ways to fail -/

/-- A computation that fails, if it does, as `P` says. -/
def FailsOnly (x : Except ε α) (P : ε → Prop) : Prop := ∀ e, x = .error e → P e

variable {P Q : ε → Prop}

theorem failsOnly_ok (a : α) : FailsOnly (.ok a : Except ε α) P := nofun

theorem failsOnly_pure (a : α) : FailsOnly (pure a : Except ε α) P := nofun

theorem failsOnly_error {e : ε} (allowed : P e) : FailsOnly (.error e : Except ε α) P := by
  intro other fails
  cases fails
  exact allowed

/-- A computation that does not fail has a result. -/
theorem ok_of_never {x : Except ε α} (never : FailsOnly x fun _ => False) : ∃ a, x = .ok a := by
  cases x with
  | error e => exact (never e rfl).elim
  | ok a => exact ⟨a, rfl⟩

theorem FailsOnly.mono {x : Except ε α} (fails : FailsOnly x P) (weaker : ∀ e, P e → Q e) :
    FailsOnly x Q :=
  fun e error => weaker e (fails e error)

theorem FailsOnly.bind {x : Except ε α} {f : α → Except ε β} (first : FailsOnly x P)
    (then_ : ∀ a, x = .ok a → FailsOnly (f a) P) : FailsOnly (x >>= f) P := by
  cases x with
  | error e => exact failsOnly_error (first e rfl)
  | ok a => exact then_ a rfl

theorem failsOnly_mapM {f : α → Except ε β} {xs : List α} (each : ∀ x ∈ xs, FailsOnly (f x) P) :
    FailsOnly (xs.mapM f) P := by
  induction xs with
  | nil => exact failsOnly_pure _
  | cons x rest ih =>
    rw [List.mapM_cons]
    refine (each x List.mem_cons_self).bind fun y _ => ?_
    refine (ih fun z member => each z (List.mem_cons_of_mem x member)).bind fun ys _ => ?_
    exact failsOnly_pure _

/-- Where the steps of a fold keep `K`, each of them may rely on it. -/
theorem failsOnly_foldlM {K : σ → Prop} {f : σ → α → Except ε σ} {xs : List α} {s : σ}
    (each : ∀ s x, x ∈ xs → K s → FailsOnly (f s x) P)
    (keeps : ∀ s x t, x ∈ xs → K s → f s x = .ok t → K t) (start : K s) :
    FailsOnly (xs.foldlM f s) P := by
  induction xs generalizing s with
  | nil => exact failsOnly_pure _
  | cons x rest ih =>
    rw [List.foldlM_cons]
    refine (each s x List.mem_cons_self start).bind fun t stepped => ?_
    refine ih (fun s y member => each s y (List.mem_cons_of_mem x member))
      (fun s y t member => keeps s y t (List.mem_cons_of_mem x member)) ?_
    exact keeps s x t List.mem_cons_self start stepped

end Curator.Outcome
