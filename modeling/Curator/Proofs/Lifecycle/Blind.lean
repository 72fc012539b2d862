import Curator.Database.Statement
import Curator.Event.Emit
/-!
# Blind work

Work that neither sees nor changes whether an operation is under way.  A statement is of this kind.
-/

set_option autoImplicit false

namespace Curator

/-! ## Laws of sessions -/

namespace Session

variable {α β γ : Type}

theorem andThen_done (work : Session α) : work.andThen done = work := by
  funext s
  unfold andThen
  rcases ran : work s with ⟨outcome, state, entries⟩
  cases outcome with
  | error failure => rfl
  | ok a => simp [done]

theorem andThen_assoc (first : Session α) (second : α → Session β) (third : β → Session γ) :
    (first.andThen second).andThen third = first.andThen fun a => (second a).andThen third := by
  funext s
  unfold andThen
  rcases first s with ⟨outcome, state, entries⟩
  cases outcome with
  | error failure => rfl
  | ok a =>
    simp only
    cases (second a state).outcome with
    | error failure => rfl
    | ok b => simp [List.append_assoc]

instance : LawfulMonad Session :=
  LawfulMonad.mk' Session andThen_done (fun _ _ => rfl) andThen_assoc

theorem map_state (f : α → β) (work : Session α) (s : SessionState) :
    ((f <$> work) s).state = (work s).state := by
  rw [← bind_pure_comp]
  simp only [Bind.bind, andThen]
  cases (work s).outcome with
  | error failure => rfl
  | ok a => rfl

/-! ### Runs of sequences -/

section

variable {first : Session α} {next : α → Session β} {s : SessionState}

theorem ran_failed {failure : Failure} (came : (first s).outcome = .error failure) :
    (first >>= next) s = ⟨.error failure, (first s).state, (first s).entries⟩ := by
  simp only [Bind.bind, andThen, came]

theorem ran_on {a : α} (came : (first s).outcome = .ok a) :
    (first >>= next) s = ⟨(next a (first s).state).outcome, (next a (first s).state).state,
      (first s).entries ++ (next a (first s).state).entries⟩ := by
  simp only [Bind.bind, andThen, came]

theorem returned_of_bind {b : β} (returned : ((first >>= next) s).outcome = .ok b) :
    ∃ a, (first s).outcome = .ok a ∧ (next a (first s).state).outcome = .ok b := by
  cases came : (first s).outcome with
  | error failure =>
    rw [ran_failed came] at returned
    cases returned
  | ok a =>
    rw [ran_on came] at returned
    exact ⟨a, rfl, returned⟩

theorem record_bind (entry : Entry) (next : Unit → Session β) (s : SessionState) :
    (record entry >>= next) s =
      ⟨(next () s).outcome, (next () s).state, entry :: (next () s).entries⟩ := rfl

theorem ran_returning (first : Session α) (b : β) (s : SessionState) :
    let ran := (do let _ ← first; pure b : Session β) s
    ran.entries = (first s).entries ∧ ran.state = (first s).state ∧
      ∀ returned, ran.outcome = .ok returned → returned = b := by
  intro ran
  simp only [ran]
  cases came : (first s).outcome with
  | error failure =>
    rw [ran_failed came]
    exact ⟨rfl, rfl, nofun⟩
  | ok a =>
    rw [ran_on came]
    refine ⟨List.append_nil _, rfl, fun returned same => ?_⟩
    cases same
    rfl

end

end Session

/-- The state as it is inside an operation, or outside of one. -/
def SessionState.inside (s : SessionState) (begun : Bool) : SessionState :=
  { s with model := { s.model with begun } }

/-- Work that does the same inside an operation and outside of one. -/
def Session.Blind {α : Type} (work : Session α) : Prop :=
  ∀ s begun, work (s.inside begun) = { work s with state := (work s).state.inside begun }

namespace Session

variable {α β : Type}

theorem Blind.keeps_begun {work : Session α} (blind : work.Blind) (s : SessionState) :
    (work s).state.model.begun = s.model.begun := by
  have same := congrArg (fun ran => ran.state.model.begun) (blind s s.model.begun)
  exact same

/-! ## Composition -/

theorem Blind.bind {first : Session α} {next : α → Session β} (head : first.Blind)
    (tail : ∀ a, (next a).Blind) : Blind (first >>= next) := by
  intro s begun
  simp only [Bind.bind, andThen]
  rw [head s begun]
  cases (first s).outcome with
  | error failure => rfl
  | ok a =>
    simp only
    rw [tail a (first s).state begun]

open Sql

end Session

end Curator
