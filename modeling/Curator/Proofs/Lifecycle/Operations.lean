import Curator.Proofs.Lifecycle.CallTree
import Curator.Proofs.Lifecycle.Calls
import Mathlib.Tactic.Choose
/-!
# Operations as trees of calls

Everything that can be asked of a model is carried out as a tree of calls whose operations stand
between the model's hooks for begin and completion.  The hooks of any point may ask the model for
more, down to the depth the engine allows.
-/

set_option autoImplicit false

namespace Curator

open Session Sql

/-! ## Trees in sequence -/

namespace CallTree

/-- A tree carried on with its result. -/
def bind : {α β : Type} → CallTree α → (α → CallTree β) → CallTree β
  | _, _, .done a, k => k a
  | _, _, .own work blind next, k => .own work blind fun a => (next a).bind k
  | _, _, .call begin complete body next, k => .call begin complete body fun a => (next a).bind k
  | _, _, .attempt body next, k => .attempt body fun result => (next result).bind k

theorem run_bind {α β : Type} (shown : Mark → List Entry) (tree : CallTree α)
    (k : α → CallTree β) :
    (tree.bind k).run shown = tree.run shown >>= fun a => (k a).run shown := by
  induction tree with
  | done a => simp only [bind, run, pure_bind]
  | own work blind next ih => simp only [bind, run, ih, bind_assoc]
  | call begin complete body next _ _ _ ih => simp only [bind, run, ih, bind_assoc]
  | attempt body next _ ih => simp only [bind, run, ih, bind_assoc]

/-- A tree carried out without a trace of its marks. -/
def plain {α : Type} (tree : CallTree α) : Session α :=
  tree.run fun _ => []

/-- A tree whose operations are those of a model: each stands between the model's hooks for begin and
completion.  How deep the steps of these hooks may still go is left open. -/
def Of (m : Model) : {α : Type} → CallTree α → Prop
  | _, .done _ => True
  | _, .own _ _ next => ∀ a, (next a).Of m
  | _, .call begin complete body next =>
    (∃ perform, begin.plain = { m with perform }.notify .begin [] none ∧
      complete.plain = { m with perform }.notify .complete [] none) ∧
    begin.Of m ∧ complete.Of m ∧ body.Of m ∧ ∀ a, (next a).Of m
  | _, .attempt body next => body.Of m ∧ ∀ result, (next result).Of m

theorem of_bind {m : Model} {α β : Type} {tree : CallTree α} {k : α → CallTree β}
    (head : tree.Of m) (tail : ∀ a, (k a).Of m) : (tree.bind k).Of m := by
  induction tree with
  | done a => exact tail a
  | own work blind next ih => exact fun a => ih a (head a) tail
  | call begin complete body next _ _ _ ih =>
    exact ⟨head.1, head.2.1, head.2.2.1, head.2.2.2.1, fun a => ih a (head.2.2.2.2 a) tail⟩
  | attempt body next _ ih => exact ⟨head.1, fun result => ih result (head.2 result) tail⟩

/-- Whose steps the hooks of a model perform does not matter to its trees. -/
theorem of_perform {m : Model} {perform : Step → Session Answer} {α : Type} {tree : CallTree α}
    (held : tree.Of { m with perform }) : tree.Of m := by
  induction tree with
  | done a => trivial
  | own work blind next ih => exact fun a => ih a (held a)
  | call begin complete body next beginOf completeOf bodyOf ih =>
    exact ⟨held.1, beginOf held.2.1, completeOf held.2.2.1, bodyOf held.2.2.2.1,
      fun a => ih a (held.2.2.2.2 a)⟩
  | attempt body next bodyOf ih => exact ⟨bodyOf held.1, fun result => ih result (held.2 result)⟩

end CallTree

/-- Work that is carried out as a tree of calls of a model. -/
def Session.Operates {α : Type} (m : Model) (work : Session α) : Prop :=
  ∃ tree : CallTree α, tree.Of m ∧ tree.plain = work

namespace Session

variable {m : Model} {α β : Type}

theorem Blind.operates {work : Session α} (blind : work.Blind) : Operates m work := by
  refine ⟨.own work blind .done, fun _ => trivial, ?_⟩
  simp only [CallTree.plain, CallTree.run, bind_pure]

theorem Operates.bind {first : Session α} {next : α → Session β} (head : Operates m first)
    (tail : ∀ a, Operates m (next a)) : Operates m (first >>= next) := by
  obtain ⟨tree, held, same⟩ := head
  choose trees tailOf sameTail using tail
  refine ⟨tree.bind trees, CallTree.of_bind held tailOf, ?_⟩
  rw [CallTree.plain, CallTree.run_bind, ← same]
  exact congrArg (tree.plain >>= ·) (funext sameTail)

theorem Operates.outcomeOf {work : Session α} (operates : Operates m work) :
    Operates m (outcomeOf work) := by
  obtain ⟨tree, held, same⟩ := operates
  refine ⟨.attempt tree .done, ⟨held, fun _ => trivial⟩, ?_⟩
  simp only [CallTree.plain, CallTree.run, bind_pure, ← same]

/-- Trees of a model are trees of that model, whoever performs the steps of its hooks. -/
theorem Operates.perform {perform : Step → Session Answer} {work : Session α} :
    Operates { m with perform } work ↔ Operates m work := by
  constructor
  · rintro ⟨tree, held, same⟩
    exact ⟨tree, CallTree.of_perform held, same⟩
  · rintro ⟨tree, held, same⟩
    exact ⟨tree, @CallTree.of_perform { m with perform } m.perform _ tree held, same⟩

theorem between_nothing (work : Session α) : between [] [] work = work := by
  funext s
  simp only [between, note, Bind.bind, andThen, Pure.pure, done]
  rcases work s with ⟨outcome, state, entries⟩
  cases outcome with
  | error failure => rfl
  | ok a => simp

/-- An operation whose hooks and whose work are trees of calls is one. -/
theorem Operates.tracked {work : Session α} (begins : Operates m (m.notify .begin [] none))
    (completes : Operates m (m.notify .complete [] none)) (operates : Operates m work) :
    Operates m (m.tracked work) := by
  obtain ⟨begin, beginOf, sameBegin⟩ := begins
  obtain ⟨complete, completeOf, sameComplete⟩ := completes
  obtain ⟨body, bodyOf, same⟩ := operates
  refine ⟨.call begin complete body .done, ?_, ?_⟩
  · exact ⟨⟨m.perform, sameBegin, sameComplete⟩, beginOf, completeOf, bodyOf, fun _ => trivial⟩
  · simp only [CallTree.plain, CallTree.run, bind_pure, between_nothing] at same sameBegin sameComplete ⊢
    rw [same, sameBegin, sameComplete]
    rfl

end Session

end Curator
