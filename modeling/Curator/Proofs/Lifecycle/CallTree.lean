import Curator.Model.Basic
import Curator.Proofs.Lifecycle.Blind
/-!
# Trees of calls

Operations that call operations, from their bodies and from the hooks for their begin and completion,
with failures anywhere and some of them swallowed.  A tree of such calls is carried out by the very
operation that puts work between begin and completion, with marks in the journal where its parts
start and end.  What the marks leave in the journal is left open, so they change nothing else.
-/

set_option autoImplicit false

namespace Curator

open Session

/-- The moments of a call that leave a mark. -/
inductive Mark where
  /-- The call is made, and finds an operation under way or none. -/
  | called (begun : Bool)
  | beginning
  | begun
  | entering
  | left
  | completing
  | completed
  deriving DecidableEq, Repr

/-- What a tree of calls is seen to do. -/
inductive Happening where
  | mark (m : Mark)
  | made (entry : Entry)

/-- The entries of happenings, where the marks show as given. -/
def journal (shown : Mark → List Entry) (happenings : List Happening) : List Entry :=
  happenings.flatMap fun
    | .mark m => shown m
    | .made entry => [entry]

/-- Work of one model: operations within operations, and work of its own between them. -/
inductive CallTree : Type → Type 1 where
  | done {α : Type} (a : α) : CallTree α
  | own {α β : Type} (work : Session α) (blind : work.Blind) (next : α → CallTree β) : CallTree β
  | call {α β : Type} (begin complete : CallTree Unit) (body : CallTree α)
      (next : α → CallTree β) : CallTree β
  /-- Work whose failure goes no further. -/
  | attempt {α β : Type} (body : CallTree α) (next : Except Failure α → CallTree β) : CallTree β

/-- Leaves a mark. -/
def Session.note (entries : List Entry) : Session Unit :=
  fun s => ⟨.ok (), s, entries⟩

/-- Marks the call of an operation with what it finds. -/
def Session.noteCalled (shown : Mark → List Entry) : Session Unit :=
  fun s => ⟨.ok (), s, shown (.called s.model.begun)⟩

/-- Work between two marks; the second one is left if it does not fail. -/
def Session.between {α : Type} (before after : List Entry) (work : Session α) : Session α := do
  note before
  let a ← work
  note after
  pure a

namespace CallTree

/-- Carries a tree out, with marks that show as given. -/
def run (shown : Mark → List Entry) : {α : Type} → CallTree α → Session α
  | _, .done a => pure a
  | _, .own work _ next => do
    let a ← work
    (next a).run shown
  | _, .call begin complete body next => do
    noteCalled shown
    let a ←
      outermost
        (between (shown .beginning) (shown .begun) (begin.run shown))
        (between (shown .completing) (shown .completed) (complete.run shown))
        (between (shown .entering) (shown .left) (body.run shown))
    (next a).run shown
  | _, .attempt body next => do
    let outcome ← outcomeOf (body.run shown)
    (next outcome).run shown

end CallTree

/-! ## Marks change nothing else -/

/-- Work that comes to the same outcome and the same state by the same happenings, whatever its marks
show as. -/
def Session.Leaves {α : Type} (work : (Mark → List Entry) → Session α) (s : SessionState)
    (outcome : Except Failure α) (state : SessionState) (happenings : List Happening) : Prop :=
  ∀ shown, work shown s = ⟨outcome, state, journal shown happenings⟩

theorem journal_append (shown : Mark → List Entry) (first second : List Happening) :
    journal shown (first ++ second) = journal shown first ++ journal shown second :=
  List.flatMap_append

theorem journal_made (shown : Mark → List Entry) (entries : List Entry) :
    journal shown (entries.map .made) = entries := by
  induction entries with
  | nil => rfl
  | cons entry rest ih => exact congrArg (entry :: ·) ih

theorem journal_mark (shown : Mark → List Entry) (m : Mark) :
    journal shown [.mark m] = shown m :=
  List.append_nil (shown m)

namespace Session

variable {α β : Type} {s middle state : SessionState}

theorem leaves_pure (a : α) : Leaves (fun _ => pure a) s (.ok a) s [] := fun _ => rfl

theorem leaves_work (work : Session α) :
    Leaves (fun _ => work) s (work s).outcome (work s).state ((work s).entries.map .made) := by
  intro shown
  rw [journal_made]

theorem leaves_note (m : Mark) : Leaves (fun shown => note (shown m)) s (.ok ()) s [.mark m] := by
  intro shown
  rw [journal_mark]
  rfl

theorem leaves_noteCalled :
    Leaves noteCalled s (.ok ()) s [.mark (.called s.model.begun)] := by
  intro shown
  rw [journal_mark]
  rfl

theorem Leaves.listed {work : (Mark → List Entry) → Session α} {outcome : Except Failure α}
    {happenings others : List Happening} (leaves : Leaves work s outcome state happenings)
    (same : happenings = others) : Leaves work s outcome state others :=
  same ▸ leaves

theorem bind_ran_ok {work : Session α} {k : α → Session β} {a : α} {entries : List Entry}
    (ran : work s = ⟨.ok a, state, entries⟩) :
    (work >>= k) s =
      ⟨(k a state).outcome, (k a state).state, entries ++ (k a state).entries⟩ := by
  simp only [Bind.bind, andThen]
  rw [ran]

theorem bind_ran_error {work : Session α} {k : α → Session β} {failure : Failure}
    {entries : List Entry} (ran : work s = ⟨.error failure, state, entries⟩) :
    (work >>= k) s = ⟨.error failure, state, entries⟩ := by
  simp only [Bind.bind, andThen]
  rw [ran]

theorem Leaves.bind_ok {first : (Mark → List Entry) → Session α}
    (k : (Mark → List Entry) → α → Session β) {a : α} {outcome : Except Failure β}
    {before after : List Happening} (head : Leaves first s (.ok a) middle before)
    (tail : Leaves (fun shown => k shown a) middle outcome state after) :
    Leaves (fun shown => first shown >>= k shown) s outcome state (before ++ after) := by
  intro shown
  have rest : k shown a middle = _ := tail shown
  refine (bind_ran_ok (head shown)).trans ?_
  rw [rest, journal_append]

theorem Leaves.bind_error {first : (Mark → List Entry) → Session α}
    (k : (Mark → List Entry) → α → Session β) {failure : Failure}
    {before : List Happening} (head : Leaves first s (.error failure) state before) :
    Leaves (fun shown => first shown >>= k shown) s (.error failure) state before :=
  fun shown => bind_ran_error (head shown)

theorem Leaves.outcomeOf {work : (Mark → List Entry) → Session α} {outcome : Except Failure α}
    {happenings : List Happening} (leaves : Leaves work s outcome state happenings) :
    Leaves (fun shown => outcomeOf (work shown)) s (.ok outcome) state happenings := by
  intro shown
  have ran : work shown s = _ := leaves shown
  simp only [Session.outcomeOf, ran]

/-- The mark behind work is left exactly if the work ends normally. -/
theorem Leaves.between {work : (Mark → List Entry) → Session α} {outcome : Except Failure α}
    {happenings : List Happening} (leaves : Leaves work s outcome state happenings)
    (before after : Mark) :
    Leaves (fun shown => between (shown before) (shown after) (work shown)) s outcome state
      (.mark before :: happenings ++ if outcome.toBool then [.mark after] else []) := by
  unfold Session.between
  have start : Leaves (fun shown => note (shown before)) s _ _ _ := leaves_note before
  let rest := fun (shown : Mark → List Entry) (a : α) => do
    note (shown after)
    pure a
  cases outcome with
  | error failure =>
    have unmarked : (Happening.mark before :: happenings ++
        if (Except.error failure : Except Failure α).toBool then [.mark after] else []) =
        [.mark before] ++ happenings := by simp [Except.toBool]
    rw [unmarked]
    exact start.bind_ok (fun shown _ => work shown >>= rest shown) (leaves.bind_error rest)
  | ok a =>
    have last := (leaves_note (s := state) after).bind_ok (fun _ _ => pure a) (leaves_pure a)
    have marked : (Happening.mark before :: happenings ++
        if (Except.ok a : Except Failure α).toBool then [.mark after] else []) =
        [.mark before] ++ (happenings ++ ([.mark after] ++ [])) := by simp [Except.toBool]
    rw [marked]
    exact start.bind_ok (fun shown _ => work shown >>= rest shown) (leaves.bind_ok rest last)

/-- Within another operation, an operation is its work. -/
theorem Leaves.outermost_begun {begin complete : (Mark → List Entry) → Session Unit}
    {work : (Mark → List Entry) → Session α} {outcome : Except Failure α}
    {happenings : List Happening} (leaves : Leaves work s outcome state happenings)
    (inside : s.model.begun = true) :
    Leaves (fun shown => outermost (begin shown) (complete shown) (work shown)) s outcome state
      happenings := by
  intro shown
  simp only [outermost, inside, if_true]
  exact leaves shown

/-- By itself, an operation is its work between begin and completion, and leaves an idle model. -/
theorem Leaves.outermost_idle {begin complete : (Mark → List Entry) → Session Unit}
    {work : (Mark → List Entry) → Session α} {outcome : Except Failure α}
    {happenings : List Happening}
    (leaves : Leaves (fun shown => do
      begin shown
      let result ← work shown
      complete shown
      pure result) (s.inside true) outcome state happenings)
    (idle : s.model.begun = false) :
    Leaves (fun shown => outermost (begin shown) (complete shown) (work shown)) s outcome
      { state with model := .idle } happenings := by
  intro shown
  have whole := leaves shown
  simp only [SessionState.inside] at whole
  simp only [outermost, idle, Bool.false_eq_true, if_false]
  rw [whole]

end Session

/-! ## Inside an operation -/

/-- What can happen inside an operation: no begin and no completion, and every call finds an
operation under way. -/
def Happening.Nested : Happening → Prop
  | .mark (.called begun) => begun = true
  | .mark .entering => True
  | .mark .left => True
  | .mark _ => False
  | .made _ => True

/-- Work inside an operation, which leaves the operation under way. -/
structure Session.Stays {α : Type} (work : (Mark → List Entry) → Session α) (s : SessionState)
    (outcome : Except Failure α) (state : SessionState) (happenings : List Happening) : Prop where
  leaves : Leaves work s outcome state happenings
  begun : state.model.begun = true
  nested : ∀ h ∈ happenings, h.Nested

theorem Happening.nested_append {first second : List Happening}
    (before : ∀ h ∈ first, h.Nested) (after : ∀ h ∈ second, h.Nested) :
    ∀ h ∈ first ++ second, h.Nested := by
  intro h member
  rcases List.mem_append.mp member with member | member
  · exact before h member
  · exact after h member

theorem Happening.nested_mark {m : Mark} (nested : (Happening.mark m).Nested) :
    ∀ h ∈ [Happening.mark m], h.Nested := by
  intro h member
  rw [List.mem_singleton.mp member]
  exact nested

theorem Session.Stays.bind {α β : Type} {s middle : SessionState}
    {first : (Mark → List Entry) → Session α} (k : (Mark → List Entry) → α → Session β)
    {outcome : Except Failure α} {before : List Happening}
    (head : Stays first s outcome middle before)
    (tail : ∀ a, ∃ outcome state after,
      Stays (fun shown => k shown a) middle outcome state after) :
    ∃ outcome state happenings,
      Stays (fun shown => first shown >>= k shown) s outcome state happenings := by
  cases outcome with
  | error failure => exact ⟨_, _, _, head.leaves.bind_error k, head.begun, head.nested⟩
  | ok a =>
    obtain ⟨outcome, state, after, tail⟩ := tail a
    exact ⟨_, _, _, head.leaves.bind_ok k tail.leaves, tail.begun,
      Happening.nested_append head.nested tail.nested⟩

/-- Inside an operation a tree of calls begins and completes nothing, and leaves the operation under
way. -/
theorem CallTree.stays {α : Type} (tree : CallTree α) (s : SessionState)
    (inside : s.model.begun = true) :
    ∃ outcome state happenings,
      Stays (fun shown => tree.run shown) s outcome state happenings := by
  induction tree generalizing s with
  | done a => exact ⟨_, _, _, leaves_pure a, inside, fun _ member => nomatch member⟩
  | own work blind next ih =>
    have begun : (work s).state.model.begun = true := by rw [blind.keeps_begun, inside]
    have nested : ∀ h ∈ (work s).entries.map Happening.made, h.Nested := by
      intro h member
      obtain ⟨entry, _, rfl⟩ := List.mem_map.mp member
      trivial
    have stays : Stays (fun _ => work) s _ _ _ := ⟨leaves_work work, begun, nested⟩
    exact stays.bind (fun shown a => (next a).run shown) fun a => ih a _ begun
  | call begin complete body next _ _ bodyStays ih =>
    -- an operation is under way, so of the three parts only the body runs
    have called : Stays noteCalled s _ _ _ :=
      ⟨leaves_noteCalled, inside, Happening.nested_mark inside⟩
    obtain ⟨outcome, state, happenings, stays⟩ := bodyStays s inside
    have marked := stays.leaves.between .entering .left
    have last : ∀ h ∈ if outcome.toBool then [Happening.mark .left] else [], h.Nested := by
      split
      · exact Happening.nested_mark trivial
      · exact fun _ member => nomatch member
    have nested := Happening.nested_append
      (Happening.nested_append (Happening.nested_mark (m := .entering) trivial) stays.nested) last
    have skipped : Stays (fun shown => outermost
        (between (shown .beginning) (shown .begun) (begin.run shown))
        (between (shown .completing) (shown .completed) (complete.run shown))
        (between (shown .entering) (shown .left) (body.run shown))) s outcome state _ :=
      ⟨marked.outermost_begun inside, stays.begun, nested⟩
    exact called.bind _ fun _ =>
      skipped.bind (fun shown a => (next a).run shown) fun a => ih a _ skipped.begun
  | attempt body next bodyStays ih =>
    obtain ⟨outcome, state, happenings, stays⟩ := bodyStays s inside
    have swallowed : Stays (fun shown => outcomeOf (body.run shown)) s _ _ _ :=
      ⟨stays.leaves.outcomeOf, stays.begun, stays.nested⟩
    exact swallowed.bind (fun shown result => (next result).run shown) fun result =>
      ih result _ swallowed.begun

/-! ## Outside of operations -/

/-- What a call outside of operations is seen to do, by the happenings of its begin, its body and its
completion, and by which of these end normally. -/
def wholeCall (first second third : List Happening) (began worked ended : Bool) :
    List Happening :=
  .mark (.called false) :: .mark .beginning :: first ++
    if began then
      .mark .begun :: .mark .entering :: second ++
        if worked then
          .mark .left :: .mark .completing :: third ++ if ended then [.mark .completed] else []
        else []
    else []

/-- A call outside of operations runs its parts one after the other and leaves an idle model. -/
theorem CallTree.leaves_call {α : Type} {begin complete : CallTree Unit} {body : CallTree α}
    {s state : SessionState} {outcome : Except Failure α} {happenings : List Happening}
    (parts : Leaves (fun shown => do
      between (shown .beginning) (shown .begun) (begin.run shown)
      let a ← between (shown .entering) (shown .left) (body.run shown)
      between (shown .completing) (shown .completed) (complete.run shown)
      pure a) (s.inside true) outcome state happenings)
    (idle : s.model.begun = false) :
    Leaves (fun shown => (call begin complete body .done).run shown) s outcome
      { state with model := .idle } (.mark (.called false) :: happenings) := by
  have called : Leaves noteCalled s _ _ _ := leaves_noteCalled
  rw [idle] at called
  let marked := fun (shown : Mark → List Entry) => outermost
    (between (shown .beginning) (shown .begun) (begin.run shown))
    (between (shown .completing) (shown .completed) (complete.run shown))
    (between (shown .entering) (shown .left) (body.run shown))
  have whole : Leaves marked s _ _ _ := parts.outermost_idle idle
  have unfolded : (fun shown => (call begin complete body .done).run shown) =
      fun shown => noteCalled shown >>= fun _ => marked shown := by
    funext shown
    simp only [run, bind_pure, marked]
  rw [unfolded]
  exact called.bind_ok (fun shown _ => marked shown) whole

/-- Each part of a call runs behind a part that ended normally. -/
theorem CallTree.leaves_whole {α : Type} {begin complete : CallTree Unit} {body : CallTree α}
    {s beganState workedState endedState : SessionState} {began ended : Except Failure Unit}
    {worked : Except Failure α} {first second third : List Happening}
    (begins : Leaves (fun shown => begin.run shown) (s.inside true) began beganState first)
    (works : Leaves (fun shown => body.run shown) beganState worked workedState second)
    (ends : Leaves (fun shown => complete.run shown) workedState ended endedState third)
    (idle : s.model.begun = false) :
    ∃ state : SessionState, state.model = .idle ∧
      Leaves (fun shown => (call begin complete body .done).run shown) s
        (do
          began
          let a ← worked
          ended
          pure a)
        state
        (wholeCall first second third began.toBool worked.toBool ended.toBool) := by
  have begins := begins.between .beginning .begun
  have works := works.between .entering .left
  have ends := ends.between .completing .completed
  let closed := fun (shown : Mark → List Entry) (a : α) => do
    between (shown .completing) (shown .completed) (complete.run shown)
    pure a
  let entered := fun (shown : Mark → List Entry) (_ : Unit) =>
    between (shown .entering) (shown .left) (body.run shown) >>= closed shown
  cases began with
  | error failure =>
    exact ⟨_, rfl, leaves_call (begins.bind_error entered) idle⟩
  | ok _ =>
    cases worked with
    | error failure =>
      have all := leaves_call (begins.bind_ok entered (works.bind_error closed)) idle
      exact ⟨{ workedState with model := .idle }, rfl,
        all.listed (by simp [wholeCall, Except.toBool])⟩
    | ok a =>
      cases ended with
      | error failure =>
        have all := leaves_call (begins.bind_ok entered
          (works.bind_ok closed (ends.bind_error fun _ _ => pure a))) idle
        exact ⟨{ endedState with model := .idle }, rfl,
          all.listed (by simp [wholeCall, Except.toBool])⟩
      | ok _ =>
        have all := leaves_call (begins.bind_ok entered
          (works.bind_ok closed (ends.bind_ok (fun _ _ => pure a) (leaves_pure a)))) idle
        exact ⟨{ endedState with model := .idle }, rfl,
          all.listed (by simp [wholeCall, Except.toBool])⟩

/-- A call outside of operations: its begin comes before everything else and its completion after its
body, each exactly once, the body only behind a begin and the completion only behind a body that
ended normally.  Within the parts no call begins or completes and each finds an operation under way,
and the state that is left is idle. -/
theorem CallTree.outside {α : Type} (begin complete : CallTree Unit) (body : CallTree α)
    (s : SessionState) :
    ∃ first second third : List Happening,
      (∀ h ∈ first ++ second ++ third, h.Nested) ∧
      ∀ shown,
        let began := begin.run shown (s.inside true)
        let worked := body.run shown began.state
        let ended := complete.run shown worked.state
        let whole := (call begin complete body .done).run shown (s.inside false)
        began.entries = journal shown first ∧
        worked.entries = journal shown second ∧
        ended.entries = journal shown third ∧
        whole.entries = journal shown (wholeCall first second third
          began.outcome.toBool worked.outcome.toBool ended.outcome.toBool) ∧
        whole.outcome = (do
          began.outcome
          let a ← worked.outcome
          ended.outcome
          pure a) ∧
        whole.state.model = .idle := by
  -- each part starts in the state the part before it left, where the operation is under way
  obtain ⟨began, beganState, first, begins⟩ := begin.stays (s.inside true) rfl
  obtain ⟨worked, workedState, second, works⟩ := body.stays beganState begins.begun
  obtain ⟨ended, endedState, third, ends⟩ := complete.stays workedState works.begun
  have nested := Happening.nested_append (Happening.nested_append begins.nested works.nested)
    ends.nested
  refine ⟨first, second, third, nested, fun shown => ?_⟩
  have beginRan : begin.run shown (s.inside true) = _ := begins.leaves shown
  have bodyRan : body.run shown beganState = _ := works.leaves shown
  have completeRan : complete.run shown workedState = _ := ends.leaves shown
  simp only [beginRan, bodyRan, completeRan, true_and]
  obtain ⟨state, left_idle, whole⟩ :=
    leaves_whole (s := s.inside false) begins.leaves works.leaves ends.leaves rfl
  have wholeRan : (call begin complete body .done).run shown (s.inside false) = _ := whole shown
  rw [wholeRan]
  exact ⟨rfl, rfl, left_idle⟩

end Curator
