import Curator.Proofs.Event.Order
import Curator.Proofs.Lifecycle.Blind
/-!
# Delivery in order

Whatever is done with a bus, by whom, and while which events are delivered, each event reaches the
subscriptions that stand when it is emitted, in their order, up to the first listener that fails.
Work of this kind is a tree of changes and emissions, in which each call of a listener is work of the
same kind.  It is watched while it is done, and watching changes nothing.
-/

set_option autoImplicit false

namespace Curator

open EventBus

/-! ## Listeners of any kind -/

namespace Session

/-- Tells the listeners of some subscriptions in order, where `listen` is what they do in which
place. -/
def deliverTo (listen : Nat → Subscription → Session Unit) (payload : List Payload) :
    Nat → List Subscription → Session Unit
  | _, [] => pure ()
  | place, subscription :: rest => do
    record (.heard subscription.label payload)
    listen place subscription
    deliverTo listen payload (place + 1) rest

def emitTo (listen : Nat → Subscription → Session Unit) (event : String)
    (payload : List Payload) : Session Unit := do
  let s ← state
  let subscriptions := s.bus.subscribed event
  log .debug (emitMessage event subscriptions.length)
  deliverTo listen payload 0 subscriptions

/-- A listener of a bus, which does what was fixed when it first subscribed. -/
def listening (send : String → List Payload → Session Unit) (subscription : Subscription) :
    Session Unit := do
  let s ← state
  busActions send (s.bus.actions subscription.label)

theorem deliver_eq_deliverTo (send : String → List Payload → Session Unit) (payload : List Payload)
    (place : Nat) (subscriptions : List Subscription) :
    deliver send payload subscriptions =
      deliverTo (fun _ => listening send) payload place subscriptions := by
  induction subscriptions generalizing place with
  | nil => rfl
  | cons subscription rest ih =>
    unfold deliver deliverTo
    rw [← ih (place + 1), listening]
    simp only [bind_assoc]

theorem emitWithin_eq_emitTo (depth : Nat) (event : String) (payload : List Payload) :
    emitWithin (depth + 1) event payload =
      emitTo (fun _ => listening (emitWithin depth)) event payload := by
  unfold emitWithin emitTo
  simp only [deliver_eq_deliverTo _ _ 0]

/-- Work that leaves the bus alone. -/
def LeavesBus {α : Type} (work : Session α) : Prop :=
  ∀ s, (work s).state.bus = s.bus

end Session

open Session

/-! ## Work on a bus -/

/-- Changes of a bus and emissions, with work of its own between them. -/
inductive BusWork : Type → Type 1 where
  | done {α : Type} (a : α) : BusWork α
  | own {α β : Type} (work : Session α) (apart : work.LeavesBus) (next : α → BusWork β) : BusWork β
  | alter {β : Type} (change : Change) (next : BusWork β) : BusWork β
  /-- An emission, with what the listener of each subscription does in its place. -/
  | emit {β : Type} (event : String) (payload : List Payload)
      (listen : Nat → Subscription → BusWork Unit) (next : BusWork β) : BusWork β
  /-- Work whose failure goes no further. -/
  | attempt {α β : Type} (body : BusWork α) (next : Except Failure α → BusWork β) : BusWork β

def Session.changeBus (change : Change) : Session Unit := do
  let s ← state
  setBus (change.apply s.bus)

/-- Does work on the bus of a session. -/
def BusWork.run {α : Type} : BusWork α → Session α
  | .done a => pure a
  | .own work _ next => do
    let a ← work
    (next a).run
  | .alter change next => do
    changeBus change
    next.run
  | .emit event payload listen next => do
    emitTo (fun place subscription => (listen place subscription).run) event payload
    next.run
  | .attempt body next => do
    let outcome ← outcomeOf body.run
    (next outcome).run

/-! ## Watching -/

/-- An emission that was watched. -/
structure Emission where
  /-- All changes of the bus before it. -/
  history : List Change
  event : String
  /-- The calls of listeners in order, each with whether the listener returned. -/
  calls : List (Subscription × Bool)

/-- What work has come to, with all changes of the bus until then and the emissions that were made. -/
structure Watched (α : Type) where
  outcome : Except Failure α
  history : List Change
  emissions : List Emission

/-- Work that is watched, after some changes of the bus. -/
def Watching (α : Type) : Type :=
  List Change → Session (Watched α)

namespace Watching

variable {α β : Type}

def done (a : α) : Watching α :=
  fun history => pure ⟨.ok a, history, []⟩

def andThen (first : Watching α) (next : α → Watching β) : Watching β := fun history => do
  let watched ← first history
  match watched.outcome with
  | .error failure => pure ⟨.error failure, watched.history, watched.emissions⟩
  | .ok a => do
    let later ← next a watched.history
    pure { later with emissions := watched.emissions ++ later.emissions }

def own (work : Session α) : Watching α := fun history => do
  let outcome ← Session.outcomeOf work
  pure ⟨outcome, history, []⟩

def alter (change : Change) : Watching Unit := fun history => do
  changeBus change
  pure ⟨.ok (), history ++ [change], []⟩

def outcomeOf (work : Watching α) : Watching (Except Failure α) := fun history => do
  let watched ← work history
  pure ⟨.ok watched.outcome, watched.history, watched.emissions⟩

/-- A delivery; the calls are given next to it. -/
def deliver (listen : Nat → Subscription → Watching Unit) (payload : List Payload) :
    Nat → List Subscription → List Change → Session (Watched Unit × List (Subscription × Bool))
  | _, [], history => pure (⟨.ok (), history, []⟩, [])
  | place, subscription :: rest, history => do
    record (.heard subscription.label payload)
    let called ← listen place subscription history
    match called.outcome with
    | .error _ => pure (called, [(subscription, false)])
    | .ok () => do
      let (later, calls) ← deliver listen payload (place + 1) rest called.history
      pure (⟨later.outcome, later.history, called.emissions ++ later.emissions⟩,
        (subscription, true) :: calls)

def emit (listen : Nat → Subscription → Watching Unit) (event : String) (payload : List Payload) :
    Watching Unit := fun history => do
  let s ← state
  let subscriptions := s.bus.subscribed event
  log .debug (emitMessage event subscriptions.length)
  let (told, calls) ← deliver listen payload 0 subscriptions history
  pure { told with emissions := ⟨history, event, calls⟩ :: told.emissions }

end Watching

/-- Does work and watches it. -/
def BusWork.watch {α : Type} : BusWork α → Watching α
  | .done a => .done a
  | .own work _ next => (Watching.own work).andThen fun a => (next a).watch
  | .alter change next => (Watching.alter change).andThen fun _ => next.watch
  | .emit event payload listen next =>
    (Watching.emit (fun place subscription => (listen place subscription).watch) event
      payload).andThen fun _ => next.watch
  | .attempt body next => body.watch.outcomeOf.andThen fun outcome => (next outcome).watch

/-! ## What is seen -/

/-- The calls of a delivery: one after the other from the first subscription on, up to the first
listener that fails. -/
structure Told (subscriptions : List Subscription) (calls : List (Subscription × Bool)) : Prop where
  fromFirst : calls.map (·.1) <+: subscriptions
  goOn : ∀ before call later, calls = before ++ call :: later → later ≠ [] → call.2 = true
  toLast : (∀ call ∈ calls, call.2 = true) → calls.map (·.1) = subscriptions

/-- An emission reaches what stood when it started, in order of priority and of subscription. -/
def Emission.InOrder (emission : Emission) : Prop :=
  ∃ order : List Ticket, order.Perm (standing emission.event 0 emission.history) ∧
    order.Pairwise Ticket.Before ∧ Told (order.map Ticket.subscription) emission.calls

theorem Told.none : Told [] [] :=
  ⟨List.nil_prefix, by simp, fun _ => rfl⟩

theorem Told.failed (subscription : Subscription) (rest : List Subscription) :
    Told (subscription :: rest) [(subscription, false)] := by
  refine ⟨List.prefix_append [subscription] rest, fun before call later split more => ?_, fun all => ?_⟩
  · cases before with
    | nil =>
      cases split
      exact absurd rfl more
    | cons first before => simp at split
  · exact absurd (all _ List.mem_cons_self) Bool.false_ne_true

theorem Told.cons {subscription : Subscription} {rest : List Subscription}
    {calls : List (Subscription × Bool)} (told : Told rest calls) :
    Told (subscription :: rest) ((subscription, true) :: calls) := by
  refine ⟨List.cons_prefix_cons.mpr ⟨rfl, told.fromFirst⟩, fun before call later split more => ?_,
    fun all => congrArg (subscription :: ·) (told.toLast (List.forall_mem_cons.mp all).2)⟩
  cases before with
  | nil =>
    cases split
    rfl
  | cons first before =>
    cases split
    exact told.goOn before call later rfl more

/-- What is watched from a bus with a history is the work itself, and all its emissions are in
order. -/
def Shadows {α : Type} (watch : Watching α) (work : Session α) : Prop :=
  ∀ history s, s.bus = after history → ∃ watched,
    watch history s = ⟨.ok watched, (work s).state, (work s).entries⟩ ∧
    watched.outcome = (work s).outcome ∧ (work s).state.bus = after watched.history ∧
    ∀ emission ∈ watched.emissions, emission.InOrder

section

variable {α β : Type}

theorem shadows_done (a : α) : Shadows (.done a) (pure a) :=
  fun _ _ held => ⟨_, rfl, rfl, held, nofun⟩

theorem shadows_own {work : Session α} (apart : work.LeavesBus) : Shadows (.own work) work :=
  fun history s held => ⟨⟨(work s).outcome, history, []⟩,
    congrArg (Ran.mk _ _) (List.append_nil _), rfl, (apart s).trans held, nofun⟩

theorem shadows_alter (change : Change) : Shadows (.alter change) (changeBus change) := by
  intro history s held
  refine ⟨⟨.ok (), history ++ [change], []⟩, rfl, rfl, ?_, nofun⟩
  rw [after_append, ← held]
  rfl

theorem Shadows.outcomeOf {watch : Watching α} {work : Session α} (shadows : Shadows watch work) :
    Shadows watch.outcomeOf (Session.outcomeOf work) := by
  intro history s held
  obtain ⟨watched, same, outcome, bus, inOrder⟩ := shadows history s held
  refine ⟨⟨.ok watched.outcome, watched.history, watched.emissions⟩, ?_, congrArg _ outcome, bus, inOrder⟩
  unfold Watching.outcomeOf
  rw [ran_on (congrArg Ran.outcome same), same]
  exact congrArg (Ran.mk _ _) (List.append_nil _)

theorem Shadows.andThen {watch : Watching α} {work : Session α} (shadows : Shadows watch work)
    {next : α → Watching β} {later : α → Session β} (goesOn : ∀ a, Shadows (next a) (later a)) :
    Shadows (watch.andThen next) (work >>= later) := by
  intro history s held
  obtain ⟨watched, same, outcome, bus, inOrder⟩ := shadows history s held
  unfold Watching.andThen
  rw [ran_on (congrArg Ran.outcome same), same]
  cases came : watched.outcome with
  | error failure =>
    rw [ran_failed (outcome.symm.trans came)]
    exact ⟨⟨.error failure, watched.history, watched.emissions⟩,
      congrArg (Ran.mk _ _) (List.append_nil _), rfl, bus, inOrder⟩
  | ok a =>
    obtain ⟨after, then_same, then_outcome, then_bus, then_inOrder⟩ :=
      goesOn a watched.history _ bus
    rw [ran_on (outcome.symm.trans came)]
    refine ⟨{ after with emissions := watched.emissions ++ after.emissions }, ?_, then_outcome,
      then_bus, List.forall_mem_append.mpr ⟨inOrder, then_inOrder⟩⟩
    simp only
    rw [ran_on (congrArg Ran.outcome then_same), then_same]
    exact congrArg (Ran.mk _ _) (congrArg (_ ++ ·) (List.append_nil _))

end

variable {listen : Nat → Subscription → Watching Unit} {hear : Nat → Subscription → Session Unit}
  {payload : List Payload}

/-- A delivery after changes: what is watched is the delivery, and its calls are told in order. -/
theorem Shadows.deliver (shadows : ∀ place subscription, Shadows (listen place subscription)
      (hear place subscription)) (subscriptions : List Subscription) (place : Nat)
    (history : List Change) (s : SessionState) (held : s.bus = after history) :
    ∃ watched calls,
      let ran := deliverTo hear payload place subscriptions s
      Watching.deliver listen payload place subscriptions history s =
        ⟨.ok (watched, calls), ran.state, ran.entries⟩ ∧
      watched.outcome = ran.outcome ∧ ran.state.bus = after watched.history ∧
      (∀ emission ∈ watched.emissions, emission.InOrder) ∧ Told subscriptions calls := by
  induction subscriptions generalizing place history s with
  | nil => exact ⟨_, _, rfl, rfl, held, nofun, .none⟩
  | cons subscription rest ih =>
    obtain ⟨called, same, outcome, bus, inOrder⟩ := shadows place subscription history s held
    unfold Watching.deliver deliverTo
    rw [record_bind, record_bind, ran_on (congrArg Ran.outcome same), same]
    cases came : called.outcome with
    | error failure =>
      rw [ran_failed (outcome.symm.trans came)]
      refine ⟨called, [(subscription, false)], ?_, came, bus, inOrder, .failed subscription rest⟩
      simp only [pure, done, List.append_nil]
    | ok _ =>
      obtain ⟨later, calls, then_same, then_outcome, then_bus, then_inOrder, told⟩ :=
        ih (place + 1) called.history _ bus
      rw [ran_on (outcome.symm.trans came)]
      refine ⟨⟨later.outcome, later.history, called.emissions ++ later.emissions⟩,
        (subscription, true) :: calls, ?_, then_outcome, then_bus,
        List.forall_mem_append.mpr ⟨inOrder, then_inOrder⟩, told.cons⟩
      simp only
      rw [ran_on (congrArg Ran.outcome then_same), then_same]
      simp only [pure, done, List.append_nil]

theorem Shadows.emit (shadows : ∀ place subscription, Shadows (listen place subscription)
      (hear place subscription)) (event : String) :
    Shadows (Watching.emit listen event payload) (emitTo hear event payload) := by
  intro history s held
  obtain ⟨told, calls, same, outcome, bus, inOrder, reached⟩ :=
    Shadows.deliver shadows (s.bus.subscribed event) 0 history s held
  obtain ⟨order, all, ordered, holds⟩ := serves_after history event
  refine ⟨{ told with emissions := ⟨history, event, calls⟩ :: told.emissions }, ?_, outcome, bus,
    List.forall_mem_cons.mpr ⟨⟨order, all, ordered, ?_⟩, inOrder⟩⟩
  · have watched : Watching.emit listen event payload history s =
        (record (.logged .debug (emitMessage event (s.bus.subscribed event).length)) >>= fun _ =>
          Watching.deliver listen payload 0 (s.bus.subscribed event) history >>= fun seen =>
            pure { seen.1 with emissions := ⟨history, event, seen.2⟩ :: seen.1.emissions }) s := rfl
    rw [watched, record_bind, ran_on (congrArg Ran.outcome same), same]
    exact congrArg (Ran.mk _ _) (congrArg (_ :: ·) (List.append_nil _))
  · rw [held, holds] at reached
    exact reached

/-- Whatever is done on a bus, each emission is in order. -/
theorem BusWork.shadows {α : Type} (work : BusWork α) : Shadows work.watch work.run := by
  induction work with
  | done a => exact shadows_done a
  | own work apart next ih => exact (shadows_own apart).andThen ih
  | alter change next ih => exact (shadows_alter change).andThen fun _ => ih
  | emit event payload listen next heard ih => exact (Shadows.emit heard event).andThen fun _ => ih
  | attempt body next inner ih => exact inner.outcomeOf.andThen ih

/-! ## What is asked of a bus -/

namespace BusWork

variable {α : Type}

theorem fail_leavesBus (failure : Failure) : (fail failure : Session α).LeavesBus := fun _ => rfl

/-- An action as work, where `send` is an emission and what follows it. -/
def act (send : String → List Payload → BusWork α → BusWork α) (action : BusAction)
    (next : Value → BusWork α) : BusWork α :=
  match action with
  | .fail category words => .own (fail (.reported category words)) (fail_leavesBus _) next
  | .subscribe event label priority actions =>
    .alter (.subscribe event label priority actions) (next .null)
  | .unsubscribe event label => .alter (.unsubscribe event label) (next .null)
  | .hasListeners event => .own state (fun _ => rfl) fun s => next (.bool (s.bus.hasListeners event))
  | .emit event payload => send event payload (next .null)

def acts (send : String → List Payload → BusWork Unit → BusWork Unit) :
    List BusAction → BusWork Unit
  | [] => .done ()
  | action :: rest => act send action fun _ => acts send rest

/-- An emission in which the listeners of the bus do what they do. -/
def sending : {α : Type} → Nat → String → List Payload → BusWork α → BusWork α
  | _, 0, _, _, next => .own (fail endless : Session Unit) (fail_leavesBus _) fun _ => next
  | _, depth + 1, event, payload, next =>
    .emit event payload (fun _ subscription => .own state (fun _ => rfl) fun s =>
      acts (sending depth) (s.bus.actions subscription.label)) next

/-- Actions from outside, each done whatever became of the ones before it. -/
def asked : List BusAction → (List (Except Failure Value) → BusWork α) → BusWork α
  | [], next => next []
  | action :: rest, next =>
    .attempt (act (sending greatestDepth) action .done) fun outcome =>
      asked rest fun outcomes => next (outcome :: outcomes)

theorem run_act {send : String → List Payload → BusWork α → BusWork α}
    {real : String → List Payload → Session Unit}
    (sends : ∀ event payload next, (send event payload next).run = (do real event payload; next.run))
    (action : BusAction) (next : Value → BusWork α) :
    (act send action next).run = (do
      let v ← busAction real action
      (next v).run) := by
  cases action with
  | fail category words => rfl
  | subscribe event label priority actions => rfl
  | unsubscribe event label => rfl
  | hasListeners event => rfl
  | emit event payload => exact (sends event payload _).trans (by simp [busAction])

theorem run_acts {send : String → List Payload → BusWork Unit → BusWork Unit}
    {real : String → List Payload → Session Unit}
    (sends : ∀ event payload next, (send event payload next).run = (do real event payload; next.run))
    (actions : List BusAction) : (acts send actions).run = busActions real actions := by
  induction actions with
  | nil => rfl
  | cons action rest ih =>
    unfold acts busActions
    rw [run_act sends, ih]

theorem run_sending {α : Type} (depth : Nat) (event : String) (payload : List Payload)
    (next : BusWork α) : (sending depth event payload next).run = (do
      emitWithin depth event payload
      next.run) := by
  induction depth generalizing α event payload with
  | zero => rfl
  | succ depth ih =>
    rw [emitWithin_eq_emitTo]
    have heard : listening (emitWithin depth) = fun subscription => (do
        let s ← state
        (acts (sending depth) (s.bus.actions subscription.label)).run) :=
      funext fun subscription => bind_congr fun s => (run_acts ih _).symm
    rw [heard]
    rfl

theorem run_asked (actions : List BusAction) (next : List (Except Failure Value) → BusWork α) :
    (asked actions next).run = (do
      let outcomes ← actions.mapM fun action => Session.outcomeOf (onBus action)
      (next outcomes).run) := by
  induction actions generalizing next with
  | nil => rfl
  | cons action rest ih =>
    have one : (act (sending greatestDepth) action .done).run = onBus action :=
      (run_act (run_sending greatestDepth) action .done).trans (bind_pure _)
    have step : (asked (action :: rest) next).run = (do
        let outcome ← Session.outcomeOf (act (sending greatestDepth) action .done).run
        (asked rest fun outcomes => next (outcome :: outcomes)).run) := rfl
    rw [step, one]
    simp only [ih, List.mapM_cons, bind_assoc, pure_bind]

end BusWork

/-- The calls of a bus from outside are work of this kind, an unsubscription takes away what it is
for, and in all such work, whatever the listeners do, each emission is in order. -/
theorem EventBus.emissions_in_order :
    (∀ actions : List BusAction, ∃ work : BusWork (List (Except Failure Value)),
      work.run = actions.mapM fun action => Session.outcomeOf (onBus action)) ∧
    (∀ (bus : EventBus) (event label : String),
      (bus.unsubscribe event label).listeners = bus.listeners ∧
      ∀ other, (bus.unsubscribe event label).subscribed other =
        if other = event then (bus.subscribed event).filter fun s => s.label != label
        else bus.subscribed other) ∧
    ∀ (α : Type) (work : BusWork α) (history : List Change) (s : SessionState),
      let start := { s with bus := after history }
      ∃ watched, work.watch history start =
          ⟨.ok watched, (work.run start).state, (work.run start).entries⟩ ∧
        watched.outcome = (work.run start).outcome ∧
        (work.run start).state.bus = after watched.history ∧
        ∀ emission ∈ watched.emissions, emission.InOrder :=
  ⟨fun actions => ⟨BusWork.asked actions .done, (BusWork.run_asked actions .done).trans (bind_pure _)⟩,
    fun bus event label => ⟨rfl, subscribed_unsubscribe bus event label⟩,
    fun _ work history _ => work.shadows history _ rfl⟩

/-- A listener that is taken away while an event is delivered still hears of it. -/
example :
    let ran := busActions emit [.subscribe "saved" "index" 20 [],
      .subscribe "saved" "audit" 1 [.unsubscribe "saved" "index"], .emit "saved" [], .emit "saved" []]
      ⟨.closed .sqlite "" [], .empty, .idle⟩
    (ran.entries.filterMap fun | .heard label _ => some label | _ => none) =
      ["audit", "index", "audit"] := by
  decide +kernel

end Curator
