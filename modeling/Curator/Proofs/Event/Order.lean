import Curator.Event.Bus
import Mathlib.Data.List.Induction
/-!
# The order of subscriptions

A bus that was changed by subscriptions and unsubscriptions serves, for each event, the subscriptions
that are still standing: lower priorities first and, within a priority, in the order in which they
were made.
-/

set_option autoImplicit false

namespace Curator

namespace EventBus

/-! ## Changes -/

inductive Change where
  | subscribe (event label : String) (priority : Int) (actions : List BusAction)
  | unsubscribe (event label : String)

def Change.apply (bus : EventBus) : Change → EventBus
  | .subscribe event label priority actions => bus.subscribe event label priority actions
  | .unsubscribe event label => bus.unsubscribe event label

/-- The bus after all the changes since there were no subscriptions. -/
def after (history : List Change) : EventBus :=
  history.foldl Change.apply empty

theorem after_append (history : List Change) (change : Change) :
    after (history ++ [change]) = change.apply (after history) :=
  List.foldl_append

theorem subscribed_subscribe (bus : EventBus) (event label : String) (priority : Int)
    (actions : List BusAction) (other : String) :
    (bus.subscribe event label priority actions).subscribed other =
      if other = event then insert ⟨priority, label⟩ (bus.subscribed event)
      else bus.subscribed other := by
  unfold subscribe subscribed
  rw [Mapping.value?_put]
  split <;> rfl

theorem subscribed_unsubscribe (bus : EventBus) (event label other : String) :
    (bus.unsubscribe event label).subscribed other =
      if other = event then (bus.subscribed event).filter fun s => s.label != label
      else bus.subscribed other := by
  unfold unsubscribe subscribed
  rw [Mapping.value?_put]
  split <;> rfl

/-! ## Subscriptions that are standing -/

/-- A subscription with its place among all the changes. -/
structure Ticket where
  number : Nat
  priority : Int
  label : String

def Ticket.subscription (ticket : Ticket) : Subscription :=
  ⟨ticket.priority, ticket.label⟩

/-- The order in which subscriptions are to be served. -/
def Ticket.Before (first second : Ticket) : Prop :=
  first.priority < second.priority ∨
    first.priority = second.priority ∧ first.number < second.number

def Change.ends (event label : String) : Change → Bool
  | .subscribe _ _ _ _ => false
  | .unsubscribe other leaving => decide (other = event ∧ leaving = label)

/-- The subscriptions to an event that no later unsubscription of their listener has ended, where the
changes are numbered from `number`. -/
def standing (event : String) : Nat → List Change → List Ticket
  | _, [] => []
  | number, .subscribe other label priority _ :: later =>
    if other = event ∧ later.any (Change.ends event label) = false then
      ⟨number, priority, label⟩ :: standing event (number + 1) later
    else standing event (number + 1) later
  | number, .unsubscribe _ _ :: later => standing event (number + 1) later

theorem number_of_standing {event : String} {history : List Change} {number : Nat} {ticket : Ticket}
    (stands : ticket ∈ standing event number history) : ticket.number < number + history.length := by
  induction history generalizing number with
  | nil => cases stands
  | cons change later ih =>
    have others : ticket ∈ standing event (number + 1) later →
        ticket.number < number + (change :: later).length := fun stands => by
      have below := ih stands
      rw [List.length_cons]
      omega
    cases change with
    | subscribe other label priority actions =>
      unfold standing at stands
      split at stands
      · rcases List.mem_cons.mp stands with rfl | stands
        · simp
        · exact others stands
      · exact others stands
    | unsubscribe other label => exact others stands

theorem standing_subscribe (event : String) (number : Nat) (history : List Change)
    (other label : String) (priority : Int) (actions : List BusAction) :
    standing event number (history ++ [.subscribe other label priority actions]) =
      standing event number history ++
        if other = event then [⟨number + history.length, priority, label⟩] else [] := by
  induction history generalizing number with
  | nil => simp [standing]
  | cons change later ih =>
    have shifted : number + 1 + later.length = number + (later.length + 1) := by omega
    cases change with
    | subscribe earlier first high does =>
      simp only [List.cons_append, standing, List.any_append, ih, shifted, List.length_cons]
      split <;> simp_all [Change.ends]
    | unsubscribe earlier first =>
      simp only [List.cons_append, standing, ih, shifted, List.length_cons]

theorem standing_unsubscribe (event : String) (number : Nat) (history : List Change)
    (other label : String) :
    standing event number (history ++ [.unsubscribe other label]) =
      (standing event number history).filter fun ticket => decide (other = event → ticket.label ≠ label) := by
  induction history generalizing number with
  | nil => rfl
  | cons change later ih =>
    cases change with
    | subscribe earlier first high does =>
      simp only [List.cons_append, standing, List.any_append, ih]
      by_cases stood : earlier = event ∧ later.any (Change.ends event first) = false
      · by_cases leaving : other = event ∧ label = first
        · have ended : Change.ends event first (.unsubscribe other label) = true := decide_eq_true leaving
          rw [if_pos stood, List.filter_cons_of_neg, if_neg]
          · simp [ended]
          · simp [leaving]
        · have kept : Change.ends event first (.unsubscribe other label) = false :=
            decide_eq_false leaving
          rw [if_pos stood, List.filter_cons_of_pos, if_pos]
          · simp [kept, stood]
          · exact decide_eq_true fun same own => leaving ⟨same, own.symm⟩
      · rw [if_neg stood, if_neg]
        rintro ⟨same, standing⟩
        exact stood ⟨same, (Bool.or_eq_false_iff.mp standing).1⟩
    | unsubscribe earlier first =>
      simp only [List.cons_append, standing, ih]

/-! ## The order -/

/-- Subscriptions of an event in order, as a bus holds them. -/
structure Serves (bus : EventBus) (event : String) (tickets order : List Ticket) : Prop where
  all : order.Perm tickets
  ordered : order.Pairwise Ticket.Before
  held : bus.subscribed event = order.map Ticket.subscription

/-- A ticket put behind all that are served no later. -/
def Ticket.placed (ticket : Ticket) : List Ticket → List Ticket
  | [] => [ticket]
  | first :: rest =>
    if first.priority ≤ ticket.priority then first :: placed ticket rest
    else ticket :: first :: rest

theorem insert_subscription (ticket : Ticket) (order : List Ticket) :
    insert ticket.subscription (order.map Ticket.subscription) =
      (ticket.placed order).map Ticket.subscription := by
  unfold insert
  induction order with
  | nil => rfl
  | cons first rest ih =>
    rw [List.map_cons, Ticket.placed]
    by_cases earlier : first.priority ≤ ticket.priority
    · have here : decide (first.subscription.priority ≤ ticket.subscription.priority) = true :=
        decide_eq_true earlier
      simp only [List.takeWhile_cons, List.dropWhile_cons, here, if_pos earlier, if_true,
        List.map_cons, List.cons_append]
      exact congrArg (_ :: ·) ih
    · have here : decide (first.subscription.priority ≤ ticket.subscription.priority) = false :=
        decide_eq_false earlier
      simp [here, earlier]

theorem perm_placed (ticket : Ticket) (order : List Ticket) :
    (ticket.placed order).Perm (ticket :: order) := by
  induction order with
  | nil => rfl
  | cons first rest ih =>
    unfold Ticket.placed
    split
    · exact (ih.cons first).trans (.swap ticket first rest)
    · rfl

/-- Tickets in order stay in order when a later one is put into its place. -/
theorem ordered_placed {order : List Ticket} (ordered : order.Pairwise Ticket.Before)
    {ticket : Ticket} (latest : ∀ t ∈ order, t.number < ticket.number) :
    (ticket.placed order).Pairwise Ticket.Before := by
  induction order with
  | nil => exact List.pairwise_singleton _ _
  | cons first rest ih =>
    obtain ⟨ahead, others⟩ := List.pairwise_cons.mp ordered
    unfold Ticket.placed
    split
    · rename_i earlier
      refine List.pairwise_cons.mpr ⟨fun t member => ?_,
        ih others fun t member => latest t (List.mem_cons_of_mem first member)⟩
      rcases List.mem_cons.mp ((perm_placed ticket rest).subset member) with rfl | member
      · rcases Int.lt_or_eq_of_le earlier with lower | same
        · exact Or.inl lower
        · exact Or.inr ⟨same, latest first List.mem_cons_self⟩
      · exact ahead t member
    · rename_i later
      have higher : ticket.priority < first.priority := Int.not_le.mp later
      refine List.pairwise_cons.mpr ⟨fun t member => Or.inl ?_, ordered⟩
      rcases List.mem_cons.mp member with rfl | member
      · exact higher
      · rcases ahead t member with lower | ⟨same, -⟩
        · exact Int.lt_trans higher lower
        · exact same ▸ higher

section

variable {history : List Change} {event : String} {order : List Ticket}

theorem Serves.subscribe (serves : Serves (after history) event (standing event 0 history) order)
    (other label : String) (priority : Int) (actions : List BusAction) :
    let longer := history ++ [.subscribe other label priority actions]
    ∃ order, Serves (after longer) event (standing event 0 longer) order := by
  obtain ⟨all, ordered, held⟩ := serves
  simp only [after_append]
  by_cases same : other = event
  · subst same
    let ticket : Ticket := ⟨0 + history.length, priority, label⟩
    have latest : ∀ t ∈ order, t.number < ticket.number := fun t member =>
      number_of_standing (all.subset member)
    refine ⟨ticket.placed order, ?_, ordered_placed ordered latest, ?_⟩
    · rw [standing_subscribe, if_pos rfl]
      exact (perm_placed ticket order).trans
        ((all.cons ticket).trans (List.perm_append_singleton _ _).symm)
    · rw [Change.apply, subscribed_subscribe, if_pos rfl, held]
      exact insert_subscription ticket order
  · refine ⟨order, ?_, ordered, ?_⟩
    · rw [standing_subscribe, if_neg same, List.append_nil]
      exact all
    · rw [Change.apply, subscribed_subscribe, if_neg (Ne.symm same)]
      exact held

theorem Serves.unsubscribe (serves : Serves (after history) event (standing event 0 history) order)
    (other label : String) :
    let longer := history ++ [.unsubscribe other label]
    ∃ order, Serves (after longer) event (standing event 0 longer) order := by
  obtain ⟨all, ordered, held⟩ := serves
  simp only [after_append]
  rw [standing_unsubscribe]
  refine ⟨order.filter _, all.filter _, ordered.filter _, ?_⟩
  rw [Change.apply, subscribed_unsubscribe]
  split
  · rename_i same
    subst same
    rw [held, List.filter_map]
    congr 1
    apply List.filter_congr
    intro ticket _
    rw [Bool.eq_iff_iff]
    simp [Ticket.subscription]
  · rename_i apart
    rw [held, List.filter_eq_self.mpr]
    exact fun ticket _ => decide_eq_true fun same => absurd same.symm apart

end

/-- What a bus holds after any changes is what is standing, in order: each change keeps it so. -/
theorem serves_after (history : List Change) (event : String) :
    ∃ order, Serves (after history) event (standing event 0 history) order := by
  induction history using List.reverseRecOn with
  | nil => exact ⟨[], .refl _, .nil, rfl⟩
  | append_singleton history change ih =>
    obtain ⟨order, serves⟩ := ih
    cases change with
    | subscribe other label priority actions => exact serves.subscribe other label priority actions
    | unsubscribe other label => exact serves.unsubscribe other label

end EventBus

end Curator
