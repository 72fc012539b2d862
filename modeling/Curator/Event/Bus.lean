import Curator.Failure.Basic
import Curator.Resource
/-!
# Event bus

Who hears of what.  Subscriptions of an event stand in the order in which they are served: lower
priorities first and, within a priority, those that came first.  A listener is known by its label;
what it does when it hears something is fixed when it first subscribes.
-/

set_option autoImplicit false

namespace Curator

/-- What an event carries. -/
inductive Payload where
  | resource (r : Resource)
  | value (v : Value)
  deriving Inhabited

/-- What is asked of the bus, by a listener or from outside, or a failure a listener reports. -/
inductive BusAction where
  | fail (category : Category) (words : String)
  | subscribe (event label : String) (priority : Int) (actions : List BusAction)
  | unsubscribe (event label : String)
  | hasListeners (event : String)
  | emit (event : String) (payload : List Payload)
  deriving Inhabited

structure Subscription where
  priority : Int
  label : String
  deriving DecidableEq, Repr, Inhabited

structure EventBus where
  subscriptions : Mapping (List Subscription)
  /-- What the listeners do. -/
  listeners : Mapping (List BusAction)

namespace EventBus

def empty : EventBus := ⟨[], []⟩

/-- The subscriptions of an event in the order they are served. -/
def subscribed (bus : EventBus) (event : String) : List Subscription :=
  (bus.subscriptions.value? event).getD []

/-- A subscription put behind all that are served no later. -/
def insert (subscription : Subscription) (subscriptions : List Subscription) :
    List Subscription :=
  let earlier := fun (s : Subscription) => decide (s.priority ≤ subscription.priority)
  subscriptions.takeWhile earlier ++ subscription :: subscriptions.dropWhile earlier

def subscribe (bus : EventBus) (event label : String) (priority : Int)
    (actions : List BusAction) : EventBus :=
  ⟨bus.subscriptions.put event (insert ⟨priority, label⟩ (bus.subscribed event)),
    bus.listeners.supply label actions⟩

/-- The bus without the subscriptions of a listener to an event. -/
def unsubscribe (bus : EventBus) (event label : String) : EventBus :=
  { bus with
    subscriptions :=
      bus.subscriptions.put event ((bus.subscribed event).filter fun s => s.label != label) }

def hasListeners (bus : EventBus) (event : String) : Bool :=
  !(bus.subscribed event).isEmpty

/-- What a listener does when it hears something. -/
def actions (bus : EventBus) (label : String) : List BusAction :=
  (bus.listeners.value? label).getD []

end EventBus

end Curator
