import Curator.Session
/-!
# Emitting events

An event reaches the subscriptions that are there when it is emitted, one after the other; a listener
that fails ends the delivery.  What listeners do to the bus meanwhile counts from the next event on.
-/

set_option autoImplicit false

namespace Curator.Session

/-- Does what a listener or somebody outside asks of the bus, `send` being the way to emit. -/
def busAction (send : String → List Payload → Session Unit) : BusAction → Session Value
  | .fail category words => fail (.reported category words)
  | .subscribe event label priority actions => do
    let s ← state
    setBus (s.bus.subscribe event label priority actions)
    pure .null
  | .unsubscribe event label => do
    let s ← state
    setBus (s.bus.unsubscribe event label)
    pure .null
  | .hasListeners event => do
    let s ← state
    pure (.bool (s.bus.hasListeners event))
  | .emit event payload => do
    send event payload
    pure .null

def busActions (send : String → List Payload → Session Unit) : List BusAction → Session Unit
  | [] => pure ()
  | action :: rest => do
    let _ ← busAction send action
    busActions send rest

/-- Tells the listeners of some subscriptions in order. -/
def deliver (send : String → List Payload → Session Unit) (payload : List Payload) :
    List Subscription → Session Unit
  | [] => pure ()
  | subscription :: rest => do
    record (.heard subscription.label payload)
    let s ← state
    busActions send (s.bus.actions subscription.label)
    deliver send payload rest

/-- The message about an event that is about to be delivered. -/
def emitMessage (event : String) (listeners : Nat) : String :=
  s!"Emitting {event} to {listeners} listener(s)"

/-- The failure of events and hooks that call one another without end. -/
def endless : Failure := .fault .system "maximum depth exceeded"

/-- Emits an event, with at most `depth` events emitted inside one another. -/
def emitWithin : Nat → String → List Payload → Session Unit
  | 0, _, _ => fail endless
  | depth + 1, event, payload => do
    let s ← state
    let subscriptions := s.bus.subscribed event
    log .debug (emitMessage event subscriptions.length)
    deliver (emitWithin depth) payload subscriptions

/-- How deep events and hooks may go. -/
def greatestDepth : Nat := 100

def emit (event : String) (payload : List Payload) : Session Unit :=
  emitWithin greatestDepth event payload

/-- Does one action from outside. -/
def onBus (action : BusAction) : Session Value :=
  busAction emit action

end Curator.Session
