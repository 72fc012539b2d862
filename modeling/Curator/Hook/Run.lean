import Curator.Hook.Basic
import Curator.Plan.Reshape
import Curator.Session
/-!
# Running hooks

The hooks of a point run in the order they are declared, each on the record that the ones before it
left.  A name nobody registered is passed over.  A reason to give up ends the run as a refusal of the
whole operation, and a failure ends it as it is.
-/

set_option autoImplicit false

namespace Curator

/-- The record after a run of hooks, with all their updates or the failure that ended the run. -/
structure HookRun where
  record : Record
  updates : Except Failure Record

namespace Hook

/-- Performs the steps a hook asks for; their failures are recorded and go no further. -/
def performCalls (perform : Step → Session Answer) : List Step → Session Unit
  | [] => pure ()
  | step :: rest => do
    let outcome ← Session.outcomeOf (perform step)
    Session.record (.nested outcome)
    performCalls perform rest

/-- Runs one hook on a record: the record it leaves, with its updates or the failure it ends in. -/
def run (perform : Step → Session Answer) (context : HookContext) (hook : Hook)
    (record : Record) : Session HookRun := do
  Session.record (.hookRan hook.label context record)
  performCalls perform hook.calls
  match hook.failure with
  | some (category, words) => pure ⟨record, .error (.reported category words)⟩
  | none =>
    let record := record.overlay hook.assignments
    match hook.result with
    | none => pure ⟨record, .ok []⟩
    | some result =>
      if result.abort.truthy then
        pure ⟨record, .error (.field (.aborted context.point result.abort.text))⟩
      else pure ⟨record.overlay result.update, .ok result.update⟩

def skippedMessage (name : Value) : String :=
  "Hook '" ++ name.text ++ "' is not registered, skipping"

def runningMessage (context : HookContext) (name : Value) : String :=
  s!"Running {context.point} hook '" ++ name.text ++ "' for " ++ context.resource.text

/-- Runs the named hooks in order, `updates` being those merged so far. -/
def runAll (perform : Step → Session Answer) (table : HookTable) (context : HookContext) :
    List Value → Record → Record → Session HookRun
  | [], record, updates => pure ⟨record, .ok updates⟩
  | name :: rest, record, updates =>
    match table.declared? name with
    | .error failure => pure ⟨record, .error failure⟩
    | .ok none => do
      Session.log .warning (skippedMessage name)
      runAll perform table context rest record updates
    | .ok (some hook) => do
      Session.log .debug (runningMessage context name)
      let ran ← hook.run perform context record
      match ran.updates with
      | .error failure => pure ⟨ran.record, .error failure⟩
      | .ok more => runAll perform table context rest ran.record (updates.overlay more)

end Hook

/-- The state of an operation at a point. -/
def HookContext.at (resource : Value) (point : String) (record : Record)
    (previous : Option Record) : HookContext :=
  ⟨resource, point, previous, previous.map record.changesFrom⟩

end Curator
