import Curator.Failure.Basic
import Curator.Mapping
import Curator.Value.Basic
/-!
# Calls and hooks

What can be asked of the models of resources, and the hooks that ask for it.
-/

set_option autoImplicit false

/-!
## Calls

What can be asked of the model of a resource, and of the collection that a list request gives.  A
step is a call with the resource it goes to.
-/

namespace Curator

/-- A call of a model. -/
inductive Call where
  | create (fields : Record)
  | read (key : Value) (fields : List String)
  | find (key : Value)
  | list (query : Value) (all : Bool)
  | exists_ (key : Value)
  | count
  | update (key : Value) (fields : Record)
  | upsert (fields : Record)
  | replicate (key : Value) (overrides : Record)
  | delete (key : Value)
  | withTrashed
  | onlyTrashed
  | restore (key : Value)
  | hardDelete (key : Value)
  | purgeTrashed (before : Value)
  | purgeTrashedQuietly (before : Value)
  | prune (before : Value)
  | pruneQuietly (before : Value)
  | defineJson (data : Value)
  | updateJson (key data : Value)
  | describe
  deriving Inhabited

/-- A question to a collection. -/
inductive CollectionCall where
  | pagination
  | aggregate
  | total
  | read (key : Value)
  | queryCount
  | rows
  deriving Inhabited

/-- A call with the resource it goes to; without one it goes to the model at work.  The questions go
to the collection that the call gives. -/
structure Step where
  resource : Option String
  call : Call
  questions : List CollectionCall
  deriving Inhabited

/-!
## Hooks

Named pieces of work that run at a point of an operation.  A hook does its parts in a fixed order: it
performs steps on models, reports a failure, sets fields of the record, and returns updates or a
reason to give up.
-/

/-- What a hook returns. -/
structure HookResult where
  update : Record
  /-- The reason to give up; nothing that counts as false is one. -/
  abort : Value
  deriving Inhabited

structure Hook where
  /-- The name under which its runs are recorded. -/
  label : String
  calls : List Step
  failure : Option (Category × String)
  assignments : Record
  result : Option HookResult

/-- The hooks that are registered, by name. -/
abbrev HookTable := Mapping Hook

namespace HookTable

/-- The table with one more hook; a name that is taken keeps its hook. -/
def register (table : HookTable) (name : String) (hook : Hook) : HookTable :=
  Mapping.supply table name hook

/-- The hook under a name. -/
def get (table : HookTable) (name : String) : Except Failure Hook :=
  match Mapping.value? table name with
  | some hook => .ok hook
  | none => .error (.misuse (.unregisteredHook name))

def names (table : HookTable) : List String :=
  (Mapping.keys table).mergeSort fun a b => !(b < a)

/-- The hook that a schema's declaration names; only text can name one, and what cannot be a key is
a fault. -/
def declared? (table : HookTable) : Value → Except Failure (Option Hook)
  | .str name => .ok (Mapping.value? table name)
  | .list _ => .error (.fault .type "unhashable type: 'list'")
  | .dict _ => .error (.fault .type "unhashable type: 'dict'")
  | _ => .ok none

end HookTable

end Curator
