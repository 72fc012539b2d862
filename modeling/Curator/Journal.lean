import Curator.Event.Bus
import Curator.Sql.Dialect
/-!
# Journal

What a session leaves behind, in the order it happened: the statements, the hooks and listeners that
ran, and the messages logged.
-/

set_option autoImplicit false

namespace Curator

inductive LogLevel where
  | debug
  | info
  | warning
  deriving DecidableEq, Repr

def LogLevel.name : LogLevel → String
  | .debug => "DEBUG"
  | .info => "INFO"
  | .warning => "WARNING"

def LogLevel.rank : LogLevel → Nat
  | .debug => 0
  | .info => 1
  | .warning => 2

/-- The rows of a list request as they are handed out, with the answers to the questions asked of
the collection. -/
structure Listing where
  rows : List Record
  limit : Option Int
  cursorField : String
  primaryKey : String
  answers : List (Except Failure Value)

/-- What a call of a model gives. -/
inductive Answer where
  | value (v : Value)
  | resource (r : Resource)
  /-- The model itself. -/
  | model
  | listing (l : Listing)

/-- The state of an operation in which a hook runs. -/
structure HookContext where
  resource : Value
  point : String
  previous : Option Record
  /-- The fields of the record that differ from the previous one. -/
  changes : Option Record

inductive Entry where
  /-- A statement was performed and committed, or refused and rolled back. -/
  | statement (sql : String) (params : List Value) (committed : Bool)
  | connected (dialect : Sql.Dialect) (target : String)
  | disconnected
  /-- A hook ran on a record. -/
  | hookRan (label : String) (context : HookContext) (record : Record)
  /-- A step that a hook asked for has ended. -/
  | nested (outcome : Except Failure Answer)
  /-- A listener heard of an event. -/
  | heard (label : String) (payload : List Payload)
  | logged (level : LogLevel) (message : String)

end Curator
