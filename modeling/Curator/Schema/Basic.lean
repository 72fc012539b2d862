import Curator.Rules.Basic
import Curator.Settings
/-!
# Schemas

The static definition of one resource: its table and columns, what may be read and written, what is
related to what, and what happens around reads and writes.
-/

set_option autoImplicit false

namespace Curator

/-- The mark between a JSON column and the keys inside it. -/
def jsonArrow : String := "->"

/-- The column of a field name, the keys inside it left aside. -/
def baseField (name : String) : String :=
  match Text.splitOnce? name jsonArrow with
  | some (base, _) => base
  | none => name

/-- The keys inside the column of a field name. -/
def jsonPath (name : String) : List String :=
  (Text.split name jsonArrow).tail

/-- A limit as a definition writes it: a number, or a truth value that counts as 0 or 1. -/
inductive Amount where
  | number (n : Int)
  | flag (b : Bool)
  deriving DecidableEq, Repr, Inhabited

def Amount.toInt : Amount → Int
  | .number n => n
  | .flag b => b.toInt

def Amount.toValue : Amount → Value
  | .number n => .int n
  | .flag b => .bool b

/-- One column, or several that together must be unique. -/
inductive UniqueKey where
  | single (column : String)
  | composite (columns : List String)
  deriving DecidableEq, Repr, Inhabited

def UniqueKey.columns : UniqueKey → List String
  | .single column => [column]
  | .composite columns => columns

/-- The points of an operation at which hooks may run, in the order they come. -/
inductive HookPoint where
  | begin
  | beforeWrite
  | beforeCreate
  | beforeUpdate
  | beforeDelete
  | afterCreate
  | afterUpdate
  | afterWrite
  | afterRead
  | afterDelete
  | afterTrash
  | afterRestore
  | complete
  deriving DecidableEq, Repr, Inhabited

def HookPoint.name : HookPoint → String
  | .begin => "begin"
  | .beforeWrite => "beforeWrite"
  | .beforeCreate => "beforeCreate"
  | .beforeUpdate => "beforeUpdate"
  | .beforeDelete => "beforeDelete"
  | .afterCreate => "afterCreate"
  | .afterUpdate => "afterUpdate"
  | .afterWrite => "afterWrite"
  | .afterRead => "afterRead"
  | .afterDelete => "afterDelete"
  | .afterTrash => "afterTrash"
  | .afterRestore => "afterRestore"
  | .complete => "complete"

def HookPoint.all : List HookPoint :=
  [.begin, .beforeWrite, .beforeCreate, .beforeUpdate, .beforeDelete, .afterCreate, .afterUpdate,
    .afterWrite, .afterRead, .afterDelete, .afterTrash, .afterRestore, .complete]

structure Schema where
  name : Value
  table : String
  primaryKey : String
  cursorField : String
  readable : List String
  writable : Mapping FieldRules
  required : List String
  related : Mapping String
  unique : List UniqueKey
  search : List String
  maxRelatedDepth : Option Amount
  defaultLimit : Option Amount
  maxLimit : Option Amount
  mutators : Mapping Value
  accessors : Mapping Value
  defaults : Record
  /-- The column that marks a trashed row, where rows are trashed instead of deleted. -/
  deletedAt : Option Value
  /-- The column whose age decides what is pruned. -/
  pruneField : Option Value
  upsertConflict : List String
  hooks : Mapping (List Value)
  omitted : List Value
  deriving Inhabited

/-- The limits that hold for a resource. -/
structure Limits where
  default : Amount
  max : Amount
  relatedDepth : Amount
  deriving DecidableEq, Repr, Inhabited

namespace Schema

def softDeletes (s : Schema) : Bool := s.deletedAt.isSome

def prunable (s : Schema) : Bool := s.pruneField.isSome

def deletedAtColumn (s : Schema) : String :=
  (s.deletedAt.map Value.text).getD ""

def pruneColumn (s : Schema) : String :=
  (s.pruneField.map Value.text).getD ""

/-- The fields a search looks into. -/
def searchTargets (s : Schema) : List String :=
  if s.search.isEmpty then s.readable else s.search

def isReadable (s : Schema) (name : String) : Bool :=
  s.readable.contains (baseField name)

def isWritable (s : Schema) (name : String) : Bool :=
  s.writable.has name

def isOmitted (s : Schema) (name : Value) : Bool :=
  name.isAmong s.omitted

def hookNames (s : Schema) (point : String) : List Value :=
  (s.hooks.value? point).getD []

/-- The limits of the resource, the engine's where it sets none. -/
def limits (s : Schema) (settings : Settings) : Limits :=
  ⟨s.defaultLimit.getD (.number settings.defaultLimit), s.maxLimit.getD (.number settings.maxLimit),
    s.maxRelatedDepth.getD (.number settings.maxRelatedDepth)⟩

/-- What stands in the log for a value that must not be seen there. -/
def redactedMark : Value := .str "********"

/-- Fields as the log may show them. -/
def redact (s : Schema) (fields : Record) : Record :=
  fields.map fun (key, value) =>
    (key, if s.isOmitted (.str key) then redactedMark else value)

end Schema

end Curator
