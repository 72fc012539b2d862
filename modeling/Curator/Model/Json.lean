import Curator.Failure.Basic
import Curator.Model.Read
import Curator.Plan.Reshape
import Curator.Text.Identifier
/-!
# JSON columns

JSON values in which null means that a key is to go, and the columns that hold them.
-/

set_option autoImplicit false

/-!
## Nullable JSON

JSON values in which null means that a key is to go.  Values are merged in a flat form, in which the
keys on the way to a value stand before it with dots between them.
-/

namespace Curator.NullableJson

mutual

/-- The flat entries of a value under a key; an empty mapping stays as it is. -/
def flatValue (key : String) : Value → List (String × Value)
  | .dict (first :: rest) => flatEntries (key ++ ".") (first :: rest)
  | .dict [] => [(key, .dict [])]
  | .null => [(key, .null)]
  | .bool b => [(key, .bool b)]
  | .int n => [(key, .int n)]
  | .float x => [(key, .float x)]
  | .str s => [(key, .str s)]
  | .bytes data => [(key, .bytes data)]
  | .date d => [(key, .date d)]
  | .moment m => [(key, .moment m)]
  | .list items => [(key, .list items)]

/-- The flat entries of a mapping whose keys stand behind `lead`. -/
def flatEntries (lead : String) : List (String × Value) → List (String × Value)
  | [] => []
  | (key, value) :: rest => flatValue (lead ++ key) value ++ flatEntries lead rest

end

def flatten (data : Record) : Record :=
  Mapping.ofPairs (flatEntries "" data)

/-- The nested form of a flat mapping. -/
def expand (flat : Record) : Record :=
  flat.foldl (fun (acc : Record) (key, value) => acc.assign (Text.split key ".") value) []

def checkKeys (field : String) (flat : Record) : Except Failure Unit :=
  if flat.all fun (key, _) => (Text.split key ".").all Text.isJsonKey then .ok ()
  else .error (.field (.jsonKey field))

/-- The nested form of a flat mapping without its nulls. -/
def settle (field : String) (flat : Record) : Except Failure Record := do
  let flat := flat.filter fun (_, value) => !value.isNull
  checkKeys field flat
  pure (expand flat)

/-- The mapping a value is; only mappings have keys. -/
def mappingOf : Value → Except Failure Record
  | .dict entries => .ok entries
  | other => .error (.fault .attribute s!"'{other.kindName}' object has no attribute 'items'")

/-- A new value of a column. -/
def define (field : String) (data : Value) : Except Failure Record := do
  let data ← mappingOf data
  settle field (flatten data)

/-- The value of a column after some of its keys are replaced. -/
def merge (field : String) (stored : Record) (data : Value) : Except Failure Record := do
  let data ← mappingOf data
  settle field ((flatten stored).overlay (flatten data))

end Curator.NullableJson

/-!
## Nullable JSON columns

A model may have one JSON column in which null deletes keys.  Such a column is put in order before its
row is written.
-/

namespace Curator.Model

open Sql

def parsedJson : Value → Except Failure Value
  | .str s => parsed s
  | .bytes data =>
    match Text.ofBytes? data with
    | some text => parsed text
    | none => .error (.fault .encoding "invalid bytes")
  | other =>
    .error (.fault .type s!"the JSON object must be str, bytes or bytearray, not {other.kindName}")
where
  parsed (text : String) : Except Failure Value :=
    match Json.read text with
    | .ok value => .ok value
    | .error .malformed => .error (.fault .json "Expecting value")
    | .error .tooLong => .error .digits

def writtenJson (data : Record) : Except Failure String :=
  match Json.write .spaced 0 (.dict data) with
  | .ok text => .ok text
  | .error fault => .error (Transform.jsonFailure fault)

/-- The mapping that a column holds; whatever is none counts as empty. -/
def storedMapping (stored : Value) : Except Failure Record :=
  match stored with
  | .dict entries => .ok entries
  | .str s =>
    match Json.read s with
    | .ok (.dict entries) => .ok entries
    | .ok _ => .ok []
    | .error .malformed => .ok []
    | .error .tooLong => .error .digits
  | _ => .ok []

/-- The value the JSON column has after some of its keys are replaced in the row with a key. -/
def updatedJson (m : Model) (column : String) (key data : Value) : Session Record := do
  let selection ← m.rows
  let selection ← Session.of (selection.column (m.column column) (some column))
  let selection ← narrowed selection (m.column m.schema.primaryKey) .eq key
  let rows ← Session.fetch { selection with limit := some 1 }
  let stored ← Session.of (match rows with
    | [] => .ok .null
    | row :: _ => Session.columnValue row column)
  let current ← Session.of (storedMapping stored)
  Session.of (NullableJson.merge column current data)

/-- The fields with the JSON column changed, if the model has one and it is written. -/
def withJson (m : Model) (fields : Record) (change : String → Value → Session Record) :
    Session Record :=
  match m.kind.capabilities.nullableJson with
  | none => pure fields
  | some column =>
    match fields.value? column with
    | none => pure fields
    | some value => do
      let data ← Session.of (parsedJson value)
      let changed ← change column data
      let text ← Session.of (writtenJson changed)
      pure (fields.put column (.str text))

def definedJson (column : String) (data : Value) : Session Record :=
  Session.of (NullableJson.define column data)

end Curator.Model
