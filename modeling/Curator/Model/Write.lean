import Curator.Model.Check
import Curator.Model.Json
/-!
# Writing

Creating and updating rows.  All checks come first, then the hooks before the write, then the write,
and after it the row is read again for the hooks and listeners that come behind.
-/

set_option autoImplicit false

namespace Curator.Model

open Sql

def upserting : Session Bool := do
  let state ← Session.model
  pure state.upserting

/-- A field mapping as the log shows it. -/
def redacted (m : Model) (fields : Record) : String :=
  (Value.dict (m.schema.redact fields)).literal

/-- The key under which the row is found that the conflict fields decide on. -/
def conflictKey? (m : Model) (values : Record) : Session (Option Value) := do
  let conflict := m.schema.upsertConflict
  if conflict.all values.has then
    let selection ← m.rows
    let selection ←
      Session.of (selection.column (m.column m.schema.primaryKey) (some m.schema.primaryKey))
    let selection ← m.narrowedTo values conflict selection
    let rows ← Session.fetch { selection with limit := some 1 }
    match rows with
    | [] => pure none
    | row :: _ =>
      let key ← Session.of (Session.columnValue row m.schema.primaryKey)
      pure (some key)
  else pure none

/-- The key that the database reports for a row it inserted. -/
def reportedKey : Session Value := do
  let key ← Session.lastId
  if key.isNull then Session.fail (.unexpected .keyNotReturned) else pure key

/-- The key of the row that was written: the one among its values, the one its conflict fields lead
to, or the one the database reports. -/
def writtenKey (m : Model) (values : Record) : Session Value := do
  let given := (values.value? m.schema.primaryKey).getD .null
  if given.isNull then
    let overwriting ← upserting
    if overwriting then
      let found ← m.conflictKey? values
      match found with
      | some key => pure key
      | none => reportedKey
    else reportedKey
  else pure given

/-- Inserts a row, over the one it conflicts with if the operation is an upsert. -/
def insertRow (m : Model) (values : Record) : Session Unit := do
  let overwriting ← upserting
  let onConflict : OnConflict :=
    if overwriting then .overwrite m.schema.upsertConflict else .fail
  let _ ← Session.insert m.schema.table values onConflict (some m.schema.primaryKey)
  pure ()

def createRow (m : Model) (fields : Record) : Session Resource := do
  let overwriting ← upserting
  let kind : WriteKind := if overwriting then .upsert else .create
  Session.of (checkRequired m.schema kind fields)
  let values ← Session.of (prepared m.schema kind fields)
  let values := withDefaults m.schema values
  m.checkRelated kind values m.schema.related
  let overwriting ← upserting
  if overwriting then pure () else m.checkUnique kind values [] .null m.schema.unique
  let values ← m.atPoint .beforeWrite values none
  let values ← m.withJson values definedJson
  let values ← m.atPoint .beforeCreate values none
  Session.log .debug ("Creating " ++ m.schema.name.text ++ ": " ++ m.redacted values)
  m.insertRow values
  let key ← m.writtenKey values
  let resource ← m.resource key .include_
  m.notify .afterCreate resource.data none
  m.notify .afterWrite resource.data none
  Session.log .info ("Created " ++ m.schema.name.text ++ " " ++ resource.key.text)
  Session.emit "resource.create" [.resource resource]
  pure resource

def updateRow (m : Model) (key : Value) (fields : Record) : Session Resource := do
  let existing ← m.visibleResource key
  let values ← Session.of (prepared m.schema .update fields)
  m.checkRelated .update values m.schema.related
  let stored ← m.storedRow key
  m.checkUnique .update values stored key m.schema.unique
  let values ← m.atPoint .beforeWrite values none
  let values ← m.withJson values fun column data => m.updatedJson column existing.key data
  let values ← m.atPoint .beforeUpdate values (some existing.data)
  if values.isEmpty then pure ()
  else
    Session.log .debug
      ("Updating " ++ m.schema.name.text ++ " " ++ key.text ++ ": " ++ m.redacted values)
    let _ ← Session.update m.schema.table values [(m.schema.primaryKey, key)]
  let newKey := (values.value? m.schema.primaryKey).getD key
  let resource ← m.resource newKey .include_
  m.notify .afterUpdate resource.data (some existing.data)
  m.notify .afterWrite resource.data none
  Session.log .info ("Updated " ++ m.schema.name.text ++ " " ++ newKey.text)
  Session.emit "resource.update" [.resource resource, .resource existing, .value (.dict values)]
  pure resource

def create (m : Model) (fields : Record) : Session Resource :=
  m.tracked (m.createRow fields)

def update (m : Model) (key : Value) (fields : Record) : Session Resource :=
  m.tracked (m.updateRow key fields)

/-- The failure of an upsert: a conflict is none that its caller could have avoided. -/
def upsertFailure (failure : Failure) : Failure :=
  match failure.category with
  | .conflict => .unexpected (.upsert failure.text)
  | _ => failure

/-- Creates a row or overwrites the one it conflicts with. -/
def upsert (m : Model) (fields : Record) : Session Resource :=
  m.tracked do
    let state ← Session.model
    Session.setModel { state with upserting := true }
    Session.rescue (m.create fields) fun failure => Session.fail (upsertFailure failure)

/-- Creates a row from the writable fields of another one, some of them replaced. -/
def replicate (m : Model) (key : Value) (overrides : Record) : Session Resource :=
  m.tracked do
    Session.of (m.schema.checkWrite .create overrides)
    let existing ← m.tracked (m.readRow key [])
    let copied := existing.filter fun (name, _) => m.schema.isWritable name
    m.create (Mapping.overlay copied overrides)

end Curator.Model
