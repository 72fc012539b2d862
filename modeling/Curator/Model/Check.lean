import Curator.Model.Read
import Curator.Rules.Check
/-!
# Checks before writing

What a write must satisfy: required fields are there, every field keeps its rules, related rows
exist and are not trashed, and unique fields are not taken.
-/

set_option autoImplicit false

namespace Curator.Model

open Sql

def checkRequired (schema : Schema) (kind : WriteKind) (fields : Record) : Except Failure Unit :=
  match schema.required.filter fun name => !fields.has name with
  | [] => .ok ()
  | missing => .error (.missing kind missing)

/-- The fields of a write after the rules have been checked and the transforms applied. -/
def prepared (schema : Schema) (kind : WriteKind) (fields : Record) : Except Failure Record := do
  schema.checkWrite kind fields
  TransformTable.standard.transformed fields schema.mutators

/-- The fields with the defaults of those that are missing. -/
def withDefaults (schema : Schema) (fields : Record) : Record :=
  schema.defaults.foldl (fun acc (name, value) => Mapping.supply acc name value) fields

/-- The rows of a related resource that a field may point at. -/
def relatedRows (related : Schema) (value : Value) : Session Select := do
  let selection ← rowsOf related.table
  let selection ← narrowed selection ⟨related.primaryKey, some related.table, []⟩ .eq value
  if related.softDeletes then
    narrowed selection ⟨related.deletedAtColumn, some related.table, []⟩ .isNull (.bool true)
  else pure selection

/-- Checks that the related fields which are set point at rows that exist. -/
def checkRelated (m : Model) (kind : WriteKind) (fields : Record) :
    List (String × String) → Session Unit
  | [] => pure ()
  | (field, target) :: rest => do
    let value := (fields.value? field).getD .null
    if value.isNull then checkRelated m kind fields rest
    else
      let related ← Session.of (m.engine.registry.schema target)
      let selection ← relatedRows related value
      let count ← Session.total selection
      if count = 0 then Session.fail (.absent (.related kind field))
      else checkRelated m kind fields rest

/-- Narrows a selection to the rows that have given values in some columns. -/
def narrowedTo (m : Model) (values : Record) : List String → Select → Session Select
  | [], selection => pure selection
  | name :: rest, selection => do
    let value := (values.value? name).getD .null
    let selection ← narrowed selection (m.column name) .eq value
    narrowedTo m values rest selection

/-- Narrows a selection to the rows with another key than the given one, if one is given. -/
def excluding (m : Model) (key : Value) (selection : Select) : Session Select :=
  if key.isNull then pure selection
  else narrowed selection (m.column m.schema.primaryKey) .neq key

/-- Whether a unique constraint has to be checked: one of its columns is written, and none is null
in the row as it will be. -/
def isConcerned (fields values : Record) (names : List String) : Bool :=
  names.any fields.has && names.all fun name => !((values.value? name).getD .null).isNull

/-- Checks that no other row has the values of a unique constraint.  Columns that are not written
count with their stored values; `excluded` is the key of the row that is written. -/
def checkUnique (m : Model) (kind : WriteKind) (fields stored : Record) (excluded : Value) :
    List UniqueKey → Session Unit
  | [] => pure ()
  | unique :: rest => do
    let values := stored.overlay fields
    if isConcerned fields values unique.columns then
      let selection ← m.rows
      let selection ← m.narrowedTo values unique.columns selection
      let selection ← m.excluding excluded selection
      let count ← Session.total selection
      if 0 < count then Session.fail (.conflict (.unique kind unique.columns))
      else checkUnique m kind fields stored excluded rest
    else checkUnique m kind fields stored excluded rest

end Curator.Model
