import Curator.Transform.Basic
/-!
# Named transforms

Transforms under the names by which fields ask for them, and their application to the fields of a
record.  The fields before one whose transform refuses its value keep their new values.
-/

set_option autoImplicit false

namespace Curator

/-- The transforms that can be asked for, by name. -/
abbrev TransformTable := Mapping Transform

namespace TransformTable

/-- The transforms every table starts with. -/
def standard : TransformTable := [
  ("json_encode", .jsonEncode),
  ("json_decode", .jsonDecode),
  ("escape_string", .escapeString),
  ("boolean", .boolean),
  ("integer", .integer),
  ("nullify", .nullify),
  ("slug", .slug),
  ("censor", .censor),
  ("date", .date),
  ("datetime", .datetime),
  ("timestamp", .timestamp),
  ("uuid_to_bin", .uuidToBin),
  ("bin_to_uuid", .binToUuid),
  ("lowercase", .lowercase),
  ("uppercase", .uppercase),
  ("trim", .trim)
]

/-- The table with every standard transform whose name was free. -/
def withStandard (table : TransformTable) : TransformTable :=
  standard.foldl (fun acc (name, transform) => Mapping.supply acc name transform) table

def names (table : TransformTable) : List String :=
  (Mapping.keys table).mergeSort fun a b => !(b < a)

/-- The transform a declaration names. -/
def resolve (table : TransformTable) : Value → Except Failure Transform
  | .str name =>
    match Mapping.value? table name with
    | some transform => .ok transform
    | none => .error (.unexpected (.transform (.unregistered name)))
  | other => .error (Failure.quoting other fun v => .unexpected (.transform (.notATransform v)))

/-- One field of a record under its transform; a refusal names the field. -/
def applyTo (table : TransformTable) (field : String) (declaration value : Value) :
    Except Failure Value := do
  let transform ← table.resolve declaration
  match transform.apply value with
  | .ok value => pure value
  | .error failure =>
    if failure.refusesValue then .error (.field (.transform field failure.text))
    else .error failure

/-- The record with the transforms of its fields applied, in the order they are declared, and the
failure that stopped this if there was one. -/
def transformAll (table : TransformTable) (record : Record) : Mapping Value → Record × Option Failure
  | [] => (record, none)
  | (field, declaration) :: rest =>
    match record.value? field with
    | none => transformAll table record rest
    | some value =>
      match table.applyTo field declaration value with
      | .ok value => transformAll table (record.put field value) rest
      | .error failure => (record, some failure)

/-- The record with the transforms of its fields applied. -/
def transformed (table : TransformTable) (record : Record) (declarations : Mapping Value) :
    Except Failure Record :=
  match table.transformAll record declarations with
  | (record, none) => .ok record
  | (_, some failure) => .error failure

end TransformTable

end Curator
