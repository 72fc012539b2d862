import Curator.Failure.Basic
/-!
# Resources

One row as it was read.  Its values are nested, so that the values of related resources and of JSON
columns are reached with dotted keys.
-/

set_option autoImplicit false

namespace Curator

/-- A row of the resource with a name, whose primary key is in `keyField`. -/
structure Resource where
  name : Value
  keyField : String
  data : Record
  deriving Inhabited

namespace Resource

/-- The primary key of a row; null if the row lacks it. -/
def key (r : Resource) : Value :=
  (r.data.value? r.keyField).getD .null

/-- The value at the end of a way of keys through nested mappings. -/
def valueAt? (value : Value) : List String → Option Value
  | [] => some value
  | key :: rest =>
    match value with
    | .dict entries => (Mapping.value? entries key).bind fun inner => valueAt? inner rest
    | _ => none

def value? (r : Resource) (dotted : String) : Option Value :=
  valueAt? (.dict r.data) (Text.split dotted ".")

/-- The value under a dotted key, which must be there. -/
def item (r : Resource) (dotted : String) : Except Failure Value :=
  match r.value? dotted with
  | some value => .ok value
  | none => .error (.misuse (.missingKey dotted))

def text (r : Resource) : String :=
  "<Resource " ++ r.name.text ++ ":" ++ r.key.text ++ ">"

end Resource

end Curator
