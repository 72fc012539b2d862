import Curator.Metadata.Shape
import Curator.Schema.Basic
/-!
# Metadata documents

The shapes of the two kinds of document that metadata consists of: the settings of the engine and the
definition of a resource.
-/

set_option autoImplicit false

namespace Curator.Metadata

def ofKind (kind : Kind) : Shape := [.plain (.ofKind kind)]

def identifier : Shape :=
  [.plain (.ofKind .string), .plain (.matching "^[A-Za-z_][A-Za-z0-9_]*$")]

/-- A column, or keys inside a JSON column. -/
def jsonField : Shape :=
  [.plain (.ofKind .string),
    .plain (.matching "^[A-Za-z_][A-Za-z0-9_]*(->[A-Za-z0-9_-]+)*$")]

def identifierList : Shape :=
  [.plain (.ofKind .array), .items identifier, .plain .distinct]

def nonEmptyIdentifierList : Shape :=
  [.all [identifierList, [.plain .nonEmptyList]]]

def limit : Shape := [.plain (.ofKind .integer), .plain (.atLeast (-1))]

def depth : Shape := [.plain (.ofKind .integer), .plain (.atLeast 1)]

def fieldType : Shape := [.plain (.oneOf fieldTypeNames)]

def nonEmptyText : Shape := [.plain (.ofKind .string), .plain .nonEmptyText]

/-- A capability that is switched on, or on with its column. -/
def capability : Shape :=
  [.one [ofKind .boolean, identifier,
    [.plain (.ofKind .object), .properties [("field", identifier)],
      .plain (.required ["field"]), .plain (.only ["field"])]]]

/-- An object whose shape is given key by key and that has no other keys. -/
def closedObject (required : List String) (shapes : List (String × Shape)) : Shape :=
  [.plain (.ofKind .object), .plain (.required required), .plain (.only (shapes.map (·.1))),
    .properties shapes]

def settingsShape : Shape :=
  closedObject [] [
    ("defaultLimit", limit),
    ("maxLimit", limit),
    ("maxRelatedDepth", depth),
    ("database",
      [.plain (.ofKind .string), .plain (.matching "^[A-Za-z][A-Za-z0-9+.-]*://")]),
    ("maxFilterDepth", [.one [ofKind .null, depth]])
  ]

/-- The rules of a writable field: none, a type, or all of them. -/
def fieldRules : Shape :=
  let length : Shape := [.plain (.ofKind .integer), .plain (.atLeast 0)]
  [.one [ofKind .null, fieldType, closedObject [] [
    ("type", fieldType),
    ("nullable", ofKind .boolean),
    ("min", ofKind .number),
    ("max", ofKind .number),
    ("minLength", length),
    ("maxLength", length),
    ("pattern", ofKind .string),
    ("options", ofKind .array)
  ]]]

def byColumn (shape : Shape) : Shape :=
  [.plain (.ofKind .object), .propertyNames identifier, .everyProperty shape]

/-- The hooks of a resource, by their points. -/
def hookLists : Shape :=
  [.plain (.ofKind .object), .propertyNames [.plain (.oneOf (HookPoint.all.map HookPoint.name))],
    .everyProperty [.plain (.ofKind .array), .items nonEmptyText]]

def resourceShape : Shape :=
  closedObject ["resource", "readable"] [
    ("resource", nonEmptyText),
    ("table", identifier),
    ("primaryKey", identifier),
    ("cursorField", identifier),
    ("readable", nonEmptyIdentifierList),
    ("writable", [.one [identifierList, byColumn fieldRules]]),
    ("required", identifierList),
    ("related", byColumn nonEmptyText),
    ("unique",
      [.plain (.ofKind .array), .items [.one [identifier, nonEmptyIdentifierList]]]),
    ("search", [.plain (.ofKind .array), .items jsonField]),
    ("maxRelatedDepth", depth),
    ("defaultLimit", limit),
    ("maxLimit", limit),
    ("mutators", byColumn nonEmptyText),
    ("accessors", byColumn nonEmptyText),
    ("defaults", [.plain (.ofKind .object), .propertyNames identifier]),
    ("softDeletes", capability),
    ("prunable", capability),
    ("upsertConflict", nonEmptyIdentifierList),
    ("hooks", hookLists),
    ("omitted", identifierList)
  ]

end Curator.Metadata
