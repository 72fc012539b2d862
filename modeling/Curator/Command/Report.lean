import Curator.Journal
import Curator.Json.Writer
import Curator.Metadata.Validate
import Curator.Transform.Basic
/-!
# Reports

What the commands about metadata print.
-/

set_option autoImplicit false

namespace Curator.Command

open Metadata

/-- What a command has come to: what it printed, how it ended, and the journal of its session. -/
structure Ended where
  exitCode : Nat
  output : String
  errors : String
  entries : List Entry
  /-- A failure that the command has no words for. -/
  failure : Option Failure

namespace Ended

def succeeded (output : String) : Ended := ⟨0, output, "", [], none⟩

/-- A command that ends with an error message after it has printed something. -/
def refused (output message : String) : Ended :=
  ⟨1, output, "Error: " ++ message ++ "\n", [], none⟩

/-- A command that a failure ends: the engine's own failures have a message. -/
def failed (failure : Failure) : Ended :=
  if failure.isOfEngine then refused "" failure.text else ⟨1, "", "", [], some failure⟩

/-- The end of a command whose command line is not understood. -/
def misunderstood : Ended := ⟨2, "", "Error: Invalid command line\n", [], none⟩

def after (ended : Ended) (entries : List Entry) : Ended :=
  { ended with entries := entries ++ ended.entries }

end Ended

def lines (texts : List String) : String :=
  String.join (texts.map fun text => text ++ "\n")

/-! ## Validation -/

def capabilityNames (schema : Schema) : List String :=
  (if schema.softDeletes then ["soft deletes"] else []) ++
    (if schema.prunable then ["prunable"] else [])

def resourceLine (schema : Schema) : String :=
  let capabilities := capabilityNames schema
  let extra := if capabilities.isEmpty then "" else ", " ++ Text.join ", " capabilities
  "  ✓ " ++ schema.name.text ++ s!" (table: {schema.table}, {schema.readable.length} readable, " ++
    s!"{schema.writable.length} writable" ++ extra ++ ")"

def errorSummary (errors warnings : Nat) : String :=
  s!"\n{errors} error(s) found" ++ (if warnings = 0 then "" else s!", {warnings} warning(s)")

/-- The lines about issues without an error among them. -/
def warningSummary (warnings : Nat) : List String :=
  if warnings = 0 then [] else [s!"{warnings} warning(s) found."]

def resourceLines (registry : Registry) : Except Failure (List String) := do
  let schemas ← registry.schemas
  pure (s!"\nLoaded {schemas.length} resources:" :: schemas.map resourceLine)

def validLine : String := "\nAll metadata is valid."

/-- The end of a validation with the issues it found; `loaded` are the lines about what was
validated. -/
def validationEnd (issues : List Issue) (loaded : Except Failure (List String)) : Ended :=
  let errors := (issues.filter Issue.isError).length
  let warnings := issues.length - errors
  let found := issues.map Issue.text
  if errors = 0 then
    let before := found ++ warningSummary warnings
    match loaded with
    | .ok more => Ended.succeeded (lines (before ++ more ++ [validLine]))
    | .error failure => ⟨1, lines before, "", [], some failure⟩
  else { Ended.succeeded (lines (found ++ [errorSummary errors warnings])) with exitCode := 1 }

/-! ## Schemas -/

/-- The rules of a field as they are shown: bounds that are not set are left out. -/
def shownRules (rules : FieldRules) : Value :=
  let bounds : Record := [("min", rules.min), ("max", rules.max), ("minLength", rules.minLength),
    ("maxLength", rules.maxLength),
    ("pattern", (rules.pattern.map fun p => Value.str p.source).getD .null),
    ("options", (rules.options.map Value.list).getD .null)]
  .dict ([("type", .str rules.type.name), ("nullable", rules.nullable)] ++
    bounds.filter fun (_, value) => !value.isNull)

def names (names : List String) : Value :=
  .list (names.map Value.str)

def shownUnique : UniqueKey → Value
  | .single column => .str column
  | .composite columns => names columns

/-- A schema as it is shown, with the limits that hold and the kind of its model. -/
def shownSchema (schema : Schema) (settings : Settings) (kind : ModelKind) : Value :=
  let limits := schema.limits settings
  .dict [
    ("resource", schema.name),
    ("table", .str schema.table),
    ("primaryKey", .str schema.primaryKey),
    ("cursorField", .str schema.cursorField),
    ("readable", names schema.readable),
    ("writable", .dict (schema.writable.map fun (name, rules) => (name, shownRules rules))),
    ("required", names schema.required),
    ("related", .dict (schema.related.map fun (field, target) => (field, .str target))),
    ("unique", .list (schema.unique.map shownUnique)),
    ("search", names schema.searchTargets),
    ("defaultLimit", limits.default.toValue),
    ("maxLimit", limits.max.toValue),
    ("maxRelatedDepth", limits.relatedDepth.toValue),
    ("softDeletes", schema.deletedAt.getD .null),
    ("prunable", schema.pruneField.getD .null),
    ("upsertConflict", names schema.upsertConflict),
    ("hooks", .dict (schema.hooks.map fun (point, names) => (point, .list names))),
    ("model", .str kind.name)
  ]

/-- The indented JSON text of a value; with `lenient` what JSON cannot hold is written as text. -/
def jsonText (lenient : Bool) (value : Value) : Except Failure String :=
  match Json.write { Json.Style.indented with textForOthers := lenient } 0 value with
  | .ok text => .ok text
  | .error fault => .error (Transform.jsonFailure fault)

end Curator.Command
