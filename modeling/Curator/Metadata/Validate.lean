import Curator.Metadata.Document
import Curator.Metadata.Load
/-!
# Validating metadata

Everything that is wrong with a directory: first the shapes of its documents and, if they are all
right, what the engine rejects when it takes the resources in.  Hooks that nobody registered are only
warnings.
-/

set_option autoImplicit false

namespace Curator.Metadata

inductive Severity where
  | error
  | warning
  deriving DecidableEq, Repr, Inhabited

def Severity.name : Severity → String
  | .error => "error"
  | .warning => "warning"

/-- Something wrong with a file. -/
structure Issue where
  file : String
  message : String
  /-- The place in the document; empty for the document as a whole. -/
  place : String
  severity : Severity
  deriving DecidableEq, Repr, Inhabited

namespace Issue

def text (i : Issue) : String :=
  let place := if i.place = "" then "" else " at " ++ i.place
  "[" ++ Text.upper i.severity.name ++ "] " ++ i.file ++ place ++ ": " ++ i.message

def ofFile (file message : String) : Issue :=
  ⟨file, message, "", .error⟩

def isError (i : Issue) : Bool :=
  i.severity == .error

/-- The issue taken for an error, whatever it is. -/
def escalated (i : Issue) : Issue :=
  { i with severity := .error }

end Issue

def documentIssues (file : String) (shape : Shape) (document : Value) : List Issue :=
  (orderedViolations shape document).map fun v =>
    ⟨file, v.breach.text, placeText v.path, .error⟩

def fileIssues (file : String) (shape : Shape) : Content → List Issue
  | .malformed words => [Issue.ofFile file ("YAML parse error: " ++ words)]
  | .document .null => [Issue.ofFile file "File is empty or contains only whitespace"]
  | .document v => documentIssues file shape v

def shapeFor (fileName : String) : Shape :=
  if fileName = settingsFile then settingsShape else resourceShape

/-- The warnings about hooks that are not registered, resource by resource. -/
def hookWarnings (d : Directory) (hooks : List String) (registry : Registry) :
    Except Failure (List Issue) := do
  let schemas ← registry.schemas
  let warnings ← schemas.mapM fun schema => do
    let missing ← Registry.missingHooks hooks schema
    pure (missing.map fun hook =>
      (⟨d.pathOf resourcesDirectory,
        (⟨schema.name, hook⟩ : Registry.UnknownHook).text, "", .warning⟩ : Issue))
  pure warnings.flatten

/-- The registry of a directory after all its references have been checked. -/
def checkedRegistry (d : Directory) (hooks : List String) : Except Failure Registry := do
  let registry ← registryOf (some d) none
  (registry.validate hooks).2
  pure registry

/-- The issues the engine has with a directory whose documents have their shapes. -/
def engineIssues (d : Directory) (hooks : List String) : Except Failure (List Issue) :=
  match checkedRegistry d hooks with
  | .ok registry => hookWarnings d hooks registry
  | .error failure =>
    if failure.isOfEngine then .ok [Issue.ofFile d.path failure.text] else .error failure

def shapeIssues (d : Directory) : List Issue :=
  let settings :=
    match d.settingsContent? with
    | some content => fileIssues (d.pathOf settingsFile) settingsShape content
    | none => []
  settings ++ d.resourceFiles.flatMap fun (path, content) => fileIssues path resourceShape content

def directoryIssues (d : Directory) (hooks : List String) : Except Failure (List Issue) := do
  let issues := shapeIssues d
  if issues.any Issue.isError then pure issues
  else do
    let more ← engineIssues d hooks
    pure (issues ++ more)

/-- The issues of a directory.  Strictly seen, warnings are errors. -/
def validate (path : String) (directory : Option Directory) (hooks : List String)
    (strict : Bool) : Except Failure (List Issue) := do
  let issues ←
    match directory with
    | none => pure [Issue.ofFile path ("Metadata directory does not exist: " ++ path)]
    | some d => directoryIssues d hooks
  pure (if strict then issues.map Issue.escalated else issues)

end Curator.Metadata
