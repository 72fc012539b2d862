import Curator.Schema.Basic
import Curator.Text.Casing
import Curator.Transform.Registry
/-!
# Registries

The resources of an engine and the kind of model that serves each: a model of its own or the plain
one, with the capabilities its schema switches on added where the model lacks them.
-/

set_option autoImplicit false

namespace Curator

/-- What a model can do beyond the common operations. -/
structure Capabilities where
  softDeletes : Bool
  prunable : Bool
  /-- The JSON column in which null deletes keys. -/
  nullableJson : Option String
  deriving DecidableEq, Repr, Inhabited

/-- A model that is registered with a resource instead of the plain one. -/
inductive CustomModel where
  | notAModel
  | withCapabilities (capabilities : Capabilities)
  deriving DecidableEq, Repr, Inhabited

/-- The kind of model that serves a resource. -/
structure ModelKind where
  name : String
  capabilities : Capabilities
  deriving DecidableEq, Repr, Inhabited

structure Registration where
  schema : Schema
  custom : Option Capabilities
  deriving Inhabited

/-- Resources in the order they were registered. -/
structure Registry where
  settings : Settings
  registrations : List Registration
  deriving Inhabited

namespace Registry

def empty (settings : Settings) : Registry := ⟨settings, []⟩

def registration? (r : Registry) (name : Value) : Option Registration :=
  r.registrations.find? fun registration => registration.schema.name.same name

def has (r : Registry) (name : String) : Bool :=
  (r.registration? (.str name)).isSome

def schema (r : Registry) (name : String) : Except Failure Schema :=
  match r.registration? (.str name) with
  | some registration => .ok registration.schema
  | none => .error (.configuration (.unknownResource name))

def checkModel (schema : Schema) : CustomModel → Except Failure Capabilities
  | .notAModel => .error (.configuration (.notAModel schema.name))
  | .withCapabilities c =>
    if c.softDeletes && !schema.softDeletes then
      .error (.configuration (.softDeletesUnset schema.name))
    else if c.prunable && !schema.prunable then
      .error (.configuration (.prunableUnset schema.name))
    else
      match c.nullableJson with
      | none => .ok c
      | some field =>
        if schema.isWritable field then .ok c
        else .error (.configuration (.nullableNotWritable schema.name field))

def register (r : Registry) (schema : Schema) (model : Option CustomModel) :
    Except Failure Registry :=
  if !(match schema.name with | .list _ => false | .dict _ => false | _ => true) then
    .error (.fault .type s!"unhashable type: '{schema.name.kindName}'")
  else if (r.registration? schema.name).isSome then
    .error (.configuration (.alreadyRegistered schema.name))
  else
    match model with
    | none => .ok { r with registrations := r.registrations ++ [⟨schema, none⟩] }
    | some model => do
      let capabilities ← checkModel schema model
      pure { r with registrations := r.registrations ++ [⟨schema, some capabilities⟩] }

/-- Inserts a registration before the first one with a greater name; names that have no order are a
fault. -/
def insertByName (registration : Registration) :
    List Registration → Except Failure (List Registration)
  | [] => .ok [registration]
  | first :: rest =>
    match registration.schema.name.less? first.schema.name with
    | none => .error (.fault .type "'<' not supported between these names")
    | some true => .ok (registration :: first :: rest)
    | some false => do
      let rest ← insertByName registration rest
      pure (first :: rest)

/-- The registrations in ascending order of their names. -/
def sorted (r : Registry) : Except Failure (List Registration) :=
  r.registrations.foldlM (fun acc registration => insertByName registration acc) []

def names (r : Registry) : Except Failure (List Value) := do
  let registrations ← r.sorted
  pure (registrations.map (·.schema.name))

def schemas (r : Registry) : Except Failure (List Schema) := do
  let registrations ← r.sorted
  pure (registrations.map (·.schema))

/-- The name of the model made for a resource: the parts of its name, each with a capital. -/
def modelName (resource : String) : String :=
  let parts := Text.split (Text.replace resource "-" "_") "_"
  String.join (parts.map Text.capitalized) ++ "Model"

def customName : String := "Custom"

def plainName : String := "ResourceModel"

/-- The kind of model that serves a schema, with the capabilities the schema switches on. -/
def kindFor (name : String) (schema : Schema) (custom : Option Capabilities) : ModelKind :=
  let base := custom.getD ⟨false, false, none⟩
  let addsSoftDeletes := schema.softDeletes && !base.softDeletes
  let addsPrunable := schema.prunable && !base.prunable
  let capabilities : Capabilities :=
    ⟨base.softDeletes || addsSoftDeletes, base.prunable || addsPrunable, base.nullableJson⟩
  let baseName := if custom.isSome then customName else plainName
  ⟨if addsSoftDeletes || addsPrunable then modelName name else baseName, capabilities⟩

def modelKind (r : Registry) (name : String) : Except Failure ModelKind :=
  match r.registration? (.str name) with
  | some registration => .ok (kindFor name registration.schema registration.custom)
  | none => .error (.configuration (.unknownResource name))

/-- Whether the name of a hook is among the registered ones. -/
def hookKnown (hooks : List String) : Value → Except Failure Bool
  | .str name => .ok (hooks.contains name)
  | .list _ => .error (.fault .type "unhashable type: 'list'")
  | .dict _ => .error (.fault .type "unhashable type: 'dict'")
  | _ => .ok false

/-- The hooks of a schema that are not registered, each once, in order. -/
def missingHooks (hooks : List String) (schema : Schema) : Except Failure (List Value) :=
  (schema.hooks.flatMap (·.2)).foldlM (fun missing name => do
    let known ← hookKnown hooks name
    pure (if known || name.isAmong missing then missing else missing ++ [name])) []

def unregisteredHooks (r : Registry) (hooks : List String) (name : String) :
    Except Failure (List Value) := do
  let schema ← r.schema name
  missingHooks hooks schema

/-- The related fields of a schema whose resources are not there. -/
def unknownTargets (r : Registry) (schema : Schema) : List ReferenceFault :=
  (schema.related.filter fun (_, target) => !r.has target).map fun (field, target) =>
    ReferenceFault.unknownTarget schema.name field target

/-- The declared transforms of a schema that cannot be found. -/
def unknownTransforms (schema : Schema) (use : TransformUse) :
    List (String × Value) → Except Failure (List ReferenceFault)
  | [] => .ok []
  | (field, declaration) :: rest => do
    let faults ← unknownTransforms schema use rest
    match TransformTable.standard.resolve declaration with
    | .ok _ => pure faults
    | .error (.unexpected (.transform fault)) =>
      pure (ReferenceFault.transform schema.name field use fault :: faults)
    | .error failure => .error failure

/-- What one schema gets wrong about the other resources and about transforms. -/
def referenceFaults (r : Registry) (schema : Schema) : Except Failure (List ReferenceFault) := do
  let mutators ← unknownTransforms schema .mutator schema.mutators
  let accessors ← unknownTransforms schema .accessor schema.accessors
  pure (r.unknownTargets schema ++ mutators ++ accessors)

/-- A hook that a resource names and nobody registered. -/
structure UnknownHook where
  resource : Value
  hook : Value

def UnknownHook.text (u : UnknownHook) : String :=
  "Resource '" ++ u.resource.text ++ "' references unregistered hook '" ++ u.hook.text ++ "'"

/-- The unregistered hooks of several schemas and what they get wrong, up to the first that cannot be
checked at all. -/
def examine (r : Registry) (hooks : List String) :
    List Schema → List UnknownHook × Except Failure (List ReferenceFault)
  | [] => ([], .ok [])
  | schema :: rest =>
    let checked : Except Failure (List ReferenceFault × List Value) := do
      let faults ← r.referenceFaults schema
      let missing ← missingHooks hooks schema
      pure (faults, missing)
    match checked with
    | .error failure => ([], .error failure)
    | .ok (faults, missing) =>
      let (unknown, others) := r.examine hooks rest
      (missing.map (fun hook => ⟨schema.name, hook⟩) ++ unknown, others.map (faults ++ ·))

/-- Checks that every reference between resources and every transform resolves.  Hooks that are not
registered are no failure; they are given beside the outcome, in order of the resources. -/
def validate (r : Registry) (hooks : List String) : List UnknownHook × Except Failure Unit :=
  match r.schemas with
  | .error failure => ([], .error failure)
  | .ok schemas =>
    let (unknown, found) := r.examine hooks schemas
    match found with
    | .error failure => (unknown, .error failure)
    | .ok [] => (unknown, .ok ())
    | .ok faults => (unknown, .error (.configuration (.references faults)))

end Registry

end Curator
