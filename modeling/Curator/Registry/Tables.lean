import Curator.Registry.Basic
/-!
# Registries in tables

A registry as it is kept between calls, with the model classes themselves: a table of schemas, one of
the classes that came with them, and one of the classes made so far.  A call writes into the tables as
it goes along and leaves them as they are then, whether it returns or fails.
-/

set_option autoImplicit false

namespace Curator

/-! ## Model classes -/

/-- A capability that a model class mixes in. -/
inductive Mixin where
  | softDeletes
  | prunable
  | nullableJson
  deriving DecidableEq, Repr, Inhabited

/-- A class that a model class extends. -/
inductive Ancestor where
  | mixin (capability : Mixin)
  | plain
  deriving DecidableEq, Repr, Inhabited

/-- What a class does to remove a row. -/
inductive Removal where
  | trashing
  | deleting
  deriving DecidableEq, Repr, Inhabited

/-- The removal that a class defines, if it defines one. -/
def Ancestor.removal? : Ancestor → Option Removal
  | mixin .softDeletes => some .trashing
  | mixin _ => none
  | plain => some .deleting

structure ModelClass where
  name : String
  /-- The classes it extends, in the order in which they are searched for what it does not define. -/
  ancestors : List Ancestor
  /-- The JSON column in which null deletes keys, for a class that mixes in the work on one. -/
  jsonColumn : String
  deriving DecidableEq, Repr, Inhabited

namespace ModelClass

def plain : ModelClass := ⟨Registry.plainName, [.plain], ""⟩

/-- A class of its own with some capabilities in front of the plain model. -/
def built (mixins : List Mixin) (jsonColumn : String) : ModelClass :=
  ⟨Registry.customName, mixins.map .mixin ++ [.plain], jsonColumn⟩

def mixes (c : ModelClass) (capability : Mixin) : Bool :=
  c.ancestors.contains (.mixin capability)

/-- What a class does to remove a row: what the first of its ancestors does that defines it. -/
def removal? (c : ModelClass) : Option Removal :=
  c.ancestors.findSome? Ancestor.removal?

def capabilities (c : ModelClass) : Capabilities :=
  ⟨c.mixes .softDeletes, c.mixes .prunable,
    if c.mixes .nullableJson then some c.jsonColumn else none⟩

def kind (c : ModelClass) : ModelKind := ⟨c.name, c.capabilities⟩

/-- The capabilities that a schema switches on and a class lacks. -/
def missing (c : ModelClass) (schema : Schema) : List Mixin :=
  (if schema.softDeletes && !c.mixes .softDeletes then [.softDeletes] else []) ++
    (if schema.prunable && !c.mixes .prunable then [.prunable] else [])

/-- The class that serves a resource: the given one, or one that puts before it what it lacks. -/
def assembled (c : ModelClass) (resource : String) (schema : Schema) : ModelClass :=
  match c.missing schema with
  | [] => c
  | mixins =>
    ⟨Registry.modelName resource, mixins.map .mixin ++ c.ancestors, c.jsonColumn⟩

end ModelClass

/-- What may be given with a schema instead of the plain model. -/
inductive GivenClass where
  | other
  | model (mixins : List Mixin) (jsonColumn : String)
  deriving DecidableEq, Repr, Inhabited

/-- What a registry asks of a given class. -/
def GivenClass.described : GivenClass → CustomModel
  | other => .notAModel
  | model mixins jsonColumn => .withCapabilities (ModelClass.built mixins jsonColumn).capabilities

/-! ## Tables -/

/-- A table with one entry for each name. -/
abbrev Table (α : Type) := List (Value × α)

namespace Table

variable {α : Type}

/-- Whether a value can name an entry. -/
def names : Value → Bool
  | .list _ => false
  | .dict _ => false
  | _ => true

def get? (table : Table α) (name : Value) : Option α :=
  (table.find? fun entry => entry.1.same name).map (·.2)

def set (table : Table α) (name : Value) (a : α) : Table α :=
  if (table.get? name).isSome then
    table.map fun entry => if entry.1.same name then (entry.1, a) else entry
  else table ++ [(name, a)]

end Table

structure Tables where
  schemas : Table Schema
  /-- The classes that came with a schema. -/
  customs : Table ModelClass
  /-- The classes that were asked for. -/
  made : Table ModelClass

namespace Tables

/-- What is done to the tables in a call. -/
abbrev Work (α : Type) := ExceptT Failure (StateM Tables) α

/-- The outcome of work on the tables and the tables it leaves. -/
def after {α : Type} (tables : Tables) (work : Work α) : Except Failure α × Tables :=
  work.run tables

def empty : Tables := ⟨[], [], []⟩

/-- The given class, if the schema allows it. -/
def admitted (schema : Schema) (given : GivenClass) : Except Failure ModelClass := do
  let _ ← Registry.checkModel schema given.described
  match given with
  | .other => .error (.configuration (.notAModel schema.name))
  | .model mixins jsonColumn => pure (.built mixins jsonColumn)

/-- Keeps the class that is given with a schema. -/
def keepClass (schema : Schema) : Option GivenClass → Work Unit
  | none => pure ()
  | some given => do
    let served ← (admitted schema given : Except Failure ModelClass)
    modify fun tables => { tables with customs := tables.customs.set schema.name served }

def keepSchema (schema : Schema) : Work Unit :=
  modify fun tables => { tables with schemas := tables.schemas.set schema.name schema }

/-- Registers a schema, with a class of its own if one is given. -/
def register (schema : Schema) (given : Option GivenClass) : Work Unit := do
  let tables ← get
  if !Table.names schema.name then
    throw (.fault .type s!"unhashable type: '{schema.name.kindName}'")
  else if (tables.schemas.get? schema.name).isSome then
    throw (.configuration (.alreadyRegistered schema.name))
  else
    keepClass schema given
    keepSchema schema

/-- The class that serves a resource, which is made when it is asked for first. -/
def modelClass (name : String) : Work ModelClass := do
  let tables ← get
  match tables.schemas.get? (.str name) with
  | none => throw (.configuration (.unknownResource name))
  | some schema =>
    match tables.made.get? (.str name) with
    | some made => pure made
    | none =>
      let base := (tables.customs.get? (.str name)).getD .plain
      let served := base.assembled name schema
      modify fun tables => { tables with made := tables.made.set (.str name) served }
      pure served

end Tables

end Curator
