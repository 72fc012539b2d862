import Curator.Database.Statement
import Curator.Event.Emit
import Curator.Hook.Run
import Curator.Plan.Compile
/-!
# Models

The model of a resource carries out operations on its rows.  An operation may be part of another one:
a hook can ask its own model for more work.  Only the outermost operation runs the hooks for its
begin and its completion, and when it ends, in whatever way, the model's state is idle again.
-/

set_option autoImplicit false

namespace Curator

open Calendar Sql

/-- What all models of a service share. -/
structure Engine where
  registry : Registry
  hooks : HookTable
  now : Moment
  deriving Inhabited

structure Model where
  engine : Engine
  schema : Schema
  kind : ModelKind
  /-- Performs a step that a hook of this model asks for. -/
  perform : Step → Session Answer

/-- Work as an operation: within another operation it is just done; by itself it is put between its
begin and its completion, and leaves an idle model. -/
def Session.outermost {α : Type} (begin complete : Session Unit) (work : Session α) : Session α :=
  fun s =>
    if s.model.begun then work s
    else
      let whole : Session α := do
        begin
        let result ← work
        complete
        pure result
      let ran := whole { s with model := { s.model with begun := true } }
      { ran with state := { ran.state with model := .idle } }

namespace Model

variable {α : Type}

def atPoint (m : Model) (point : HookPoint) (record : Record) (previous : Option Record) :
    Session Record := do
  match m.schema.hookNames point.name with
  | [] => pure record
  | names =>
    let context := HookContext.at m.schema.name point.name record previous
    let ran ← Hook.runAll m.perform m.engine.hooks context names record []
    match ran.updates with
    | .error failure => Session.fail failure
    | .ok _ => pure ran.record

/-- Runs the hooks of a point, whatever record they leave. -/
def notify (m : Model) (point : HookPoint) (record : Record) (previous : Option Record) :
    Session Unit := do
  let _ ← m.atPoint point record previous
  pure ()

/-- Work as an operation of the model. -/
def tracked (m : Model) (work : Session α) : Session α :=
  Session.outermost (m.notify .begin [] none) (m.notify .complete [] none) work

/-- The failure of an operation that a model does not have. -/
def noOperation (name : String) : Failure :=
  .fault .attribute s!"model has no operation '{name}'"

/-- Work for which a model needs a capability; without it there is no such operation. -/
def requires (capable : Bool) (name : String) (work : Session α) : Session α :=
  if capable then work else Session.fail (noOperation name)

/-! ## Selections -/

def column (m : Model) (name : String) : Column :=
  ⟨name, some m.schema.table, []⟩

def rowsOf (table : String) : Session Select := do
  let dialect ← Session.dialect
  Session.of ((Select.new dialect).from_ table)

def rows (m : Model) : Session Select :=
  rowsOf m.schema.table

/-- A selection narrowed to the rows that a column test holds for. -/
def narrowed (selection : Select) (column : Column) (operator : Operator) (operand : Value) :
    Session Select :=
  Session.of (selection.where_ .and column operator operand)

/-- A selection narrowed to the rows that a mode makes visible. -/
def visible (m : Model) (selection : Select) (mode : TrashedMode) : Session Select :=
  if !m.schema.softDeletes then pure selection
  else
    let marker := m.column m.schema.deletedAtColumn
    match mode with
    | .include_ => pure selection
    | .only => narrowed selection marker .isNotNull (.bool true)
    | .exclude => narrowed selection marker .isNull (.bool true)

def mode : Session TrashedMode := do
  let state ← Session.model
  pure state.trashed

/-- Lets the next operation see other rows than usual. -/
def seeing (m : Model) (mode : TrashedMode) : Session Unit := do
  if m.kind.capabilities.softDeletes then
    let state ← Session.model
    Session.setModel { state with trashed := mode }
  else Session.fail (.unexpected (.noSoftDeletes "query" m.schema.name))

/-- The text of a model: its kind and its resource. -/
def text (m : Model) : String :=
  "<" ++ m.kind.name ++ " " ++ m.schema.name.text ++ ">"

end Model

end Curator
