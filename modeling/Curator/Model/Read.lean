import Curator.Model.Basic
import Curator.Timestamp
/-!
# Reading

Rows of a resource, fetched by a plan, reshaped, and passed through the hooks for reading.
-/

set_option autoImplicit false

namespace Curator.Model

open Sql

def planMessage (plan : Plan) : String :=
  let limit :=
    match plan.limit with
    | none => "None"
    | some limit => toString limit
  "Compiled " ++ plan.schema.name.text ++
    s!": {plan.columns.length} column(s), {plan.joins.length} join(s), " ++
    s!"{plan.steps.length} condition(s), limit={limit}"

def planFor (m : Model) (spec : Spec) (mode : TrashedMode) (all : Bool) (equals : Record) :
    Session Plan := do
  let setting : Plan.Setting := ⟨m.engine.registry, m.engine.registry.settings, m.engine.now⟩
  let plan ← Session.of (Plan.compile setting m.schema spec mode all equals)
  Session.log .debug (planMessage plan)
  pure plan

def planRows (plan : Plan) : Session (List Record) := do
  let dialect ← Session.dialect
  let selection ← Session.of (plan.selection dialect true)
  Session.fetch selection

/-- A row as it is handed out. -/
def shown (m : Model) (plan : Plan) (row : Record) : Session Record := do
  let record ← Session.of (plan.reshape row)
  m.atPoint .afterRead record none

/-- The row with a key. -/
def fetchRow (m : Model) (key : Value) (fields : List String) (mode : TrashedMode) :
    Session Record := do
  let plan ← m.planFor (Spec.ofFields fields) mode true [(m.schema.primaryKey, key)]
  let rows ← planRows plan
  match rows with
  | [] => Session.fail (.absent .read)
  | row :: _ => m.shown plan row

def resource (m : Model) (key : Value) (mode : TrashedMode) : Session Resource := do
  let data ← m.fetchRow key [] mode
  pure ⟨m.schema.name, m.schema.primaryKey, data⟩

/-- The row with a key as a resource, if the operation under way sees it. -/
def visibleResource (m : Model) (key : Value) : Session Resource := do
  let mode ← mode
  m.resource key mode

def readRow (m : Model) (key : Value) (fields : List String) : Session Record := do
  let mode ← mode
  m.fetchRow key fields mode

/-- Whether there is a visible row with a key. -/
def hasKey (m : Model) (key : Value) : Session Bool := do
  let selection ← m.rows
  let selection ← narrowed selection (m.column m.schema.primaryKey) .eq key
  let mode ← mode
  let selection ← m.visible selection mode
  let count ← Session.total selection
  pure (decide (0 < count))

def countVisible (m : Model) : Session Int := do
  let selection ← m.rows
  let mode ← mode
  let selection ← m.visible selection mode
  Session.total selection

/-- The row with a key as it is stored; nothing at all if there is none. -/
def storedRow (m : Model) (key : Value) : Session Record := do
  let selection ← m.rows
  let selection ← narrowed selection (m.column m.schema.primaryKey) .eq key
  let rows ← Session.fetch { selection with limit := some 1 }
  pure (rows.head?.getD [])

/-- The keys of the rows in which a column stands for a moment before a given one. -/
def keysBefore (m : Model) (name : String) (before : Value) : Session (List Value) := do
  let selection ← m.rows
  let selection ←
    Session.of (selection.column (m.column m.schema.primaryKey) (some m.schema.primaryKey))
  let limit ← Session.of (timestamp m.engine.now before)
  let selection ← narrowed selection (m.column name) .lt (.str limit)
  let rows ← Session.fetch selection
  Session.of (rows.mapM fun row => Session.columnValue row m.schema.primaryKey)

end Curator.Model
