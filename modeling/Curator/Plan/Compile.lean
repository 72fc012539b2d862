import Curator.Plan.Selection
import Curator.Request.Cursor
import Curator.Request.Spec
import Curator.Request.Variable
/-!
# Compiling requests

The plan of a list request.  Conditions apply in a fixed order: the exclusion of trashed related
rows, the filter as it was given, the visibility of trashed rows of the root, extra equalities, the
search, and the cursor.
-/

set_option autoImplicit false

namespace Curator

open Sql Calendar

namespace Plan

/-- The column of the root resource that a filter or a search names. -/
def rootColumn (schema : Schema) (name : String) : Except Failure Column :=
  let keys := jsonPath name
  if keys.all Text.isJsonKey then .ok ⟨baseField name, some schema.table, keys⟩
  else .error (.request (.filterField name))

/-- The connector a key of a filter stands for: AND or OR in any case behind any underscores. -/
def groupConnector? (key : String) : Option Connector :=
  let word := Text.upper (Text.dropLeading (· == '_') key)
  if word = "AND" then some .and else if word = "OR" then some .or else none

/-- The tests of one field of a filter: its operators in order. -/
def fieldTests (now : Moment) (connector : Connector) (key : String) (column : Column) :
    List (String × Value) → Except Failure (List PlanStep)
  | [] => .ok []
  | (name, operand) :: rest =>
    match Operator.ofName? name with
    | none => .error (.request (.filterDefinition key))
    | some operator => do
      let operand ← operand.expand now
      let others ← fieldTests now connector key column rest
      pure (.test connector column operator operand :: others)

/-- The tests of a field that is given with its operators. -/
def fieldSteps (schema : Schema) (now : Moment) (connector : Connector) (key : String) :
    Value → Except Failure (List PlanStep)
  | .dict (first :: rest) => do
    let column ← rootColumn schema key
    fieldTests now connector key column (first :: rest)
  | _ => .error (.request .filterOperand)

/-- Refuses a group that is nested too deep. -/
def checkDepth (maxDepth : Option Int) (depth : Nat) : Except Failure Unit :=
  match maxDepth with
  | none => .ok ()
  | some limit =>
    if limit < ((depth + 1 : Nat) : Int) then .error (.request (.filterDepth limit)) else .ok ()

/-- The steps of an entry: a group if its key is a connector, whose inside the last argument makes,
and otherwise a field with its operators. -/
def entrySteps (schema : Schema) (now : Moment) (maxDepth : Option Int) (connector : Connector)
    (depth : Nat) (key : String) (value : Value)
    (inside : Connector → Except Failure (List PlanStep)) : Except Failure (List PlanStep) :=
  match groupConnector? key with
  | some inner => do
    checkDepth maxDepth depth
    let steps ← inside inner
    pure (.opening connector :: steps ++ [.closing])
  | none =>
    if schema.isReadable key then fieldSteps schema now connector key value
    else .error (.request (.filterField key))

mutual

/-- The steps of the items of a list, every one of which must be a mapping. -/
def filterItems (schema : Schema) (now : Moment) (maxDepth : Option Int) (connector : Connector)
    (depth : Nat) : List Value → Except Failure (List PlanStep)
  | [] => .ok []
  | .dict entries :: rest => do
    let steps ← filterEntries schema now maxDepth connector depth entries
    let others ← filterItems schema now maxDepth connector depth rest
    pure (steps ++ others)
  | _ :: _ => .error (.request .filterFormat)

/-- The steps of the entries of a mapping: groups, and fields with their operators. -/
def filterEntries (schema : Schema) (now : Moment) (maxDepth : Option Int) (connector : Connector)
    (depth : Nat) : List (String × Value) → Except Failure (List PlanStep)
  | [] => .ok []
  | (key, value) :: rest => do
    let steps ← filterEntry schema now maxDepth connector depth key value
    let others ← filterEntries schema now maxDepth connector depth rest
    pure (steps ++ others)

def filterEntry (schema : Schema) (now : Moment) (maxDepth : Option Int) (connector : Connector)
    (depth : Nat) (key : String) : Value → Except Failure (List PlanStep)
  | .list items =>
    entrySteps schema now maxDepth connector depth key (.list items) fun inner =>
      filterItems schema now maxDepth inner (depth + 1) items
  | .dict entries =>
    entrySteps schema now maxDepth connector depth key (.dict entries) fun inner =>
      filterEntries schema now maxDepth inner (depth + 1) entries
  | other =>
    entrySteps schema now maxDepth connector depth key other fun _ =>
      .error (.request (.filterGroup key))

end

/-- The steps of a node of a filter: a list of entries or a single one; anything empty has none. -/
def filterSteps (schema : Schema) (now : Moment) (maxDepth : Option Int) (connector : Connector)
    (depth : Nat) : Value → Except Failure (List PlanStep)
  | .list items => filterItems schema now maxDepth connector depth items
  | .dict entries => filterEntries schema now maxDepth connector depth entries
  | .null => .ok []
  | .bool b => if b then .error (.request .filterFormat) else .ok []
  | .int n => if n = 0 then .ok [] else .error (.request .filterFormat)
  | .float x => if x.isZero then .ok [] else .error (.request .filterFormat)
  | .str s => if s = "" then .ok [] else .error (.request .filterFormat)
  | .bytes data => if data.isEmpty then .ok [] else .error (.request .filterFormat)
  | .date _ => .error (.request .filterFormat)
  | .moment _ => .error (.request .filterFormat)

/-- The step that keeps the rows of the root a mode makes visible. -/
def visibilitySteps (schema : Schema) (mode : TrashedMode) : List PlanStep :=
  if !schema.softDeletes then []
  else
    let step := fun (operator : Operator) =>
      PlanStep.test .and ⟨schema.deletedAtColumn, some schema.table, []⟩ operator (.bool true)
    match mode with
    | .include_ => []
    | .only => [step .isNotNull]
    | .exclude => [step .isNull]

/-- The steps that compare root columns with given values. -/
def equalitySteps (schema : Schema) (values : Record) : List PlanStep :=
  values.map fun (name, value) => .test .and ⟨name, some schema.table, []⟩ .eq value

/-- The steps of a search: one of the targets must hold the text. -/
def searchSteps (schema : Schema) (search : String) : Except Failure (List PlanStep) :=
  if search = "" then .ok []
  else do
    let tests ← schema.searchTargets.mapM fun name => do
      let column ← rootColumn schema name
      pure (PlanStep.test .or column .icontains (.str search))
    pure (.opening .and :: tests ++ [.closing])

/-- One field of the order: a column of the root behind its sign. -/
def sortItem (schema : Schema) (token : String) : Except Failure String :=
  let name := Text.dropLeading (fun c => c == '+' || c == '-') token
  if schema.readable.contains name then
    .ok ((if Text.startsWith token "-" then "-" else "") ++ schema.table ++ "." ++ name)
  else .error (.request (.sortField token))

/-- The order of the rows; without one they come by primary key. -/
def sortOrder (schema : Schema) (tokens : List String) : Except Failure (List String) :=
  if tokens.isEmpty then .ok [schema.table ++ "." ++ schema.primaryKey]
  else tokens.mapM (sortItem schema)

def groupColumn (schema : Schema) (name : String) : Except Failure String :=
  if schema.readable.contains name then .ok (schema.table ++ "." ++ name)
  else .error (.request (.groupField name))

/-- The limit that holds for a request: none asked for gives the default, -1 the most allowed. -/
def effectiveLimit (requested : Option Int) (defaultLimit maxLimit : Int) :
    Except Failure (Option Int) :=
  match requested with
  | none => .ok (if defaultLimit = -1 then none else some defaultLimit)
  | some n =>
    if n = -1 then .ok (if maxLimit = -1 then none else some maxLimit)
    else if maxLimit ≠ -1 ∧ maxLimit < n then .error (.request (.limitExceeded maxLimit))
    else .ok (some n)

def pageOffset (spec : Spec) (limit : Option Int) : Option Int :=
  match spec.method, limit with
  | .page, some limit => if 1 < spec.page then some (limit * (spec.page - 1)) else none
  | _, _ => none

/-- The step that keeps the rows on one side of a cursor. -/
def cursorSteps (schema : Schema) (spec : Spec) : Except Failure (List PlanStep) :=
  let step := fun (operator : Operator) => do
    let value ← Cursor.decode spec.cursor
    pure [PlanStep.test .and ⟨schema.cursorField, some schema.table, []⟩ operator value]
  match spec.method with
  | .page => .ok []
  | .after => step .gt
  | .before => step .lt

/-- What a compilation depends on besides the request. -/
structure Setting where
  registry : Registry
  settings : Settings
  now : Moment
  deriving Inhabited

/-- The plan of a request on a resource.  With `listAll` limits and paging are left aside. -/
def compile (setting : Setting) (schema : Schema) (spec : Spec) (trashed : TrashedMode)
    (listAll : Bool) (equals : Record) : Except Failure Plan := do
  let limits := schema.limits setting.settings
  let fields := if spec.fields.isEmpty then ["*"] else spec.fields
  let selected ←
    FieldSelection.ofFields setting.registry limits.relatedDepth.toInt schema fields
  let filter ←
    filterSteps schema setting.now setting.settings.maxFilterDepth .and 0 spec.filter
  let search ← searchSteps schema spec.search
  let order ← sortOrder schema spec.sort
  let group ← spec.group.mapM (groupColumn schema)
  let limit ←
    if listAll then pure none
    else effectiveLimit spec.limit limits.default.toInt limits.max.toInt
  let cursor ← if listAll then pure [] else cursorSteps schema spec
  pure {
    schema
    columns := selected.columns
    joins := selected.joins
    steps := selected.exclusions ++ filter ++ visibilitySteps schema trashed ++
      equalitySteps schema equals ++ search ++ cursor
    order
    group
    limit
    offset := if listAll then none else pageOffset spec limit
    keepCursor := fields.contains schema.cursorField ||
      fields.any fun field => Text.startsWith field "*"
    related := selected.related
  }

end Plan

end Curator
