import Curator.Model.Read
/-!
# Collections

The rows of a list request with what can be asked about them afterwards: paging, totals and
aggregates over all rows of the request.  Every question that goes to the database is counted.
-/

set_option autoImplicit false

namespace Curator

open Sql

structure Collection where
  plan : Plan
  spec : Spec
  rows : List Record
  /-- The values of the cursor field, row by row. -/
  cursors : List Value
  /-- How many queries were run for the collection. -/
  queries : Nat
  deriving Inhabited

def Model.listing (m : Model) (query : Value) (all : Bool) : Session Collection := do
  let spec ← Session.of (Spec.ofRaw query)
  let mode ← Model.mode
  let plan ← m.planFor spec mode all []
  let rows ← Model.planRows plan
  let cursors := rows.map fun row => (row.value? plan.schema.cursorField).getD .null
  let shown ← rows.mapM (m.shown plan)
  pure ⟨plan, spec, shown, cursors, 1⟩

namespace Collection

/-- The fetched row with a key. -/
def read (c : Collection) (key : Value) : Except Failure Record :=
  let hasKey := fun (row : Record) =>
    match row.value? c.plan.schema.primaryKey with
    | some value => value.same key
    | none => false
  match c.rows.find? hasKey with
  | some row => .ok row
  | none => .error (.absent .inCollection)

/-! ## Paging -/

/-- The token of a cursor value; null has none. -/
def cursorToken (value : Value) : Except Failure Value :=
  if value.isNull then .ok .null
  else do
    let token ← Cursor.encode value
    pure (.str token)

def endToken (value : Option Value) : Except Failure Value :=
  cursorToken (value.getD .null)

def cursorPaging (c : Collection) : Except Failure Value := do
  let first ← endToken c.cursors.head?
  let last ← endToken c.cursors.getLast?
  pure (.dict [("results", .dict [("current", .int c.rows.length)]),
    ("cursor", .dict [("first", first), ("last", last)])])

/-- The number of pages for a number of rows: the nearest floating-point quotient, rounded up.
Without a limit, or with none at all, there is one page. -/
def pageCount (total : Int) (limit : Option Int) : Except Failure Int :=
  match limit with
  | none => .ok 1
  | some limit =>
    if limit = 0 then .ok 1
    else
      match (Number.Binary64.quotient? total limit).bind (·.ceiling?) with
      | some pages => .ok pages
      | none => .error (.fault .overflow "integer division result too large for a float")

/-- What pages are there and which rows are on the one that was fetched. -/
structure PageWindow where
  current : Int
  total : Int
  start : Option Int
  stop : Option Int
  size : Int
  page : Int
  previous : Option Int
  next : Option Int
  pages : Int
  deriving DecidableEq, Repr

/-- The window of a page: `current` rows of `total` were fetched. -/
def PageWindow.of (current total page pages : Int) (limit : Option Int) : PageWindow :=
  let size := limit.getD current
  if 0 < current then
    let limitBound :=
      match limit with
      | none => total
      | some limit => if limit = 0 then total else limit * page
    let stop := min limitBound total
    ⟨current, total, some (stop - current + 1), some stop, size, page,
      if 1 < page then some (page - 1) else none, if page < pages then some (page + 1) else none,
      pages⟩
  else
    ⟨current, total, none, none, size, page,
      if 0 < pages ∧ page = 2 then some 1 else none, none, pages⟩

def PageWindow.toValue (w : PageWindow) : Value :=
  let number := fun (n : Option Int) => (n.map Value.int).getD .null
  .dict [
    ("results", .dict [("current", .int w.current), ("total", .int w.total),
      ("from", number w.start), ("to", number w.stop)]),
    ("page", .dict [("size", .int w.size), ("current", .int w.page),
      ("previous", number w.previous), ("next", number w.next), ("total", .int w.pages)])]

/-! ## Questions to the database -/

/-- The number of all rows of the request. -/
def total (c : Collection) : Session Int := do
  let dialect ← Session.dialect
  let selection ← Session.of (c.plan.selection dialect false)
  Session.total selection

def pagination (c : Collection) : Session (Collection × Except Failure Value) := do
  let token := Text.lower c.spec.pagination
  if token = "" then pure (c, .ok (.dict []))
  else if token = "cursor" then pure (c, c.cursorPaging)
  else if token = "page" then do
    let counted ← Session.outcomeOf c.total
    let c := { c with queries := c.queries + 1 }
    match counted with
    | .error failure => pure (c, .error failure)
    | .ok total =>
      match pageCount total c.plan.limit with
      | .error failure => pure (c, .error failure)
      | .ok pages =>
        pure (c, .ok (PageWindow.of c.rows.length total c.spec.page pages c.plan.limit).toValue)
  else pure (c, .error (.request (.paginationToken token)))

def aggregateColumn (schema : Schema) : Value → Except Failure Column
  | .str name =>
    if schema.readable.contains name then .ok ⟨name, some schema.table, []⟩
    else .error (.request (.aggregateField (.str name)))
  | other => .error (Failure.quoting other fun v => .request (.aggregateField v))

def putAggregate (found : Record) (column name : String) (value : Value) : Record :=
  let ofColumn := (((found.value? column).bind Value.dict?).getD [])
  found.put column (.dict (Mapping.put name value ofColumn))

def clauseAggregates (c : Collection) (found : Record) :
    List (String × Value) → Session (Collection × Except Failure Record)
  | [] => pure (c, .ok found)
  | (function, operand) :: rest => do
    let dialect ← Session.dialect
    let prepared : Except Failure (Aggregate × Column × Select) := do
      let aggregate ← Aggregate.ofValue (.str function)
      let column ← aggregateColumn c.plan.schema operand
      let selection ← c.plan.selection dialect false
      pure (aggregate, column, selection)
    match prepared with
    | .error failure => pure (c, .error failure)
    | .ok (aggregate, column, selection) =>
      let outcome ←
        Session.outcomeOf (Session.aggregate selection (.str aggregate.name) (some column))
      let c := { c with queries := c.queries + 1 }
      match outcome with
      | .error failure => pure (c, .error failure)
      | .ok value => clauseAggregates c (putAggregate found column.name aggregate.name value) rest

/-- The aggregates of several clauses, each a mapping of functions to columns. -/
def aggregates (c : Collection) (found : Record) :
    List Value → Session (Collection × Except Failure Value)
  | [] => pure (c, .ok (.dict found))
  | .dict entries :: rest => do
    let (c, outcome) ← c.clauseAggregates found entries
    match outcome with
    | .error failure => pure (c, .error failure)
    | .ok found => aggregates c found rest
  | _ :: _ => pure (c, .error (.request .aggregateClause))

def clauses (c : Collection) : List Value :=
  match c.spec.aggregate with
  | .list items => items
  | other => [other]

/-- The answer to a question, and the collection with its queries counted. -/
def ask (c : Collection) : CollectionCall → Session (Collection × Except Failure Value)
  | .pagination => c.pagination
  | .aggregate => c.aggregates [] c.clauses
  | .total => do
    let outcome ← Session.outcomeOf c.total
    pure ({ c with queries := c.queries + 1 }, outcome.map Value.int)
  | .read key => pure (c, (c.read key).map Value.dict)
  | .queryCount => pure (c, .ok (.int c.queries))
  | .rows =>
    pure (c, .ok (.list [.list (c.rows.map Value.dict), .int c.rows.length, .int c.rows.length]))

/-- The answers to several questions in order. -/
def askAll (c : Collection) : List CollectionCall → Session (List (Except Failure Value))
  | [] => pure []
  | question :: rest => do
    let (c, answer) ← c.ask question
    let answers ← askAll c rest
    pure (answer :: answers)

/-- The collection as it is handed out. -/
def answered (c : Collection) (questions : List CollectionCall) : Session Answer := do
  let answers ← c.askAll questions
  pure (.listing ⟨c.rows, c.plan.limit, c.plan.schema.cursorField, c.plan.schema.primaryKey, answers⟩)

end Collection

end Curator
