import Curator.Session
import Curator.Sql.Write
import Curator.Value.Conversion
/-!
# Statements

Running statements on the database of a session.  Every statement ends by itself: it is committed
if the database performs it and rolled back if it is refused.
-/

set_option autoImplicit false

namespace Curator.Session

open Sql

/-! ## Connections -/

def connect : Session Unit := do
  let s ← state
  setDatabase { s.database with pending := some s.database.answers }
  record (.connected s.database.dialect s.database.target)

/-- Closes the connection, if there is one. -/
def disconnect : Session Unit := do
  let s ← state
  if s.database.pending.isSome then
    setDatabase { s.database with pending := none }
    record .disconnected
  else pure ()

/-! ## Single statements -/

def statementMessage (f : Fragment) : String :=
  s!"SQL: {f.sql} ({f.params.length} params)"

/-- Runs a statement. -/
def execute (f : Fragment) : Session Answered := do
  let s ← state
  match s.database.pending with
  | none => fail (.misuse .notConnected)
  | some pending =>
    log .debug (statementMessage f)
    setDatabase { s.database with pending := some pending.tail }
    match pending.head? with
    | some (.refused kind words) =>
      record (.statement f.sql f.params false)
      fail (s.database.dialect.refusalFailure kind words)
    | some (.answered answer) =>
      record (.statement f.sql f.params true)
      pure answer
    | none =>
      record (.statement f.sql f.params true)
      pure Answered.empty

/-- Runs a writing statement and counts the rows it wrote. -/
def write (f : Fragment) : Session Int := do
  let answer ← execute f
  pure answer.count

def select (f : Fragment) : Session (List Record) := do
  let answer ← execute f
  pure answer.rows

/-- The first row of a selection. -/
def row? (f : Fragment) : Session (Option Record) := do
  let rows ← select f
  pure rows.head?

/-- The first value of the first row; null without one. -/
def single (f : Fragment) : Session Value := do
  let row ← row? f
  pure (((row.bind List.head?).map (·.2)).getD .null)

/-- A value as a count, where whatever counts as false is zero. -/
def countOf (value : Value) : Except Failure Int :=
  if value.truthy then value.toInteger else .ok 0

/-- The first value of the first row as a count. -/
def counted (f : Fragment) : Session Int := do
  let value ← single f
  of (countOf value)

/-! ## Rows of a table -/

def keepLastId (lastId : Value) : Session Unit := do
  let s ← state
  setDatabase { s.database with lastId }

def lastId : Session Value := do
  let s ← state
  pure s.database.lastId

/-- The value of a column of a row, which must have it. -/
def columnValue (row : Record) (column : String) : Except Failure Value :=
  match row.value? column with
  | some value => .ok value
  | none => .error (.fault .key column)

/-- The key of an inserted row as the statement returned it. -/
def returnedKey (rows : List Record) (column : String) : Except Failure Value :=
  match rows with
  | [] => .ok .null
  | row :: _ => if row.isEmpty then .ok .null else columnValue row column

/-- Runs an insert.  One kind of database tells the new key by itself, the other returns the column
it is asked for. -/
def runInsert (f : Fragment) (returning : Option String) : Session Int := do
  let dialect ← dialect
  match dialect, returning.filter (· != "") with
  | .sqlite, _ =>
    let answer ← execute f
    keepLastId answer.lastId
    pure answer.count
  | .postgresql, none =>
    let answer ← execute f
    keepLastId .null
    pure answer.count
  | .postgresql, some column =>
    let name ← of (quote column)
    let answer ← execute ⟨f.sql ++ " RETURNING " ++ name, f.params⟩
    let key ← of (returnedKey answer.rows column)
    keepLastId key
    pure answer.count

def insert (table : String) (fields : Record) (onConflict : OnConflict)
    (returning : Option String) : Session Int :=
  if fields.isEmpty then fail (.misuse .emptyRow)
  else do
    let dialect ← dialect
    let statement ← of (insertSql dialect table fields onConflict)
    runInsert statement returning

/-- Updates the rows with given values; without fields nothing is done. -/
def update (table : String) (fields filter : Record) : Session Int :=
  if fields.isEmpty then pure 0
  else do
    let dialect ← dialect
    let statement ← of (updateSql dialect table fields filter)
    write statement

def delete (table : String) (filter : Record) : Session Int := do
  let dialect ← dialect
  let statement ← of (deleteSql dialect table filter)
  write statement

/-- Whether a row has given values. -/
def hasRow (table : String) (filter : Record) : Session Bool := do
  let dialect ← dialect
  let statement ← of (existsSql dialect table filter)
  let row ← row? statement
  pure row.isSome

def countRows (table : String) (filter : Record) : Session Int := do
  let dialect ← dialect
  let statement ← of (countSql dialect table filter)
  counted statement

/-! ## Selections -/

def fetch (selection : Select) : Session (List Record) := do
  let statement ← of selection.toSql
  select statement

def aggregate (selection : Select) (function : Value) (column : Option Column) : Session Value := do
  let statement ← of (selection.aggregateSql function column)
  single statement

def total (selection : Select) : Session Int := do
  let statement ← of selection.countSql
  counted statement

/-- Deletes the rows of a selection. -/
def remove (selection : Select) : Session Int := do
  let statement ← of selection.deleteSql
  write statement

end Curator.Session
