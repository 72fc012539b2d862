import Curator.Failure.Basic
import Curator.Sql.Predicate
import Curator.Text.Casing
/-!
# Selections

A statement in the making: its table, columns, joins, conditions, order, groups and limits.  Every
clause that is added is rendered and checked at once; one that is refused leaves the selection as it
was, except that the fields of an order or a grouping before the refused one stay.
-/

set_option autoImplicit false

/-!
## Aggregate functions

The functions that reduce a column to one value, found by name in any case.
-/

namespace Curator.Sql

structure Aggregate where
  name : String
  function : String
  distinct : Bool
  deriving DecidableEq, Repr, Inhabited

def Aggregate.all : List Aggregate := [
  ⟨"AVG", "AVG", false⟩,
  ⟨"AVG_DISTINCT", "AVG", true⟩,
  ⟨"COUNT", "COUNT", false⟩,
  ⟨"COUNT_DISTINCT", "COUNT", true⟩,
  ⟨"MAX", "MAX", false⟩,
  ⟨"MIN", "MIN", false⟩,
  ⟨"SUM", "SUM", false⟩,
  ⟨"SUM_DISTINCT", "SUM", true⟩
]

theorem Aggregate.all_names : Aggregate.all.map (·.name) = aggregateNames := rfl

/-- The function applied to an expression. -/
def Aggregate.render (a : Aggregate) (expr : String) : String :=
  if a.distinct then a.function ++ "(DISTINCT " ++ expr ++ ")" else a.function ++ "(" ++ expr ++ ")"

def Aggregate.ofValue (name : Value) : Except Failure Aggregate := do
  let text ← name.text?
  let name' := Text.upper text
  match Aggregate.all.find? fun a => a.name == name' with
  | some a => pure a
  | none => .error (.request (.unknownAggregate name))

/-! ## Selections -/

/-- A group of conditions that is still open. -/
structure OpenGroup where
  connector : Connector
  children : List Condition
  deriving Inhabited

structure Select where
  dialect : Dialect
  table : Option String
  columns : List String
  joins : List String
  /-- The conditions outside every open group. -/
  root : List Condition
  /-- The open groups, the innermost first. -/
  openGroups : List OpenGroup
  order : List String
  groups : List String
  limit : Option Int
  offset : Option Int
  deriving Inhabited

namespace Select

def new (dialect : Dialect) : Select :=
  ⟨dialect, none, [], [], [], [], [], [], none, none⟩

/-! ## Clauses -/

def from_ (s : Select) (table : String) : Except Failure Select := do
  let table ← quote table
  pure { s with table := some table }

def column (s : Select) (column : Column) (label : Option String) : Except Failure Select := do
  let expr ← column.render s.dialect
  match label with
  | none => pure { s with columns := s.columns ++ [expr] }
  | some label =>
    let label ← quoteAlias label
    pure { s with columns := s.columns ++ [expr ++ " AS " ++ label] }

/-- The selection joined with the rows of a table whose `right` column equals `left`. -/
def leftJoin (s : Select) (table : String) (left right : Column) (label : Option String) :
    Except Failure Select := do
  let target ← quote table
  let target ←
    match label with
    | none => pure target
    | some label =>
      if label = table then pure target
      else do
        let label ← quote label
        pure (target ++ " AS " ++ label)
  let left ← left.render s.dialect
  let right ← right.render s.dialect
  pure { s with joins := s.joins ++ ["LEFT JOIN " ++ target ++ " ON " ++ left ++ " = " ++ right] }

/-- A condition put where conditions are added now. -/
def add (s : Select) (condition : Condition) : Select :=
  match s.openGroups with
  | [] => { s with root := s.root ++ [condition] }
  | innermost :: outer =>
    { s with
      openGroups := { innermost with children := innermost.children ++ [condition] } :: outer }

def whereNamed (s : Select) (connector : Connector) (column : Column) (operator : Value)
    (operand : Value) : Except Failure Select := do
  let expr ← column.render s.dialect
  let operator ← Operator.ofValue operator
  let fragment ← operator.render expr operand s.dialect.placeholder
  pure (s.add (.predicate connector fragment))

def where_ (s : Select) (connector : Connector) (column : Column) (operator : Operator)
    (operand : Value) : Except Failure Select := do
  let expr ← column.render s.dialect
  let fragment ← operator.render expr operand s.dialect.placeholder
  pure (s.add (.predicate connector fragment))

def startGroup (s : Select) (connector : Connector) : Select :=
  { s with openGroups := ⟨connector, []⟩ :: s.openGroups }

def endGroup (s : Select) : Except Failure Select :=
  match s.openGroups with
  | [] => .error (.misuse .unmatchedGroupEnd)
  | innermost :: outer =>
    .ok ({ s with openGroups := outer }.add (.group innermost.connector innermost.children))

/-- One field of an order: a leading minus asks for descending order. -/
def orderItem (dialect : Dialect) (field : String) : Except Failure String := do
  let direction := if Text.startsWith field "-" then "DESC" else "ASC"
  let name := Text.dropLeading (fun c => c == '+' || c == '-') field
  let expr ← (Column.parse name).render dialect
  pure (expr ++ " " ++ direction)

/-- The rendered items before the first refused one, and its failure if there is one. -/
def renderedUntilRefused {α : Type} (render : α → Except Failure String) :
    List α → List String × Option Failure
  | [] => ([], none)
  | item :: rest =>
    match render item with
    | .error failure => ([], some failure)
    | .ok text =>
      let (texts, failure) := renderedUntilRefused render rest
      (text :: texts, failure)

/-- The selection ordered by more fields; of several fields those before a refused one stay. -/
def orderBy (s : Select) (fields : List String) : Select × Option Failure :=
  let (texts, failure) := renderedUntilRefused (orderItem s.dialect) fields
  ({ s with order := s.order ++ texts }, failure)

/-- The selection grouped by more columns; of several columns those before a refused one stay. -/
def groupBy (s : Select) (columns : List Column) : Select × Option Failure :=
  let (texts, failure) := renderedUntilRefused (Column.render s.dialect) columns
  ({ s with groups := s.groups ++ texts }, failure)

/-! ## Statements -/

/-- The statement's part from FROM to WHERE, with whether it has conditions. -/
def fromClause (s : Select) : Except Failure (Fragment × Bool) :=
  match s.table, s.openGroups with
  | none, _ => .error (.misuse .noTable)
  | some _, _ :: _ => .error (.misuse .openGroup)
  | some table, [] =>
    let joins := if s.joins.isEmpty then "" else " " ++ Text.join " " s.joins
    let conditions := Condition.renderRoot s.root
    let filter := if conditions.sql.isEmpty then "" else " WHERE " ++ conditions.sql
    .ok (⟨" FROM " ++ table ++ joins ++ filter, conditions.params⟩, !conditions.sql.isEmpty)

def integerText (n : Int) : Except Failure String :=
  match Number.integerText? n with
  | some text => .ok text
  | none => .error .digits

def limitClause (s : Select) : Except Failure String :=
  match s.limit with
  | none => .ok ""
  | some limit => do
    let text ← integerText limit
    pure (" LIMIT " ++ text)

/-- The clause that passes over rows; one of the databases takes it only behind a limit. -/
def offsetClause (s : Select) : Except Failure String :=
  match s.offset with
  | none => .ok ""
  | some offset =>
    if offset = 0 then .ok ""
    else do
      let unlimited := if s.limit.isNone && s.dialect == .sqlite then " LIMIT -1" else ""
      let text ← integerText offset
      pure (unlimited ++ " OFFSET " ++ text)

/-- The statement that fetches the rows. -/
def toSql (s : Select) : Except Failure Fragment := do
  let columns := if s.columns.isEmpty then "*" else Text.join ", " s.columns
  let (source, _) ← s.fromClause
  let groups := if s.groups.isEmpty then "" else " GROUP BY " ++ Text.join ", " s.groups
  let order := if s.order.isEmpty then "" else " ORDER BY " ++ Text.join ", " s.order
  let limit ← s.limitClause
  let offset ← s.offsetClause
  pure ⟨"SELECT " ++ columns ++ source.sql ++ groups ++ order ++ limit ++ offset, source.params⟩

/-- The statement that reduces the rows to one value, order and limits left aside.  Without a column
it counts the rows, or the groups of a grouped selection. -/
def aggregateSql (s : Select) (function : Value) (column : Option Column) :
    Except Failure Fragment := do
  let aggregate ← Aggregate.ofValue function
  let (source, _) ← s.fromClause
  match column with
  | none =>
    if s.groups.isEmpty then
      pure ⟨"SELECT COUNT(*) AS \"aggregate\"" ++ source.sql, source.params⟩
    else
      pure ⟨"SELECT COUNT(*) AS \"aggregate\" FROM (SELECT 1 AS \"grouped_row\"" ++ source.sql ++
        " GROUP BY " ++ Text.join ", " s.groups ++ ") AS \"grouped\"", source.params⟩
  | some column =>
    let expr ← column.render s.dialect
    pure ⟨"SELECT " ++ aggregate.render expr ++ " AS \"aggregate\"" ++ source.sql, source.params⟩

def countSql (s : Select) : Except Failure Fragment :=
  s.aggregateSql (.str "COUNT") none

/-- The statement that deletes the rows; it needs a condition and takes no joins. -/
def deleteSql (s : Select) : Except Failure Fragment :=
  if !s.joins.isEmpty then .error (.misuse .joinedDelete)
  else do
    let (source, conditional) ← s.fromClause
    if conditional then pure ⟨"DELETE" ++ source.sql, source.params⟩
    else .error (.misuse .unconditionalDelete)

end Select

end Curator.Sql
