import Curator.Schema.Basic
import Curator.Sql.Select
/-!
# Plans

What a list request comes to: the columns to fetch, the joins that reach them, the conditions in the
order they apply, and the order and limits.  A plan is replayed onto a selection to make its
statements.
-/

set_option autoImplicit false

namespace Curator

open Sql

/-- Whether trashed rows of the root resource are seen. -/
inductive TrashedMode where
  | exclude
  | include_
  | only
  deriving DecidableEq, Repr, Inhabited

/-- The related rows of one path of fields. -/
structure Join where
  path : List String
  table : String
  label : String
  /-- The table or alias whose column leads to the related rows. -/
  owner : String
  column : String
  primaryKey : String
  deriving DecidableEq, Repr, Inhabited

/-- A step in building the conditions of a plan. -/
inductive PlanStep where
  | test (connector : Connector) (column : Column) (operator : Operator) (operand : Value)
  | opening (connector : Connector)
  | closing
  deriving Inhabited

/-- A column to fetch and the key it has in the rows. -/
structure PlanColumn where
  label : String
  column : Column
  deriving DecidableEq, Repr, Inhabited

structure Plan where
  schema : Schema
  columns : List PlanColumn
  joins : List Join
  steps : List PlanStep
  order : List String
  group : List String
  limit : Option Int
  offset : Option Int
  /-- Whether the cursor field stays in the rows that are shown. -/
  keepCursor : Bool
  /-- The resources behind the joins, by path. -/
  related : List (List String × Schema)
  deriving Inhabited

namespace Plan

def replayColumn (s : Select) (c : PlanColumn) : Except Failure Select :=
  s.column c.column (some c.label)

def replayJoin (s : Select) (join : Join) : Except Failure Select :=
  s.leftJoin join.table ⟨join.column, some join.owner, []⟩ ⟨join.primaryKey, some join.label, []⟩
    (some join.label)

def replayStep (s : Select) : PlanStep → Except Failure Select
  | .test connector column operator operand => s.where_ connector column operator operand
  | .opening connector => .ok (s.startGroup connector)
  | .closing => s.endGroup

/-- A selection that may have met a refused clause. -/
def settled : Select × Option Failure → Except Failure Select
  | (s, none) => .ok s
  | (_, some failure) => .error failure

/-- The selection of the rows of a plan: without `paginate` it fetches nothing, has no order and no
limits, as counts and aggregates want it. -/
def selection (plan : Plan) (dialect : Dialect) (paginate : Bool) : Except Failure Select := do
  let s ← (Select.new dialect).from_ plan.schema.table
  let s ← if paginate then plan.columns.foldlM replayColumn s else pure s
  let s ← plan.joins.foldlM replayJoin s
  let s ← plan.steps.foldlM replayStep s
  let s ← settled (s.groupBy (plan.group.map Column.parse))
  if paginate then do
    let s ← settled (s.orderBy plan.order)
    pure { s with limit := plan.limit, offset := plan.offset }
  else pure s

def fetchSql (plan : Plan) (dialect : Dialect) : Except Failure Fragment := do
  let s ← plan.selection dialect true
  s.toSql

/-- The statement that counts the rows of a plan, limits left aside. -/
def totalSql (plan : Plan) (dialect : Dialect) : Except Failure Fragment := do
  let s ← plan.selection dialect false
  s.countSql

end Plan

end Curator
