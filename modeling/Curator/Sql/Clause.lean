import Curator.Sql.Select
import Curator.Value.Conversion
/-!
# Clauses

The clauses of a selection as data, so that a selection can be made from a list of them.
-/

set_option autoImplicit false

namespace Curator.Sql

inductive Clause where
  | table (name : String)
  | column (column : Column) (label : Option String)
  | leftJoin (table : String) (left right : Column) (label : Option String)
  | test (connector : Connector) (column : Column) (operator operand : Value)
  | opening (connector : String)
  | closing
  | orderBy (fields : List String)
  | groupBy (columns : List Column)
  | limit (value : Value)
  | offset (value : Value)
  deriving Inhabited

namespace Select

def readBound : Value → Except Failure (Option Int)
  | .null => .ok none
  | other => other.toInteger.map some

/-- The selection after a clause that is taken or refused as a whole. -/
def takenOr (s : Select) : Except Failure Select → Select × Option Failure
  | .ok s => (s, none)
  | .error failure => (s, some failure)

/-- The selection with a clause added, and the failure if it was refused. -/
def give (s : Select) : Clause → Select × Option Failure
  | .table name => s.takenOr (s.from_ name)
  | .column column label => s.takenOr (s.column column label)
  | .leftJoin table left right label => s.takenOr (s.leftJoin table left right label)
  | .test connector column operator operand =>
    s.takenOr (s.whereNamed connector column operator operand)
  | .opening connector => s.takenOr ((Connector.ofName connector).map s.startGroup)
  | .closing => s.takenOr s.endGroup
  | .orderBy fields => s.orderBy fields
  | .groupBy columns => s.groupBy columns
  | .limit value => s.takenOr ((readBound value).map fun limit => { s with limit })
  | .offset value => s.takenOr ((readBound value).map fun offset => { s with offset })

end Select

end Curator.Sql
