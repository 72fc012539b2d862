import Curator.Value.Literal
/-!
# Faults of requests

What can be wrong with the parameters of a read or list request, and the words for it.
-/

set_option autoImplicit false

namespace Curator

/-- The part of a raw request whose form is wrong. -/
inductive RequestPart where
  | search
  | limit
  | page
  | cursor
  | pagination
  deriving DecidableEq, Repr

def RequestPart.text : RequestPart → String
  | .search => "search"
  | .limit => "limit"
  | .page => "page"
  | .cursor => "cursor"
  | .pagination => "pagination"

inductive RequestFault where
  | unknownOperator (name : Value)
  | flagExpected (value : Value)
  | scalarExpected
  | listExpected
  | pairExpected
  | unknownAggregate (name : Value)
  | timeOffset (text : String)
  | malformed (part : RequestPart)
  | manyPaginations
  | cursor
  | field (name : String)
  | relatedField (name : String)
  | relatedDepth (limit : Int)
  | filterField (name : String)
  | filterFormat
  | filterDepth (limit : Int)
  | filterGroup (key : String)
  | filterOperand
  | filterDefinition (key : String)
  | sortField (token : String)
  | groupField (name : String)
  | limitExceeded (limit : Int)
  | paginationToken (token : String)
  | aggregateClause
  | aggregateField (value : Value)

/-- The names of the aggregate functions, in order. -/
def aggregateNames : List String :=
  ["AVG", "AVG_DISTINCT", "COUNT", "COUNT_DISTINCT", "MAX", "MIN", "SUM", "SUM_DISTINCT"]

def RequestFault.text : RequestFault → String
  | .unknownOperator name => "Invalid filter operator (" ++ name.text ++ ")"
  | .flagExpected value => "Invalid filter value: expected a boolean, got " ++ value.literal
  | .scalarExpected => "Invalid filter value: expected a scalar"
  | .listExpected => "Invalid filter value: expected a non-empty list"
  | .pairExpected => "Invalid filter value: between expects two values"
  | .unknownAggregate name =>
    "Unsupported aggregate function '" ++ name.text ++ "'. Allowed: " ++
      Text.join ", " aggregateNames
  | .timeOffset text => s!"Unable to list resource: Invalid time offset ({text})"
  | .malformed part => "Unable to parse request: Invalid " ++ part.text ++ " format"
  | .manyPaginations => "Unable to parse request: Only one pagination method is allowed"
  | .cursor => "Unable to list resource: Invalid cursor"
  | .field name => s!"Unable to list resource: Invalid field ({name})"
  | .relatedField name => s!"Unable to list resource: Invalid related field ({name})"
  | .relatedDepth limit =>
    s!"Unable to list resource: Request exceeds maximum related field depth ({limit})"
  | .filterField name => s!"Unable to list resource: Invalid filter field ({name})"
  | .filterFormat => "Unable to list resource: Invalid filter format"
  | .filterDepth limit => s!"Unable to list resource: Filter exceeds maximum depth ({limit})"
  | .filterGroup key =>
    s!"Unable to list resource: Invalid filter condition definition for field ({key})"
  | .filterOperand => "Unable to list resource: Invalid filter value"
  | .filterDefinition key =>
    s!"Unable to list resource: Invalid filter definition for field ({key})"
  | .sortField token => s!"Unable to list resource: Invalid sort field ({token})"
  | .groupField name => s!"Unable to list resource: Invalid group field ({name})"
  | .limitExceeded limit => s!"Unable to list resource: Limit exceeds maximum ({limit})"
  | .paginationToken token => s!"Unable to get pagination: Invalid pagination value ({token})"
  | .aggregateClause => "Unable to get aggregate: Invalid aggregate clause"
  | .aggregateField value => "Unable to get aggregate: Invalid aggregate field (" ++ value.text ++ ")"

end Curator
