import Curator.Failure.Basic
import Curator.Text.Identifier
/-!
# Dialects

The differences between the two databases: how a parameter is marked and how a key inside a JSON
column is reached.  Names are always quoted, and only identifiers are.
-/

set_option autoImplicit false

namespace Curator.Sql

inductive Dialect where
  | sqlite
  | postgresql
  deriving DecidableEq, Repr, Inhabited

def Dialect.name : Dialect → String
  | .sqlite => "sqlite"
  | .postgresql => "postgresql"

/-- The mark that stands for a parameter. -/
def Dialect.placeholder : Dialect → String
  | .sqlite => "?"
  | .postgresql => "%s"

def quoted (name : String) : String :=
  "\"" ++ name ++ "\""

def quote (name : String) : Except Failure String :=
  if Text.isIdentifier name then .ok (quoted name) else .error (.misuse (.identifier (.str name)))

def quoteAlias (name : String) : Except Failure String :=
  if Text.isAlias name then .ok (quoted name) else .error (.misuse (.columnAlias (.str name)))

/-- Any value as an identifier in quotes; only text can be one. -/
def quoteValue : Value → Except Failure String
  | .str name => quote name
  | other => .error (Failure.quoting other fun v => .misuse (.identifier v))

def quoteAliasValue : Value → Except Failure String
  | .str name => quoteAlias name
  | other => .error (Failure.quoting other fun v => .misuse (.columnAlias v))

/-- A column in quotes, behind its table where one is given. -/
def qualify (column : String) (table : Option String) : Except Failure String :=
  match table with
  | none => quote column
  | some table => do
    let table ← quote table
    let column ← quote column
    pure (table ++ "." ++ column)

def checkPath : List String → Except Failure Unit
  | [] => .ok ()
  | key :: rest =>
    if Text.isJsonKey key then checkPath rest else .error (.misuse (.pathKey (.str key)))

/-- The path literal under which a dialect finds keys inside a JSON document. -/
def Dialect.pathLiteral : Dialect → List String → String
  | .sqlite, path => "$." ++ Text.join "." (path.map quoted)
  | .postgresql, path => "\x7b" ++ Text.join "," path ++ "\x7d"

def Dialect.jsonExtract (dialect : Dialect) (expr : String) (path : List String) :
    Except Failure String :=
  if path.isEmpty then .error (.misuse .emptyPath)
  else do
    checkPath path
    let literal := dialect.pathLiteral path
    pure (match dialect with
      | .sqlite => "json_extract(" ++ expr ++ ", '" ++ literal ++ "')"
      | .postgresql => "((" ++ expr ++ ")::jsonb #>> '" ++ literal ++ "')")

def quoteAll (names : List String) : Except Failure (List String) :=
  names.mapM quote

/-- The clause that overwrites some columns of a row when an insert meets a conflict. -/
def upsertClause (conflict updates : List String) : Except Failure String := do
  let target ← quoteAll conflict
  let head := " ON CONFLICT (" ++ Text.join ", " target ++ ") DO "
  if updates.isEmpty then pure (head ++ "NOTHING")
  else
    let columns ← quoteAll updates
    let assignments := columns.map fun column => column ++ " = excluded." ++ column
    pure (head ++ "UPDATE SET " ++ Text.join ", " assignments)

/-! ## Columns -/

/-- A column, with the table it belongs to and the keys inside it. -/
structure Column where
  name : String
  table : Option String
  path : List String
  deriving DecidableEq, Repr, Inhabited

/-- A column from `table.column` or `column`. -/
def Column.parse (text : String) : Column :=
  match Text.splitOnce? text "." with
  | some (table, name) => ⟨name, some table, []⟩
  | none => ⟨text, none, []⟩

def Column.render (dialect : Dialect) (column : Column) : Except Failure String := do
  let expr ← qualify column.name column.table
  if column.path.isEmpty then pure expr else dialect.jsonExtract expr column.path

end Curator.Sql
