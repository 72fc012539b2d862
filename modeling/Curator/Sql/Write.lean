import Curator.Sql.Dialect
import Curator.Sql.Predicate
/-!
# Writes

Statements that insert, update and delete rows, test for them and count them.  Values are bound as
parameters in the order of their placeholders.
-/

set_option autoImplicit false

namespace Curator.Sql

/-- The comparison of one column with a value; null is tested for and not bound. -/
def equality (dialect : Dialect) (column : String) (value : Value) : Except Failure Fragment := do
  let name ← quote column
  pure (if value.isNull then ⟨name ++ " IS NULL", []⟩
    else ⟨name ++ " = " ++ dialect.placeholder, [value]⟩)

/-- The clause that keeps the rows whose columns have the given values; empty without columns. -/
def whereEquals (dialect : Dialect) (values : Record) : Except Failure Fragment :=
  if values.isEmpty then .ok ⟨"", []⟩
  else do
    let parts ← values.mapM fun (column, value) => equality dialect column value
    pure ⟨" WHERE " ++ Text.join " AND " (parts.map (·.sql)), parts.flatMap (·.params)⟩

/-- What an insert does when its row meets another on some columns. -/
inductive OnConflict where
  | fail
  /-- Overwrite the other row; the columns decide what counts as meeting it. -/
  | overwrite (columns : List String)
  deriving Repr

def insertSql (dialect : Dialect) (table : String) (fields : Record) (onConflict : OnConflict) :
    Except Failure Fragment := do
  let columns ← quoteAll fields.keys
  let marks := fields.map fun _ => dialect.placeholder
  let table ← quote table
  let head := "INSERT INTO " ++ table ++ " (" ++ Text.join ", " columns ++ ") VALUES (" ++
    Text.join ", " marks ++ ")"
  match onConflict with
  | .fail => pure ⟨head, fields.map (·.2)⟩
  | .overwrite [] => .error (.misuse .conflictFieldsMissing)
  | .overwrite conflict =>
    let clause ← upsertClause conflict (fields.keys.filter fun column => !conflict.contains column)
    pure ⟨head ++ clause, fields.map (·.2)⟩

def updateSql (dialect : Dialect) (table : String) (fields filter : Record) :
    Except Failure Fragment := do
  let columns ← quoteAll fields.keys
  let assignments := columns.map fun column => column ++ " = " ++ dialect.placeholder
  let condition ← whereEquals dialect filter
  let table ← quote table
  pure ⟨"UPDATE " ++ table ++ " SET " ++ Text.join ", " assignments ++ condition.sql,
    fields.map (·.2) ++ condition.params⟩

/-- The deletion of the rows with given values; it needs at least one. -/
def deleteSql (dialect : Dialect) (table : String) (filter : Record) : Except Failure Fragment :=
  if filter.isEmpty then .error (.misuse .unconditionalDelete)
  else do
    let condition ← whereEquals dialect filter
    let table ← quote table
    pure ⟨"DELETE FROM " ++ table ++ condition.sql, condition.params⟩

def existsSql (dialect : Dialect) (table : String) (filter : Record) : Except Failure Fragment := do
  let condition ← whereEquals dialect filter
  let table ← quote table
  pure ⟨"SELECT 1 FROM " ++ table ++ condition.sql ++ " LIMIT 1", condition.params⟩

def countSql (dialect : Dialect) (table : String) (filter : Record) : Except Failure Fragment := do
  let condition ← whereEquals dialect filter
  let table ← quote table
  pure ⟨"SELECT COUNT(*) FROM " ++ table ++ condition.sql, condition.params⟩

end Curator.Sql
