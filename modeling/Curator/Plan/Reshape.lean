import Curator.Plan.Basic
import Curator.Transform.Registry
/-!
# Reshaping rows

The rows of a plan as nested records: dotted keys become records of related resources and arrows
become keys inside a column.  Accessors then apply to every record, those of related resources
first.
-/

set_option autoImplicit false

namespace Curator

/-- The keys on the way to a column's value in a nested record. -/
def segments (column : String) : List String :=
  let parts := Text.split column "."
  parts.dropLast ++ Text.split (parts.getLast?.getD "") jsonArrow

namespace Record

/-- The record with a value put at the end of a way of keys; whatever on the way is no record is
replaced by one. -/
def assign (record : Record) (keys : List String) (value : Value) : Record :=
  match keys with
  | [] => record
  | [key] => record.put key value
  | key :: next :: rest =>
    let child : Record :=
      match record.value? key with
      | some (.dict entries) => entries
      | _ => []
    record.put key (.dict (assign child (next :: rest) value))

/-- Whether a column of a row reaches into another record or into a column. -/
def isNestedColumn (column : String) : Bool :=
  Text.holds column "." || Text.holds column jsonArrow

/-- The nested record of a row.  Plain columns come first, so that what is nested under one of them
replaces its plain value. -/
def unflatten (row : Record) : Record :=
  let plain := row.filter fun (column, _) => !isNestedColumn column
  let nested := row.filter fun (column, _) => isNestedColumn column
  (plain ++ nested).foldl (fun acc (column, value) => acc.assign (segments column) value) []

/-- The record with the record at a way of keys changed, if there is one. -/
def modifyAt (change : Record → Except Failure Record) :
    List String → Record → Except Failure Record
  | [], record => change record
  | key :: rest, record =>
    match record.value? key with
    | some (.dict entries) => do
      let entries ← modifyAt change rest entries
      pure (record.put key (.dict entries))
    | _ => .ok record

end Record

namespace Plan

/-- The related resources, those with longer paths first. -/
def deepestFirst (related : List (List String × Schema)) : List (List String × Schema) :=
  related.mergeSort fun a b => b.1.length ≤ a.1.length

/-- The row without the cursor's own column, unless the request asked for it. -/
def shownColumns (plan : Plan) (row : Record) : Record :=
  if plan.keepCursor then row else row.without plan.schema.cursorField

/-- The nested record of a row with all accessors applied. -/
def reshape (plan : Plan) (row : Record) : Except Failure Record := do
  let nested := Record.unflatten (plan.shownColumns row)
  let nested ← (deepestFirst plan.related).foldlM (fun record (path, schema) =>
    if schema.accessors.isEmpty then pure record
    else
      Record.modifyAt
        (fun target => TransformTable.standard.transformed target schema.accessors) path record)
    nested
  TransformTable.standard.transformed nested plan.schema.accessors

end Plan

/-- The fields of a record that differ from an earlier state, with their new values. -/
def Record.changesFrom (record previous : Record) : Record :=
  record.filter fun (key, value) =>
    match previous.value? key with
    | some before => !before.same value
    | none => true

end Curator
