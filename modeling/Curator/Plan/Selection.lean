import Curator.Plan.Basic
import Curator.Registry.Basic
/-!
# Selected fields

The fields a request asks for, resolved to columns.  A dotted name goes through related resources,
each of which is joined once; stars stand for all readable fields.  For every joined resource that
keeps trashed rows one condition excludes them.
-/

set_option autoImplicit false

namespace Curator

open Sql

/-- What the selection of fields has come to so far. -/
structure FieldSelection where
  columns : List PlanColumn
  joins : List Join
  related : List (List String × Schema)
  /-- The conditions that exclude trashed rows of joined resources. -/
  exclusions : List PlanStep
  /-- The aliases those conditions are about. -/
  excluded : List String
  /-- How often each table was joined. -/
  aliasCounts : Mapping Nat
  deriving Inhabited

namespace FieldSelection

def empty : FieldSelection := ⟨[], [], [], [], [], []⟩

def hasAlias (s : FieldSelection) (label : String) : Bool :=
  s.columns.any fun c => c.label == label

def joinAt? (s : FieldSelection) (path : List String) : Option Join :=
  s.joins.find? fun join => join.path == path

/-- The alias under which the resource at a path is joined, the join being made at its first use. -/
def join (s : FieldSelection) (path : List String) (owner column : String) (related : Schema) :
    FieldSelection × String :=
  match s.joinAt? path with
  | some join => (s, join.label)
  | none =>
    let count := (s.aliasCounts.value? related.table).getD 0 + 1
    let label := related.table ++ "_" ++ toString count
    ({ s with
        joins := s.joins ++ [⟨path, related.table, label, owner, column, related.primaryKey⟩]
        related := s.related ++ [(path, related)]
        aliasCounts := s.aliasCounts.put related.table count },
      label)

/-- Excludes the trashed rows of a joined resource, once for each alias. -/
def excludeTrashed (s : FieldSelection) (schema : Schema) (label : String) : FieldSelection :=
  if !schema.softDeletes || s.excluded.contains label then s
  else
    { s with
      excluded := s.excluded ++ [label]
      exclusions := s.exclusions ++
        [.test .and ⟨schema.deletedAtColumn, some label, []⟩ .isNull (.bool true)] }

/-- The text of a field at the end of a path. -/
def fullName (path : List String) (name : String) : String :=
  Text.join "." (path ++ [name])

/-- Selects a column of the resource at a path, unless it is selected already. -/
def addColumn (s : FieldSelection) (schema : Schema) (path : List String) (table : String)
    (name : String) : Except Failure FieldSelection :=
  let label := fullName path name
  if s.hasAlias label then .ok s
  else
    let keys := jsonPath name
    if !keys.all Text.isJsonKey then .error (.request (.field label))
    else
      let s := { s with columns := s.columns ++ [⟨label, ⟨baseField name, some table, keys⟩⟩] }
      .ok (if path.isEmpty then s else s.excludeTrashed schema table)

/-- Selects every readable column of the resource at a path. -/
def addReadable (s : FieldSelection) (schema : Schema) (path : List String) (table : String) :
    Except Failure FieldSelection :=
  schema.readable.foldlM (fun s name => s.addColumn schema path table name) s

/-- Selects the field a name without dots stands for. -/
def addName (s : FieldSelection) (schema : Schema) (path : List String) (table : String)
    (name : String) : Except Failure FieldSelection :=
  if name = "*" then s.addReadable schema path table
  else if Text.holds name jsonArrow then
    if schema.readable.contains (baseField name) then s.addColumn schema path table name
    else .error (.request (.field (fullName path (baseField name))))
  else if schema.readable.contains name then s.addColumn schema path table name
  else .error (.request (.field (fullName path name)))

/-- The schema a related field leads to; the resource the request is about speaks for its own name. -/
def relatedSchema (registry : Registry) (root : Schema) (target : String) :
    Except Failure Schema :=
  if root.name.same (.str target) then .ok root else registry.schema target

/-- Selects the field whose name has the given parts between its dots, starting at the resource at
`path`, whose rows are those of `table`. -/
def addParts (registry : Registry) (root : Schema) (maxDepth : Int) (schema : Schema)
    (path : List String) (table : String) (s : FieldSelection) :
    List String → Except Failure FieldSelection
  | [] => .ok s
  | [name] => s.addName schema path table name
  | head :: next :: rest =>
    let throughRelated := fun (s : FieldSelection) (column target : String) => do
      let related ← relatedSchema registry root target
      let (s, label) := s.join (path ++ [column]) table column related
      addParts registry root maxDepth related (path ++ [column]) label s (next :: rest)
    if maxDepth < ((path.length + (rest.length + 2) : Nat) : Int) then
      .error (.request (.relatedDepth maxDepth))
    else if head = "*" then
      schema.readable.foldlM (fun s readable =>
        match schema.related.value? readable with
        | some target =>
          if Text.startsWith next "*" then throughRelated s readable target
          else s.addColumn schema path table readable
        | none => s.addColumn schema path table readable) s
    else
      match schema.related.value? head with
      | some target =>
        if schema.readable.contains head then throughRelated s head target
        else .error (.request (.relatedField (Text.join "." (path ++ head :: next :: rest))))
      | none => .error (.request (.relatedField (Text.join "." (path ++ head :: next :: rest))))

/-- Selects a list of fields of the root resource, and its cursor field with them. -/
def ofFields (registry : Registry) (maxDepth : Int) (schema : Schema) (fields : List String) :
    Except Failure FieldSelection := do
  let s ← fields.foldlM (fun s field =>
    addParts registry schema maxDepth schema [] schema.table s (Text.split field ".")) empty
  if s.hasAlias schema.cursorField then pure s
  else
    pure { s with
      columns := s.columns ++
        [⟨schema.cursorField, ⟨schema.cursorField, some schema.table, []⟩⟩] }

end FieldSelection

end Curator
