import Curator.Schema.Basic
import Curator.Text.Identifier
/-!
# Definitions

The way from a resource's document to its schema.  A document names its parts in its own words; the
definition made of it holds them still unchecked; the schema is the definition with every name and
limit checked, in a fixed order, the first fault ending the work.
-/

set_option autoImplicit false

namespace Curator

/-- The parts of a resource, not yet checked. -/
structure Definition where
  name : Value
  table : Value
  readable : Value
  writable : Value
  primaryKey : Value
  cursorField : Value
  required : Value
  related : Value
  unique : Value
  search : Value
  maxRelatedDepth : Value
  defaultLimit : Value
  maxLimit : Value
  mutators : Value
  accessors : Value
  defaults : Value
  deletedAt : Value
  pruneField : Value
  upsertConflict : Value
  hooks : Value
  omitted : Value
  deriving Inhabited

namespace Definition

/-- The marker column a document switches a capability on with: truth for the usual column, the name
of one, or a mapping that names it. -/
def capability (value : Value) (usual : String) : Except Failure Value :=
  let refused := Except.error (Failure.quoting value fun v => .configuration (.capability v))
  match value with
  | .null => .ok .null
  | .bool b => .ok (if b then .str usual else .null)
  | .str s => .ok (.str s)
  | .dict entries =>
    match Mapping.value? entries "field" with
    | some field => .ok field
    | none => refused
  | _ => refused

/-- The entries of a unique declaration: names as they are and all else as lists of names. -/
def uniqueEntry : Value → Except Failure Value
  | .str s => .ok (.str s)
  | other => do
    let items ← FieldRules.itemsOf other
    pure (.list items)

def uniqueEntries (value : Value) : Except Failure Value :=
  if value.truthy then do
    let items ← FieldRules.itemsOf value
    let entries ← items.mapM uniqueEntry
    pure (.list entries)
  else .ok (.list [])

def ofDocument (data : Record) : Except Failure Definition := do
  let entry := fun (key : String) => (data.value? key).getD .null
  let orEmpty := fun (value : Value) => if value.truthy then value else .dict []
  let listOr := fun (key : String) => (data.value? key).getD (.list [])
  let name ←
    match data.value? "resource" with
    | some name => pure name
    | none => .error (.fault .key "resource")
  let unique ← uniqueEntries (entry "unique")
  let deletedAt ← capability (entry "softDeletes") "deleted_at"
  let pruneField ← capability (entry "prunable") "created_at"
  pure {
    name
    table := (data.value? "table").getD name
    readable := listOr "readable"
    writable := orEmpty (entry "writable")
    primaryKey := (data.value? "primaryKey").getD (.str "id")
    cursorField := entry "cursorField"
    required := listOr "required"
    related := orEmpty (entry "related")
    unique
    search := listOr "search"
    maxRelatedDepth := entry "maxRelatedDepth"
    defaultLimit := entry "defaultLimit"
    maxLimit := entry "maxLimit"
    mutators := orEmpty (entry "mutators")
    accessors := orEmpty (entry "accessors")
    defaults := orEmpty (entry "defaults")
    deletedAt
    pruneField
    upsertConflict := listOr "upsertConflict"
    hooks := orEmpty (entry "hooks")
    omitted := listOr "omitted"
  }

/-- The names under which the parts are given as they are. -/
def argumentNames : List String :=
  ["name", "table", "readable_fields", "writable_fields", "primary_key", "cursor_field",
    "required_fields", "related_fields", "unique_fields", "search_fields", "max_related_depth",
    "default_limit", "max_limit", "mutators", "accessors", "default_values", "deleted_at_field",
    "prune_field", "upsert_conflict_fields", "hooks", "omitted_fields"]

/-- The definition whose parts are given as they are. -/
def ofArguments (data : Record) : Except Failure Definition :=
  let entry := fun (key : String) => (data.value? key).getD .null
  let mappingOr := fun (key : String) => (data.value? key).getD (.dict [])
  let listOr := fun (key : String) => (data.value? key).getD (.list [])
  if !data.keys.all argumentNames.contains then
    .error (.fault .type "got an unexpected keyword argument")
  else if !(["name", "table", "readable_fields"].all data.has) then
    .error (.fault .type "missing required positional arguments")
  else
    .ok {
      name := entry "name"
      table := entry "table"
      readable := entry "readable_fields"
      writable := mappingOr "writable_fields"
      primaryKey := (data.value? "primary_key").getD (.str "id")
      cursorField := entry "cursor_field"
      required := listOr "required_fields"
      related := mappingOr "related_fields"
      unique := listOr "unique_fields"
      search := listOr "search_fields"
      maxRelatedDepth := entry "max_related_depth"
      defaultLimit := entry "default_limit"
      maxLimit := entry "max_limit"
      mutators := mappingOr "mutators"
      accessors := mappingOr "accessors"
      defaults := mappingOr "default_values"
      deletedAt := entry "deleted_at_field"
      pruneField := entry "prune_field"
      upsertConflict := listOr "upsert_conflict_fields"
      hooks := mappingOr "hooks"
      omitted := listOr "omitted_fields"
    }

end Definition

/-! ## Bringing parts into form -/

/-- A list of names as given: nothing, one name, or what can be gone through. -/
def namesOf : Value → Except Failure (List Value)
  | .null => .ok []
  | .str s => .ok [.str s]
  | other => FieldRules.itemsOf other

def Value.isKeyable : Value → Bool
  | .list _ => false
  | .dict _ => false
  | _ => true

def pairOf (value : Value) : Except Failure (String × Value) := do
  let items ← FieldRules.itemsOf value
  match items with
  | [.str key, item] => pure (key, item)
  | [_, _] => .error (.fault .type "keys must be text")
  | _ => .error (.fault .value "dictionary update sequence element has the wrong length")

/-- A mapping as given: one as it is, or a row of pairs. -/
def entriesOf : Value → Except Failure Record
  | .dict entries => .ok entries
  | other => do
    let items ← FieldRules.itemsOf other
    let pairs ← items.mapM pairOf
    pure (Mapping.ofPairs pairs)

/-- A mapping as given, one that is empty or missing being empty. -/
def entriesOrNone (value : Value) : Except Failure Record :=
  if value.truthy then entriesOf value else .ok []

/-- The writable fields as given: names with rules, or names alone. -/
def writableEntries : Value → Except Failure (List (Value × Value))
  | .dict entries => .ok (entries.map fun (name, rules) => (.str name, rules))
  | other => do
    let names ← FieldRules.itemsOf other
    pure (names.map fun name => (name, .null))

/-- The rules of the writable fields; a name that cannot be a key is a fault at its place. -/
def writableRules : List (Value × Value) → Except Failure (List (Value × FieldRules))
  | [] => .ok []
  | (name, declared) :: rest => do
    let rules ← FieldRules.ofValue declared
    if name.isKeyable then
      let others ← writableRules rest
      pure ((name, rules) :: others)
    else .error (.fault .type s!"unhashable type: '{name.kindName}'")

/-- One unique declaration: a name or a row of names. -/
def uniqueNames : List Value → Except Failure (List (Bool × List Value))
  | [] => .ok []
  | entry :: rest =>
    if !entry.truthy then uniqueNames rest
    else
      match entry with
      | .str s => do
        let others ← uniqueNames rest
        pure ((true, [.str s]) :: others)
      | other => do
        let names ← FieldRules.itemsOf other
        let others ← uniqueNames rest
        pure ((false, names) :: others)

def hookLists : Record → Except Failure (Mapping (List Value))
  | [] => .ok []
  | (point, names) :: rest => do
    let names ← namesOf names
    let others ← hookLists rest
    pure ((point, names) :: others)

/-! ## Checks -/

/-- The names of a list of values, or the first value that is not an identifier. -/
def identifiers (fail : DefinitionFault → Failure) : List Value → Except Failure (List String)
  | [] => .ok []
  | value :: rest =>
    match value with
    | .str name =>
      if Text.isIdentifier name then do
        let names ← identifiers fail rest
        pure (name :: names)
      else .error (fail (.identifier value))
    | other => .error (Failure.quoting other fun v => fail (.identifier v))

/-- Checks every item of a list, in order. -/
def checkEach {α : Type} (check : α → Except Failure Unit) : List α → Except Failure Unit
  | [] => .ok ()
  | item :: rest =>
    match check item with
    | .ok () => checkEach check rest
    | .error failure => .error failure

def require (condition : Bool) (failure : Failure) : Except Failure Unit :=
  if condition then .ok () else .error failure

/-- A field to search, whose column must be readable. -/
def searchName (fail : DefinitionFault → Failure) (readable : List String) :
    Value → Except Failure String
  | .str name =>
    if readable.contains (baseField name) then .ok name
    else .error (fail (.unreadableSearch name))
  | .bytes _ => .error (.fault .type "a bytes-like object is required")
  | other => .error (.fault .attribute s!"'{other.kindName}' object has no attribute 'split'")

/-- A required field, which must be writable. -/
def requiredName (fail : DefinitionFault → Failure) (writable : List String) :
    Value → Except Failure String
  | .str name =>
    if writable.contains name then .ok name else .error (fail (.requiredNotWritable (.str name)))
  | other =>
    if other.isKeyable then
      .error (Failure.quoting other fun v => fail (.requiredNotWritable v))
    else .error (.fault .type s!"unhashable type: '{other.kindName}'")

/-- A related field, which must be a column and name a resource. -/
def relatedEntry (fail : DefinitionFault → Failure) (columns : List String) (field : String)
    (target : Value) : Except Failure (String × String) :=
  if !columns.contains field then .error (fail (.relatedUnknown field))
  else
    match target with
    | .str resource =>
      if resource = "" then .error (fail (.relatedUnnamed field)) else .ok (field, resource)
    | _ => .error (fail (.relatedUnnamed field))

def uniqueKey (fail : DefinitionFault → Failure) (columns : List String) (single : Bool)
    (names : List String) : Except Failure UniqueKey := do
  checkEach (fun name => require (columns.contains name) (fail (.uniqueUnknown name))) names
  pure (match single, names with
    | true, [name] => .single name
    | _, names => .composite names)

/-- A limit that is an integer of at least a bound, or not set. -/
def amount (least : Int) (failure : Failure) : Value → Except Failure (Option Amount)
  | .null => .ok none
  | .int n => if n < least then .error failure else .ok (some (.number n))
  | .bool b => if b.toInt < least then .error failure else .ok (some (.flag b))
  | _ => .error failure

/-- The schema of a definition. -/
def Schema.ofDefinition (d : Definition) : Except Failure Schema := do
  let fail := fun (fault : DefinitionFault) =>
    Failure.quoting d.name fun name => .configuration (.definition name fault)
  let readable ← namesOf d.readable
  let required ← namesOf d.required
  let search ← namesOf d.search
  let omitted ← namesOf d.omitted
  let declared ← writableEntries d.writable
  let rules ← writableRules declared
  let uniqueDeclared ← namesOf d.unique
  let unique ← uniqueNames uniqueDeclared
  let hookEntries ← entriesOf d.hooks
  let hooks ← hookLists hookEntries
  let related ← entriesOrNone d.related
  let mutators ← entriesOrNone d.mutators
  let accessors ← entriesOrNone d.accessors
  let defaults ← entriesOrNone d.defaults
  let cursor := if d.cursorField.isNull then d.primaryKey else d.cursorField
  let conflict ← namesOf d.upsertConflict
  let conflict := if conflict.isEmpty then [d.primaryKey] else conflict
  let mainNames ← identifiers fail [d.table, d.primaryKey, cursor]
  let readable ← identifiers fail readable
  let writableNames ← identifiers fail (rules.map (·.1))
  let _ ← identifiers fail (related.keys.map Value.str)
  let conflict ← identifiers fail conflict
  let _ ← identifiers fail (if d.deletedAt.truthy then [d.deletedAt] else [])
  let _ ← identifiers fail (if d.pruneField.truthy then [d.pruneField] else [])
  let unique ← unique.mapM fun (single, names) => do
    let names ← identifiers fail names
    pure (single, names)
  let (table, primaryKey, cursorField) :=
    match mainNames with
    | [table, primaryKey, cursorField] => (table, primaryKey, cursorField)
    | _ => ("", "", "")
  let writable := Mapping.ofPairs (writableNames.zip (rules.map (·.2)))
  require (!readable.isEmpty) (fail .nothingReadable)
  require (readable.contains primaryKey) (fail (.unreadablePrimaryKey primaryKey))
  require (readable.contains cursorField) (fail (.unreadableCursor cursorField))
  let search ← search.mapM (searchName fail readable)
  let required ← required.mapM (requiredName fail writableNames)
  let columns := readable ++ writableNames
  let related ← related.mapM fun (field, target) => relatedEntry fail columns field target
  let unique ← unique.mapM fun (single, names) => uniqueKey fail columns single names
  checkEach (fun (name, _) =>
    require (writableNames.contains name) (fail (.mutatorNotWritable name))) mutators
  checkEach (fun (name, _) =>
    require (readable.contains name) (fail (.accessorNotReadable name))) accessors
  checkEach (fun (point, _) =>
    require ((HookPoint.all.map HookPoint.name).contains point) (fail (.hookPoint point))) hooks
  let defaultLimit ← amount (-1) (fail (.limit .defaultLimit)) d.defaultLimit
  let maxLimit ← amount (-1) (fail (.limit .maxLimit)) d.maxLimit
  let maxRelatedDepth ← amount 1 (fail .relatedDepth) d.maxRelatedDepth
  let marker := fun (value : Value) => if value.isNull then none else some value
  pure {
    name := d.name
    table
    primaryKey
    cursorField
    readable
    writable
    required
    related
    unique
    search
    maxRelatedDepth
    defaultLimit
    maxLimit
    mutators
    accessors
    defaults
    deletedAt := marker d.deletedAt
    pruneField := marker d.pruneField
    upsertConflict := conflict
    hooks
    omitted
  }

def Schema.ofDocument (data : Record) : Except Failure Schema := do
  let definition ← Definition.ofDocument data
  Schema.ofDefinition definition

end Curator
