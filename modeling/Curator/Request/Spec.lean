import Curator.Json.Reader
import Curator.Value.Conversion
/-!
# List requests

What a list request asks for, and how it is read from raw parameters.  Parameters often come from an
address line, so every value may be text: lists are separated by commas, numbers are digits, and
filters and aggregates are JSON.
-/

set_option autoImplicit false

namespace Curator

/-- How a request walks through the rows. -/
inductive PagingMethod where
  | page
  | before
  | after
  deriving DecidableEq, Repr, Inhabited

def PagingMethod.name : PagingMethod → String
  | .page => "page"
  | .before => "before"
  | .after => "after"

/-- A list request. -/
structure Spec where
  fields : List String
  filter : Value
  search : String
  sort : List String
  group : List String
  limit : Option Int
  method : PagingMethod
  page : Int
  before : String
  after : String
  aggregate : Value
  /-- The kind of paging information wanted with the rows. -/
  pagination : String
  deriving Inhabited

namespace Spec

/-- The request for everything. -/
def all : Spec :=
  ⟨[], .list [], "", [], [], none, .page, 1, "", "", .list [], ""⟩

def ofFields (fields : List String) : Spec :=
  { all with fields := fields }

def cursor (s : Spec) : String :=
  match s.method with
  | .page => ""
  | .before => s.before
  | .after => s.after

/-! ## Reading raw parameters -/

/-- The names in a list that is given as text with commas, as a list, or as a single value; names
are stripped and empty ones dropped. -/
def readNames (value : Value) : Except Failure (List String) := do
  let items :=
    match value with
    | .null => []
    | .str s => (Text.split s ",").map Value.str
    | .list items => items
    | other => [other]
  let texts ← items.mapM Value.text?
  pure ((texts.map Text.strip).filter (· != ""))

/-- A structure that is given as it is or as JSON text; anything else is an empty list. -/
def readStructure : Value → Except Failure Value
  | .list items => .ok (.list items)
  | .dict entries => .ok (.dict entries)
  | .str s =>
    match Json.read s with
    | .ok (.list items) => .ok (.list items)
    | .ok (.dict entries) => .ok (.dict entries)
    | .ok _ => .ok (.list [])
    | .error .malformed => .ok (.list [])
    | .error .tooLong => .error .digits
  | _ => .ok (.list [])

def readInteger (part : RequestPart) : Value → Except Failure Int
  | .int n => .ok n
  | .str s =>
    match integerOfText (Text.strip s) with
    | .ok n => .ok n
    | .error _ => .error (.request (.malformed part))
  | _ => .error (.request (.malformed part))

/-- Text, where nothing counts as the empty text. -/
def readText (part : RequestPart) : Value → Except Failure String
  | .null => .ok ""
  | .str s => .ok s
  | _ => .error (.request (.malformed part))

/-- A cursor, which must be text. -/
def readCursor : Value → Except Failure String
  | .str s => .ok s
  | _ => .error (.request (.malformed .cursor))

def readLimit (value : Value) : Except Failure (Option Int) :=
  if value.isNull then .ok none
  else do
    let limit ← readInteger .limit value
    if limit < -1 then .error (.request (.malformed .limit)) else pure (some limit)

/-- The way through the rows: by page, or from one cursor. -/
structure Paging where
  method : PagingMethod
  page : Int
  before : String
  after : String

/-- The paging parameters, of which at most one may be given. -/
def readPaging (raw : Record) : Except Failure Paging :=
  match raw.value? "page", raw.value? "before", raw.value? "after" with
  | none, none, none => .ok ⟨.page, 1, "", ""⟩
  | some page, none, none => do
    let page ← readInteger .page page
    if page < 1 then .error (.request (.malformed .page)) else pure ⟨.page, page, "", ""⟩
  | none, some before, none => do
    let before ← readCursor before
    pure ⟨.before, 1, before, ""⟩
  | none, none, some after => do
    let after ← readCursor after
    pure ⟨.after, 1, "", after⟩
  | _, _, _ => .error (.request .manyPaginations)

/-- The request that raw parameters make. -/
def ofEntries (raw : Record) : Except Failure Spec := do
  let entry := fun (key : String) => (raw.value? key).getD .null
  let search ← readText .search (entry "search")
  let limit ← readLimit (entry "limit")
  let paging ← readPaging raw
  let pagination ← readText .pagination (entry "pagination")
  let fields ← readNames (entry "fields")
  let filter ← readStructure (entry "filter")
  let sort ← readNames (entry "sort")
  let group ← readNames (entry "group")
  let aggregate ← readStructure (entry "aggregate")
  pure ⟨fields, filter, search, sort, group, limit, paging.method, paging.page, paging.before,
    paging.after, aggregate, pagination⟩

/-- The request that raw parameters make; nothing at all asks for everything. -/
def ofRaw (raw : Value) : Except Failure Spec :=
  match raw with
  | .dict entries => ofEntries entries
  | other =>
    if other.truthy then .error (.fault .attribute "no such attribute: get") else ofEntries []

/-- The request whose parts are given as they are.  A way through the rows that is none of the three
has no cursor. -/
def ofArguments (parts : Record) : Spec :=
  let text := fun (key : String) => ((parts.value? key).bind Value.string?).getD ""
  let number := fun (key : String) => (parts.value? key).bind Value.integer?
  let names := fun (key : String) =>
    match parts.value? key with
    | some (.list items) => items.map Value.text
    | some (.str s) => [s]
    | _ => []
  let given := fun (key : String) => (parts.value? key).getD (.list [])
  let named := ((parts.value? "pagination_method").bind Value.string?).getD "page"
  let method : PagingMethod :=
    if named = "page" then .page else if named = "after" then .after else .before
  ⟨names "fields", given "filter", text "search", names "sort", names "group", number "limit",
    method, (number "page").getD 1, if named = "before" then text "before" else "",
    text "after", given "aggregate", text "pagination"⟩

end Spec

end Curator
