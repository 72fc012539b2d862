import Curator.Value.Conversion
/-!
# Engine settings

The limits that hold where a resource sets none of its own, and the database to ask.  Settings come
from a document, from the environment, or as they are; every way ends in the same checks.
-/

set_option autoImplicit false

namespace Curator

structure Settings where
  /-- Rows returned when a list request has no limit; -1 for all. -/
  defaultLimit : Int
  /-- The largest limit a request may ask for; -1 for none. -/
  maxLimit : Int
  /-- The longest path of related fields a request may ask for. -/
  maxRelatedDepth : Int
  /-- The deepest nesting of filter groups, where there is a bound. -/
  maxFilterDepth : Option Int
  databaseUrl : Option String
  deriving DecidableEq, Repr, Inhabited

namespace Settings

def standard : Settings := ⟨100, -1, 3, none, none⟩

/-- Settings before they are checked: those given, as values. -/
structure Draft where
  defaultLimit : Option Int
  maxLimit : Option Int
  maxRelatedDepth : Option Int
  maxFilterDepth : Option Int
  databaseUrl : Value

/-- A database address: text with a scheme. -/
def checkUrl : Value → Except Failure (Option String)
  | .null => .ok none
  | .str url =>
    if Text.holds url "://" then .ok (some url)
    else .error (.configuration (.databaseUrl (.str url)))
  | other => .error (Failure.quoting other fun v => .configuration (.databaseUrl v))

/-- The settings of a draft, those it leaves out being standard. -/
def ofDraft (draft : Draft) : Except Failure Settings := do
  let defaultLimit := draft.defaultLimit.getD standard.defaultLimit
  let maxLimit := draft.maxLimit.getD standard.maxLimit
  let maxRelatedDepth := draft.maxRelatedDepth.getD standard.maxRelatedDepth
  if defaultLimit < -1 ∨ maxLimit < -1 then .error (.configuration .engineLimits)
  else if maxRelatedDepth < 1 then .error (.configuration .engineRelatedDepth)
  else if (draft.maxFilterDepth.map fun depth => decide (depth < 1)) = some true then
    .error (.configuration .engineFilterDepth)
  else do
    let url ← checkUrl draft.databaseUrl
    pure ⟨defaultLimit, maxLimit, maxRelatedDepth, draft.maxFilterDepth, url⟩

/-- The integer a setting gives; none when it is unset. -/
def readLimit (name : String) (value : Value) : Except Failure (Option Int) :=
  match value with
  | .null => .ok none
  | .str "" => .ok none
  | .bool _ => .error (.configuration (.settingNotInteger name))
  | other =>
    match other.toInteger with
    | .ok n => .ok (some n)
    | .error failure =>
      if failure.refusesValue then
        .error (Failure.quoting other fun v => .configuration (.settingUnreadable name v))
      else .error failure

def ofEntries (data : Record) : Except Failure Settings := do
  let entry := fun (key : String) => (data.value? key).getD .null
  let defaultLimit ← readLimit "defaultLimit" (entry "defaultLimit")
  let maxLimit ← readLimit "maxLimit" (entry "maxLimit")
  let maxRelatedDepth ← readLimit "maxRelatedDepth" (entry "maxRelatedDepth")
  let maxFilterDepth ← readLimit "maxFilterDepth" (entry "maxFilterDepth")
  ofDraft ⟨defaultLimit, maxLimit, maxRelatedDepth, maxFilterDepth, entry "database"⟩

/-- The settings of a document; nothing at all gives the standard ones. -/
def ofDocument (data : Value) : Except Failure Settings :=
  match data with
  | .dict entries => if entries.isEmpty then .ok standard else ofEntries entries
  | other =>
    if other.truthy then .error (.fault .attribute "no such attribute: get") else .ok standard

/-- The mark of the engine's own variables of the environment. -/
def environmentMark : String := "RESOURCEFORGE_"

def urlVariable : String := "DATABASE_URL"

def ofEnvironment (env : Mapping String) : Except Failure Settings := do
  let read := fun (name : String) =>
    let variableName := environmentMark ++ name
    readLimit variableName (((env.value? variableName).map Value.str).getD .null)
  let defaultLimit ← read "DEFAULT_LIMIT"
  let maxLimit ← read "MAX_LIMIT"
  let maxRelatedDepth ← read "MAX_RELATED_DEPTH"
  let maxFilterDepth ← read "MAX_FILTER_DEPTH"
  let url :=
    match env.value? urlVariable with
    | some url => if url = "" then Value.null else .str url
    | none => .null
  ofDraft ⟨defaultLimit, maxLimit, maxRelatedDepth, maxFilterDepth, url⟩

/-- The names under which settings are given as they are. -/
def argumentNames : List String :=
  ["default_limit", "max_limit", "max_related_depth", "max_filter_depth", "database_url"]

/-- A limit given as it is: an integer, or nothing where it is not given at all. -/
def argument (data : Record) (name : String) : Except Failure (Option Int) :=
  match data.value? name with
  | none => .ok none
  | some value =>
    match value.integer? with
    | some n => .ok (some n)
    | none => .error (.fault .type "'<' not supported between these values")

/-- Settings given as they are. -/
def ofArguments (data : Record) : Except Failure Settings :=
  if data.keys.all argumentNames.contains then do
    let defaultLimit ← argument data "default_limit"
    let maxLimit ← argument data "max_limit"
    let maxRelatedDepth ← argument data "max_related_depth"
    let maxFilterDepth ←
      match data.value? "max_filter_depth" with
      | some .null => pure none
      | _ => argument data "max_filter_depth"
    ofDraft ⟨defaultLimit, maxLimit, maxRelatedDepth, maxFilterDepth,
      (data.value? "database_url").getD .null⟩
  else .error (.fault .type "unexpected argument")

end Settings

end Curator
