import Curator.Metadata.Directory
import Curator.Registry.Basic
import Curator.Schema.Definition
/-!
# Loading metadata

The settings and the resources that a directory defines.  A resource file that is empty or names no
resource is passed over.
-/

set_option autoImplicit false

namespace Curator.Metadata

/-- A schema and the file that defines it. -/
structure Source where
  path : String
  schema : Schema
  deriving Inhabited

/-- What a directory defines. -/
structure Loaded where
  settings : Settings
  sources : List Source
  deriving Inhabited

def documentOf (path : String) : Content → Except Failure Value
  | .document v => .ok v
  | .malformed words => .error (.configuration (.unreadableFile path words))

/-- The settings in a directory; without a file for them they are standard. -/
def loadSettings (d : Directory) : Except Failure Settings :=
  match d.settingsContent? with
  | none => .ok Settings.standard
  | some content => do
    let path := d.pathOf settingsFile
    let data ← documentOf path content
    match data with
    | .null => pure Settings.standard
    | .dict entries => Settings.ofDocument (.dict entries)
    | _ => .error (.configuration (.fileNotMapping path))

/-- The definition that a document holds, if it holds one.  What is no mapping but might hold the name
of the key is a fault. -/
def definitionIn : Value → Except Failure (Option Record)
  | .dict entries => .ok (if Mapping.has entries "resource" then some entries else none)
  | .str s =>
    if Text.holds s "resource" then .error (.fault .attribute "'str' object has no attribute 'get'")
    else .ok none
  | .list items =>
    if items.any fun item => item.same (.str "resource") then
      .error (.fault .attribute "'list' object has no attribute 'get'")
    else .ok none
  | other =>
    if other.truthy then
      .error (.fault .type s!"argument of type '{other.kindName}' is not iterable")
    else .ok none

/-- The source that defines a resource, among those loaded so far. -/
def sourceOf? (sources : List Source) (name : Value) : Option Source :=
  sources.find? fun source => source.schema.name.same name

/-- The sources with that of one more file, if the file defines a resource. -/
def loadFile (sources : List Source) (path : String) (content : Content) :
    Except Failure (List Source) := do
  let data ← documentOf path content
  let definition ← definitionIn data
  match definition with
  | none => pure sources
  | some entries =>
    let schema ← Schema.ofDocument entries
    if !schema.name.isKeyable then
      .error (.fault .type s!"unhashable type: '{schema.name.kindName}'")
    else
      match sourceOf? sources schema.name with
      | some first =>
        .error (.configuration (.duplicateResource schema.name path first.path))
      | none => pure (sources ++ [⟨path, schema⟩])

/-- What a directory defines, if it is there. -/
def load (directory : Option Directory) : Except Failure Loaded :=
  match directory with
  | none => .ok ⟨Settings.standard, []⟩
  | some d => do
    let settings ← loadSettings d
    let sources ← d.resourceFiles.foldlM (fun sources (path, content) =>
      loadFile sources path content) []
    pure ⟨settings, sources⟩

/-- The registry of what a directory defines; settings that are given win over its own. -/
def registryOf (directory : Option Directory) (settings : Option Settings) :
    Except Failure Registry := do
  let loaded ← load directory
  loaded.sources.foldlM (fun registry source => registry.register source.schema none)
    (Registry.empty (settings.getD loaded.settings))

end Curator.Metadata
