import Curator.Metadata.Shape
/-!
# Directories of metadata

The files that metadata is read from: settings in one file and every resource in a file of its own.
-/

set_option autoImplicit false

namespace Curator.Metadata

/-- What is in a file: a document, which is null if the file is empty, or text that is none. -/
inductive Content where
  | document (v : Value)
  | malformed (words : String)
  deriving Inhabited

/-- A directory of files, each under its path from there. -/
structure Directory where
  /-- The path of the directory itself. -/
  path : String
  files : List (String × Content)
  deriving Inhabited

/-- A path inside a directory. -/
def joined (directory name : String) : String :=
  if directory = "." then name else directory ++ "/" ++ name

def settingsFile : String := "resourceforge.yaml"

def resourcesDirectory : String := "resources"

/-- The name of a resource's file if a path leads to one. -/
def resourceFileName? (path : String) : Option String :=
  match Text.split path "/" with
  | [directory, name] =>
    if directory = resourcesDirectory && ".yaml".toList.isSuffixOf name.toList then some name else none
  | _ => none

namespace Directory

def pathOf (d : Directory) (name : String) : String :=
  joined d.path name

/-- What is in the file with the settings, if there is one. -/
def settingsContent? (d : Directory) : Option Content :=
  d.files.lookup settingsFile

/-- The files of resources in the order of their names, each with its full path. -/
def resourceFiles (d : Directory) : List (String × Content) :=
  let named := d.files.filterMap fun (path, content) =>
    (resourceFileName? path).map fun name => (name, content)
  let ordered := named.mergeSort fun a b => !(b.1 < a.1)
  ordered.map fun (name, content) => (d.pathOf (resourcesDirectory ++ "/" ++ name), content)

end Directory

end Curator.Metadata
