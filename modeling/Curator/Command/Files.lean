import Curator.Metadata.Directory
/-!
# File trees

The files that a command finds, under their paths from the place where it runs.
-/

set_option autoImplicit false

namespace Curator.Command

open Metadata

/-- Directories and the files in them.  A directory is there if it is listed or has a file in it. -/
structure FileTree where
  directories : List String
  files : List (String × Content)
  deriving Inhabited

/-- A path in its simplest form: without empty steps and steps that stay in place. -/
def simplified (path : String) : String :=
  let steps := (Text.split path "/").filter fun step => step != "" && step != "."
  let relative := Text.join "/" steps
  if Text.startsWith path "/" then "/" ++ relative
  else if relative = "" then "." else relative

namespace FileTree

/-- The files below a directory, under their paths from there. -/
def filesBelow (tree : FileTree) (path : String) : List (String × Content) :=
  if path = "." then tree.files
  else
    tree.files.filterMap fun (file, content) =>
      let lead := path ++ "/"
      if Text.startsWith file lead then
        some (String.ofList (file.toList.drop lead.length), content)
      else none

/-- The directory at a path, if it is there. -/
def directory? (tree : FileTree) (path : String) : Option Directory :=
  let path := simplified path
  let files := tree.filesBelow path
  if path = "." || tree.directories.contains path || !files.isEmpty then some ⟨path, files⟩
  else none

/-- What is in the file at a path, if it is there. -/
def file? (tree : FileTree) (path : String) : Option Content :=
  tree.files.lookup (simplified path)

end FileTree

end Curator.Command
