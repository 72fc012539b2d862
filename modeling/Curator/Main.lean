import Curator.Command.Run
import Curator.Json.Reader
import Std.Time.DateTime.Timestamp
/-!
# The command line

Runs one command in the current directory.  Metadata documents are read as JSON.  No database is asked
directly: what it would answer, statement by statement, stands in a file of its own, an array of
replies; without that file every answer is empty.
-/

set_option autoImplicit false

namespace Curator.Command

open Metadata Calendar

/-- The name of the file with the replies of the database. -/
def repliesFile : String := "replies.json"

/-- A reply as a document gives it: rows, a row count and a last key, or a refusal. -/
def replyOf (v : Value) : Reply :=
  let entries := v.dict?.getD []
  let entry := fun (key : String) => (Mapping.value? entries key).getD .null
  let items := fun (v : Value) =>
    match v with
    | .list items => items
    | _ => []
  match entry "error" with
  | .str kind =>
    .refused (if kind = "unique" then .unique else if kind = "integrity" then .integrity else .other)
      ((entry "message").string?.getD "")
  | _ =>
    .answered ⟨(items (entry "rows")).map fun row => row.dict?.getD [],
      (entry "rowcount").integer?.getD 0, entry "lastrowid"⟩

/-- The document in a text. -/
def contentOf (text : String) : Content :=
  if (text.toList.dropWhile Text.isBlank).isEmpty then .document .null
  else
    match Json.read text with
    | .ok document => .document document
    | .error _ => .malformed "not a document"

/-- The file at a path, if it can be read. -/
def readFile? (path : String) : IO (Option String) := do
  try
    let text ← IO.FS.readFile path
    pure (some text)
  catch _ => pure none

/-- The files in a directory with their contents, and whether the directory is there. -/
def readDirectory (path : String) : IO (Bool × List (String × Content)) := do
  try
    let here ← IO.currentDir
    let entries ← (here / path).readDir
    let files ← entries.toList.mapM fun entry => do
      let name := path ++ "/" ++ entry.fileName
      let text ← readFile? name
      pure (text.map fun text => (simplified name, contentOf text))
    pure (true, files.filterMap id)
  catch _ => pure (false, [])

/-- The directory with the metadata and the one with the resources in it. -/
def readTree (metadata : String) : IO FileTree := do
  let (found, files) ← readDirectory metadata
  let (_, resources) ← readDirectory (metadata ++ "/" ++ resourcesDirectory)
  pure ⟨if found then [simplified metadata] else [], files ++ resources⟩

/-- Runs the command that the arguments ask for and gives its exit code. -/
def runHere (arguments : List String) : IO UInt32 := do
  let line := Line.read? arguments
  let tree ← readTree ((line.map (·.metadata)).getD standardMetadata)
  let url ← IO.getEnv Settings.urlVariable
  let environment := (url.map fun url => [(Settings.urlVariable, url)]).getD []
  let replies ← readFile? repliesFile
  let replies :=
    match (replies.map Json.read).getD (.ok .null) with
    | .ok (.list items) => items.map replyOf
    | _ => []
  let clock ← Std.Time.Timestamp.now
  let now := (momentOfSeconds clock.toSecondsSinceUnixEpoch.val).toOption.getD default
  let ended := Command.run ⟨tree, environment, now, replies⟩ arguments
  IO.print ended.output
  IO.eprint ended.errors
  match ended.failure with
  | some failure => IO.eprintln failure.text
  | none => pure ()
  pure (UInt32.ofNat ended.exitCode)

end Curator.Command

def main (arguments : List String) : IO UInt32 :=
  Curator.Command.runHere arguments
