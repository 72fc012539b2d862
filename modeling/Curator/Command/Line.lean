import Curator.Value.Conversion
import Curator.Mapping
/-!
# Command lines

What a command line asks for.  Options come with two dashes, their values behind them or after an
equals sign; the last of several counts.  All else are arguments.
-/

set_option autoImplicit false

namespace Curator.Command

/-- A request to list a resource. -/
structure ListRequest where
  name : String
  /-- The parameters of the list request that were given. -/
  parameters : Record
  /-- Whether aggregates are wanted. -/
  aggregates : Bool
  withTrashed : Bool
  onlyTrashed : Bool
  all : Bool
  deriving Inhabited

inductive Task where
  /-- Validates one file or all metadata. -/
  | validate (strict : Bool) (file : Option String)
  | show_ (name : String)
  | list (request : ListRequest)
  deriving Inhabited

structure Line where
  /-- The path of the directory with the metadata. -/
  metadata : String
  task : Task
  deriving Inhabited

/-- The options and arguments of one command: values under option names, switches that are on, and
arguments. -/
structure Words where
  values : Mapping String
  switches : List String
  arguments : List String
  deriving Inhabited

namespace Words

def empty : Words := ⟨[], [], []⟩

/-- Reads the words of a command that has the given options and switches; none if a word is not
understood.  With `stop` the first argument ends the reading and is left with what follows. -/
def read? (options switches : List String) (stop : Bool) :
    Words → List String → Option (Words × List String)
  | words, [] => some (words, [])
  | words, word :: rest =>
    if !Text.startsWith word "--" then
      if stop then some (words, word :: rest)
      else read? options switches stop { words with arguments := words.arguments ++ [word] } rest
    else if switches.contains word then
      read? options switches stop { words with switches := words.switches ++ [word] } rest
    else if options.contains word then
      match rest with
      | [] => none
      | value :: rest =>
        read? options switches stop { words with values := words.values.put word value } rest
    else
      match Text.splitOnce? word "=" with
      | some (option, value) =>
        if options.contains option then
          read? options switches stop { words with values := words.values.put option value } rest
        else none
      | none => none

end Words

/-- The options of a list request that are passed on as they are, with their parameters. -/
def textOptions : List (String × String) :=
  [("--fields", "fields"), ("--filter", "filter"), ("--search", "search"), ("--sort", "sort"),
    ("--group", "group"), ("--before", "before"), ("--after", "after"), ("--aggregate", "aggregate")]

def numberOptions : List (String × String) :=
  [("--limit", "limit"), ("--page", "page")]

def textParameters (values : Mapping String) : Record :=
  textOptions.filterMap fun (option, parameter) =>
    (values.value? option).map fun text => (parameter, .str text)

/-- The parameters given as numbers; none if one is no number. -/
def numberParameters? (values : Mapping String) : Option Record :=
  (numberOptions.filterMap fun (option, parameter) =>
    (values.value? option).map fun text => (parameter, text)).mapM fun (parameter, text) =>
      match integerOfText text with
      | .ok n => some (parameter, .int n)
      | .error _ => none

def listRequest? (words : Words) : Option ListRequest := do
  let numbers ← numberParameters? words.values
  match words.arguments with
  | [name] =>
    let parameters := textParameters words.values ++ numbers
    let all := words.switches.contains "--all"
    let cursors := Mapping.has parameters "before" || Mapping.has parameters "after"
    let kind := if cursors then "cursor" else "page"
    let parameters := if all then parameters else parameters ++ [("pagination", .str kind)]
    pure ⟨name, parameters, Mapping.has parameters "aggregate",
      words.switches.contains "--with-trashed", words.switches.contains "--only-trashed", all⟩
  | _ => none

def task? : List String → Option Task
  | "schema" :: "validate" :: rest => do
    let (words, _) ← Words.read? ["--path"] ["--strict"] false Words.empty rest
    if words.arguments.isEmpty then
      pure (.validate (words.switches.contains "--strict") (words.values.value? "--path"))
    else none
  | "schema" :: "show" :: rest => do
    let (words, _) ← Words.read? [] [] false Words.empty rest
    match words.arguments with
    | [name] => pure (.show_ name)
    | _ => none
  | "resource" :: "list" :: rest => do
    let options := (textOptions ++ numberOptions).map (·.1)
    let (words, _) ←
      Words.read? options ["--with-trashed", "--only-trashed", "--all"] false Words.empty rest
    let request ← listRequest? words
    pure (.list request)
  | _ => none

/-- The directory with the metadata where none is named. -/
def standardMetadata : String := "metadata"

/-- What a command line asks for; none if it is not understood. -/
def Line.read? (arguments : List String) : Option Line := do
  let (words, rest) ← Words.read? ["--metadata", "--log-level"] [] true Words.empty arguments
  let task ← task? rest
  pure ⟨(words.values.value? "--metadata").getD standardMetadata, task⟩

end Curator.Command
