import Curator.Command.Files
import Curator.Command.Line
import Curator.Command.Report
import Curator.Database.Url
import Curator.Model.Perform
/-!
# Running commands

The three commands: validating metadata, showing a schema, and listing a resource of the configured
database.
-/

set_option autoImplicit false

namespace Curator.Command

open Metadata Calendar

/-- Where a command runs. -/
structure Surroundings where
  files : FileTree
  environment : Mapping String
  now : Moment
  /-- What the database answers, statement by statement. -/
  answers : List Reply

def commandHooks : HookTable := []

/-- The last step of a path. -/
def fileName (path : String) : String :=
  ((Text.split path "/").getLast?).getD path

/-! ## Metadata -/

def validateFile (tree : FileTree) (path : String) : Ended :=
  let path := simplified path
  match tree.file? path with
  | none => Ended.misunderstood
  | some content => validationEnd (fileIssues path (shapeFor (fileName path)) content) (.ok [])

def validateAll (tree : FileTree) (path : String) (strict : Bool) : Ended :=
  let path := simplified path
  let directory := tree.directory? path
  if directory.isNone && (tree.file? path).isNone then
    Ended.refused "" ("Metadata directory not found at " ++ path)
  else
    match Metadata.validate path directory commandHooks.names strict with
    | .error failure => ⟨1, "", "", [], some failure⟩
    | .ok issues =>
      validationEnd issues (do
        let registry ← registryOf directory none
        resourceLines registry)

def show_ (tree : FileTree) (path name : String) : Ended :=
  let found : Except Failure (Registry × Schema × ModelKind) := do
    let registry ← registryOf (tree.directory? path) none
    let schema ← registry.schema name
    let kind ← registry.modelKind name
    pure (registry, schema, kind)
  match found with
  | .error failure => Ended.failed failure
  | .ok (registry, schema, kind) =>
    match jsonText false (shownSchema schema registry.settings kind) with
    | .ok text => Ended.succeeded (text ++ "\n")
    | .error failure => ⟨1, "", "", [], some failure⟩

/-! ## Lists -/

/-- Makes the rows visible that a request asks for. -/
def showTrashed (model : Model) (request : ListRequest) : Session Unit :=
  if request.withTrashed then model.seeing .include_
  else if request.onlyTrashed then model.seeing .only
  else pure ()

/-- The paging information and the aggregates that a request asks for. -/
def listMeta (request : ListRequest) (collection : Collection) : Session Record := do
  let (collection, paging) ←
    if request.all then pure (collection, [])
    else do
      let (collection, outcome) ← collection.pagination
      let paging ← Session.of outcome
      pure (collection, [("pagination", paging)])
  if request.aggregates then
    let (_, outcome) ← collection.ask .aggregate
    let aggregates ← Session.of outcome
    pure (paging ++ [("aggregate", aggregates)])
  else pure paging

def listRows (engine : Engine) (request : ListRequest) : Session Value := do
  Session.connect
  let model ← Session.of (engine.modelOf request.name)
  showTrashed model request
  let collection ← model.tracked (model.listing (.dict request.parameters) request.all)
  let told ← listMeta request collection
  let told := if told.isEmpty then [] else [("meta", Value.dict told)]
  pure (.dict (("data", .list (collection.rows.map Value.dict)) :: told))

/-- Work after which the connection is closed. -/
def disconnecting {α : Type} (work : Session α) : Session α := do
  let outcome ← Session.outcomeOf work
  Session.disconnect
  Session.of outcome

def list (around : Surroundings) (path : String) (request : ListRequest) : Ended :=
  let found : Except Failure (Registry × Target) := do
    let registry ← registryOf (around.files.directory? path) none
    let target ← Target.ofUrl (resolveUrl around.environment (some registry.settings))
    pure (registry, target)
  match found with
  | .error failure => Ended.failed failure
  | .ok (registry, target) =>
    let engine : Engine := ⟨registry, commandHooks, around.now⟩
    let database := Database.closed target.dialect target.address around.answers
    let ran := disconnecting (listRows engine request) ⟨database, EventBus.empty, .idle⟩
    let ended :=
      match ran.outcome with
      | .error failure => Ended.failed failure
      | .ok value =>
        match jsonText true value with
        | .ok text => Ended.succeeded (text ++ "\n")
        | .error failure => ⟨1, "", "", [], some failure⟩
    ended.after ran.entries

/-- Runs the command that a command line asks for. -/
def run (around : Surroundings) (arguments : List String) : Ended :=
  match Line.read? arguments with
  | none => Ended.misunderstood
  | some line =>
    match line.task with
    | .validate _ (some file) => validateFile around.files file
    | .validate strict none => validateAll around.files line.metadata strict
    | .show_ name => show_ around.files line.metadata name
    | .list request => list around line.metadata request

end Curator.Command
