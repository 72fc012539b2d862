import Curator.Model.Collection
import Curator.Model.Remove
/-!
# Performing calls

A call of a model as work in a session.  Hooks may ask for steps of their own, which are performed the
same way: on the model at work, or on a new model of another resource.
-/

set_option autoImplicit false

namespace Curator

namespace Model

/-- Work on the JSON column of a model; without one there is no such operation. -/
def withJsonColumn (m : Model) (name : String) (work : String → Session Answer) : Session Answer :=
  match m.kind.capabilities.nullableJson with
  | some column => work column
  | none => Session.fail (noOperation name)

/-- The work of a call; questions go to the collection of a list. -/
def call (m : Model) (questions : List CollectionCall) : Call → Session Answer
  | .create fields => Answer.resource <$> m.create fields
  | .read key fields => (Answer.value ∘ Value.dict) <$> m.tracked (m.readRow key fields)
  | .find key => Answer.resource <$> m.tracked (m.visibleResource key)
  | .list query all => do
    let collection ← m.tracked (m.listing query all)
    collection.answered questions
  | .exists_ key => (Answer.value ∘ Value.bool) <$> m.tracked (m.hasKey key)
  | .count => (Answer.value ∘ Value.int) <$> m.tracked m.countVisible
  | .update key fields => Answer.resource <$> m.update key fields
  | .upsert fields => Answer.resource <$> m.upsert fields
  | .replicate key overrides => Answer.resource <$> m.replicate key overrides
  | .delete key => (Answer.value ∘ Value.bool) <$> m.delete key
  | .withTrashed => (fun _ => Answer.model) <$> m.seeing .include_
  | .onlyTrashed => (fun _ => Answer.model) <$> m.seeing .only
  | .restore key =>
    requires m.kind.capabilities.softDeletes "restore" (Answer.resource <$> m.restore key)
  | .hardDelete key =>
    requires m.kind.capabilities.softDeletes "hard_delete"
      ((Answer.value ∘ Value.bool) <$> m.hardDelete key)
  | .purgeTrashed before =>
    requires m.kind.capabilities.softDeletes "purge_trashed"
      ((fun (n : Nat) => Answer.value (.int n)) <$> m.purgeTrashed before)
  | .purgeTrashedQuietly before =>
    requires m.kind.capabilities.softDeletes "purge_trashed_quietly"
      ((Answer.value ∘ Value.int) <$> m.purgeTrashedQuietly before)
  | .prune before =>
    requires m.kind.capabilities.prunable "prune"
      ((fun (n : Nat) => Answer.value (.int n)) <$> m.prune before)
  | .pruneQuietly before =>
    requires m.kind.capabilities.prunable "prune_quietly"
      ((Answer.value ∘ Value.int) <$> m.pruneQuietly before)
  | .defineJson data =>
    m.withJsonColumn "define_nullable_json" fun column =>
      (Answer.value ∘ Value.dict) <$> definedJson column data
  | .updateJson key data =>
    m.withJsonColumn "update_nullable_json" fun column =>
      (Answer.value ∘ Value.dict) <$> m.updatedJson column key data
  | .describe => pure (.value (.str m.text))

end Model

namespace Engine

/-- The model of a resource, with the way to perform the steps of its hooks. -/
def model (engine : Engine) (name : String) (perform : Model → Step → Session Answer) :
    Except Failure Model := do
  let schema ← engine.registry.schema name
  let kind ← engine.registry.modelKind name
  let bare : Model := ⟨engine, schema, kind, fun _ => Session.fail Session.endless⟩
  pure { bare with perform := perform bare }

/-- Performs a step that a hook of a model asks for, with at most `depth` steps inside one
another. -/
def performWithin (engine : Engine) : Nat → Model → Step → Session Answer
  | 0, _, _ => Session.fail Session.endless
  | depth + 1, m, step =>
    match step.resource with
    | none => { m with perform := performWithin engine depth m }.call step.questions step.call
    | some name =>
      Session.withModel .idle do
        let other ← Session.of (engine.model name (performWithin engine depth))
        other.call step.questions step.call

/-- The model of a resource, whose hooks may ask for steps of their own. -/
def modelOf (engine : Engine) (name : String) : Except Failure Model :=
  engine.model name (performWithin engine Session.greatestDepth)

end Engine

end Curator
