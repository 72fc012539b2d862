import Curator.Model.Write
/-!
# Removing

Deleting rows, trashing and restoring them, and clearing away those that have become old.
-/

set_option autoImplicit false

namespace Curator.Model

open Sql

/-- Deletes the row of a resource; false if there was none. -/
def removeRow (m : Model) (resource : Resource) : Session Bool := do
  let deleted ← Session.delete m.schema.table [(m.schema.primaryKey, resource.key)]
  if deleted = 0 then pure false
  else
    Session.log .info ("Deleted " ++ m.schema.name.text ++ " " ++ resource.key.text)
    m.notify .afterDelete resource.data none
    Session.emit "resource.delete" [.resource resource]
    pure true

/-- Marks the row of a resource as trashed; false if there was none. -/
def trashRow (m : Model) (resource : Resource) : Session Bool := do
  let now ← Session.of (timestamp m.engine.now .null)
  let trashed ← Session.update m.schema.table [(m.schema.deletedAtColumn, .str now)]
    [(m.schema.primaryKey, resource.key)]
  if trashed = 0 then pure false
  else
    Session.log .info ("Trashed " ++ m.schema.name.text ++ " " ++ resource.key.text)
    m.notify .afterTrash resource.data none
    Session.emit "resource.trash" [.resource resource]
    pure true

/-- Trashes or deletes the row of a resource, as the model does. -/
def destroyRow (m : Model) (resource : Resource) : Session Bool :=
  if m.kind.capabilities.softDeletes then m.trashRow resource else m.removeRow resource

/-- A resource, or nothing if it does not exist. -/
def ifExists (work : Session Resource) : Session (Option Resource) :=
  Session.rescue (some <$> work) fun failure =>
    match failure.category with
    | .absent => pure none
    | _ => Session.fail failure

/-- Removes what is found, after the hooks before it; false if nothing is found. -/
def removing (m : Model) (found : Session Resource) (remove : Resource → Session Bool) :
    Session Bool := do
  let resource ← ifExists found
  match resource with
  | none => pure false
  | some resource =>
    m.notify .beforeDelete resource.data none
    remove resource

def delete (m : Model) (key : Value) : Session Bool :=
  m.tracked (m.removing (m.visibleResource key) m.destroyRow)

/-- Deletes the row with a key, trashed or not. -/
def hardDelete (m : Model) (key : Value) : Session Bool :=
  m.tracked (m.removing (m.resource key .include_) m.removeRow)

/-- Takes the mark of a trashed row away. -/
def restore (m : Model) (key : Value) : Session Resource :=
  m.tracked do
    let restored ← Session.update m.schema.table [(m.schema.deletedAtColumn, .null)]
      [(m.schema.primaryKey, key)]
    if restored = 0 then Session.fail (.absent .restore)
    else
      let resource ← m.resource key .include_
      m.notify .afterRestore resource.data none
      Session.emit "resource.restore" [.resource resource]
      pure resource

/-- Removes the rows with given keys one by one and counts those that were there. -/
def removeEach (remove : Value → Session Bool) : List Value → Session Nat
  | [] => pure 0
  | key :: rest => do
    let removed ← remove key
    let others ← removeEach remove rest
    pure (if removed then others + 1 else others)

def purgeTrashed (m : Model) (before : Value) : Session Nat :=
  m.tracked do
    let keys ← m.keysBefore m.schema.deletedAtColumn before
    let purged ← removeEach m.hardDelete keys
    Session.log .info (s!"Purged {purged} trashed " ++ m.schema.name.text ++ " row(s)")
    pure purged

/-- Removes the rows that are older than a moment. -/
def prune (m : Model) (before : Value) : Session Nat :=
  m.tracked do
    let keys ← m.keysBefore m.schema.pruneColumn before
    let pruned ← removeEach m.delete keys
    Session.log .info (s!"Pruned {pruned} " ++ m.schema.name.text ++ " row(s)")
    pure pruned

/-- Deletes in one statement the rows in which a column stands for a moment before a given one. -/
def removeBefore (m : Model) (name : String) (before : Value) : Session Int := do
  let selection ← m.rows
  let limit ← Session.of (timestamp m.engine.now before)
  let selection ← narrowed selection ⟨name, none, []⟩ .lt (.str limit)
  Session.remove selection

/-- Deletes the rows that were trashed before a moment, without hooks and events. -/
def purgeTrashedQuietly (m : Model) (before : Value) : Session Int := do
  let purged ← m.removeBefore m.schema.deletedAtColumn before
  Session.log .info (s!"Quietly purged {purged} trashed " ++ m.schema.name.text ++ " row(s)")
  pure purged

/-- Deletes the rows that are older than a moment, without hooks and events. -/
def pruneQuietly (m : Model) (before : Value) : Session Int := do
  let pruned ← m.removeBefore m.schema.pruneColumn before
  Session.log .info (s!"Quietly pruned {pruned} " ++ m.schema.name.text ++ " row(s)")
  pure pruned

end Curator.Model
