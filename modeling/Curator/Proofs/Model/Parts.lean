import Curator.Model.Write
import Curator.Proofs.Hook.Quiet
/-!
# The parts of a write

Creating and updating cut into their parts: what is checked, what the hooks before the write leave, the
write, and what comes after it.  All but the write itself only reads, besides what hooks ask for.
-/

set_option autoImplicit false

namespace Curator

open Sql Session

namespace Model

variable {K : ∀ {α : Type}, Session α → Prop} {m : Model}

/-! ## Creating -/

/-- The fields of a new row once they are checked. -/
def checkedNew (m : Model) (fields : Record) : Session Record := do
  let overwriting ← upserting
  let kind : WriteKind := if overwriting then .upsert else .create
  Session.of (checkRequired m.schema kind fields)
  let values ← Session.of (prepared m.schema kind fields)
  m.checkRelated kind (withDefaults m.schema values) m.schema.related
  let overwriting ← upserting
  if overwriting then pure ()
  else m.checkUnique kind (withDefaults m.schema values) [] .null m.schema.unique
  pure (withDefaults m.schema values)

/-- The new row as the hooks before the write leave it. -/
def readiedNew (m : Model) (values : Record) : Session Record := do
  let values ← m.atPoint .beforeWrite values none
  let values ← m.withJson values definedJson
  m.atPoint .beforeCreate values none

/-- What comes after a row has been inserted. -/
def concludedNew (m : Model) (values : Record) : Session Resource := do
  let key ← m.writtenKey values
  let resource ← m.resource key .include_
  m.notify .afterCreate resource.data none
  m.notify .afterWrite resource.data none
  Session.log .info ("Created " ++ m.schema.name.text ++ " " ++ resource.key.text)
  Session.emit "resource.create" [.resource resource]
  pure resource

theorem createRow_eq (m : Model) (fields : Record) :
    m.createRow fields = (do
      let values ← m.checkedNew fields
      let values ← m.readiedNew values
      Session.log .debug ("Creating " ++ m.schema.name.text ++ ": " ++ m.redacted values)
      m.insertRow values
      m.concludedNew values) := by
  unfold createRow checkedNew readiedNew concludedNew
  simp only [bind_assoc]
  refine bind_congr fun _ => bind_congr fun _ => bind_congr fun _ => bind_congr fun _ => ?_
  refine bind_congr fun overwriting => ?_
  cases overwriting with
  | false => simp only [Bool.false_eq_true, if_false, bind_assoc, pure_bind]
  | true => simp only [if_true, pure_bind]

theorem checkedNew_reads (reads : Reads K)
    (fields : Record) : K (m.checkedNew fields) := by
  refine reads.bind reads.upserting fun overwriting => ?_
  refine reads.bind (reads.of _) fun _ => reads.bind (reads.of _) fun values => ?_
  refine reads.bind (reads.checkRelated m _ _ _) fun _ => ?_
  refine reads.bind reads.upserting fun overwriting => ?_
  exact reads.unless (reads.checkUnique m _ _ _ _ _) fun _ => reads.pure _

theorem readiedNew_closed (closed : Closed K)
    (steps : ∀ point, ∀ step ∈ m.asked point, K (m.perform step)) (values : Record) :
    K (m.readiedNew values) := by
  have hooked := closed.atPoint steps
  refine closed.bind (hooked _ _ _) fun values => ?_
  exact closed.bind (closed.withJson m values closed.definedJson) fun values => hooked _ _ _

theorem concludedNew_reads (reads : Reads K) (announces : Announces K)
    (steps : ∀ point, ∀ step ∈ m.asked point, K (m.perform step)) (values : Record) :
    K (m.concludedNew values) := by
  refine reads.bind (reads.writtenKey m values) fun key => ?_
  refine reads.bind (reads.resource steps key _) fun resource => ?_
  refine reads.bind (reads.notify steps _ _ _) fun _ => ?_
  refine reads.bind (reads.notify steps _ _ _) fun _ => reads.bind (reads.info _) fun _ => ?_
  exact reads.bind (announces.emit _ _) fun _ => reads.pure _

/-! ## Updating -/

/-- The row that is to be changed and the new values of its fields once they are checked. -/
def checkedChange (m : Model) (key : Value) (fields : Record) : Session (Resource × Record) := do
  let existing ← m.visibleResource key
  let values ← Session.of (prepared m.schema .update fields)
  m.checkRelated .update values m.schema.related
  let stored ← m.storedRow key
  m.checkUnique .update values stored key m.schema.unique
  pure (existing, values)

/-- The new values as the hooks before the write leave them. -/
def readiedChange (m : Model) (existing : Resource) (values : Record) : Session Record := do
  let values ← m.atPoint .beforeWrite values none
  let values ← m.withJson values fun column data => m.updatedJson column existing.key data
  m.atPoint .beforeUpdate values (some existing.data)

/-- The write of a change; without values there is none. -/
def writtenChange (m : Model) (key : Value) (values : Record) : Session Unit :=
  if values.isEmpty then pure ()
  else do
    Session.log .debug
      ("Updating " ++ m.schema.name.text ++ " " ++ key.text ++ ": " ++ m.redacted values)
    let _ ← Session.update m.schema.table values [(m.schema.primaryKey, key)]
    pure ()

/-- What comes after a row has been changed. -/
def concludedChange (m : Model) (key : Value) (existing : Resource) (values : Record) :
    Session Resource := do
  let newKey := (values.value? m.schema.primaryKey).getD key
  let resource ← m.resource newKey .include_
  m.notify .afterUpdate resource.data (some existing.data)
  m.notify .afterWrite resource.data none
  Session.log .info ("Updated " ++ m.schema.name.text ++ " " ++ newKey.text)
  Session.emit "resource.update" [.resource resource, .resource existing, .value (.dict values)]
  pure resource

theorem updateRow_eq (m : Model) (key : Value) (fields : Record) :
    m.updateRow key fields = (do
      let (existing, values) ← m.checkedChange key fields
      let values ← m.readiedChange existing values
      m.writtenChange key values
      m.concludedChange key existing values) := by
  unfold updateRow checkedChange readiedChange writtenChange concludedChange
  simp only [bind_assoc, pure_bind]
  refine bind_congr fun _ => bind_congr fun _ => bind_congr fun _ => bind_congr fun _ => ?_
  refine bind_congr fun _ => bind_congr fun _ => bind_congr fun _ => bind_congr fun values => ?_
  cases values with
  | nil => simp only [List.isEmpty_nil, if_true, pure_bind]
  | cons first rest =>
    simp only [List.isEmpty_cons, Bool.false_eq_true, if_false, bind_assoc, pure_bind]

theorem checkedChange_reads (reads : Reads K)
    (steps : ∀ point, ∀ step ∈ m.asked point, K (m.perform step)) (key : Value)
    (fields : Record) : K (m.checkedChange key fields) := by
  refine reads.bind (reads.visibleResource steps key) fun existing => ?_
  refine reads.bind (reads.of _) fun values => ?_
  refine reads.bind (reads.checkRelated m _ _ _) fun _ => ?_
  refine reads.bind (reads.storedRow m key) fun stored => ?_
  exact reads.bind (reads.checkUnique m _ _ _ _ _) fun _ => reads.pure _

theorem readiedChange_reads (reads : Reads K)
    (steps : ∀ point, ∀ step ∈ m.asked point, K (m.perform step)) (existing : Resource)
    (values : Record) : K (m.readiedChange existing values) := by
  have hooked := reads.atPoint steps
  refine reads.bind (hooked _ _ _) fun values => ?_
  refine reads.bind (reads.withJson m values fun column data => ?_) fun values => hooked _ _ _
  exact reads.updatedJson m column existing.key data

theorem writtenChange_writes (writes : Writes K) (key : Value) (values : Record) :
    K (m.writtenChange key values) := by
  unfold writtenChange
  split
  · exact writes.pure _
  · refine writes.bind (writes.debug (by simp)) fun _ => ?_
    exact writes.bind (writes.update _ _ _) fun _ => writes.pure _

theorem concludedChange_reads (reads : Reads K) (announces : Announces K)
    (steps : ∀ point, ∀ step ∈ m.asked point, K (m.perform step)) (key : Value)
    (existing : Resource) (values : Record) : K (m.concludedChange key existing values) := by
  refine reads.bind (reads.resource steps _ _) fun resource => ?_
  refine reads.bind (reads.notify steps _ _ _) fun _ => ?_
  refine reads.bind (reads.notify steps _ _ _) fun _ => reads.bind (reads.info _) fun _ => ?_
  exact reads.bind (announces.emit _ _) fun _ => reads.pure _

end Model

end Curator
