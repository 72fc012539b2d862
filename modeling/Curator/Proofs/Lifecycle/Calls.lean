import Curator.Proofs.Model.Parts
/-!
# What calls of a model uphold

A property of works that sequences hand on and all statements have is had by every call of a model, if
the steps have it that its hooks ask for and operations hand it on.
-/

set_option autoImplicit false

namespace Curator

open Sql Session

/-- A closed property that all statements and announcements have, the choice of a view, and the steps
which the hooks of a model ask for, and that operations of the model hand on. -/
structure Model.Upholds (m : Model) (K : ∀ {α : Type}, Session α → Prop) : Prop
    extends Writes K, Announces K where
  trashing : ∀ mode, K (Session.trashing mode)
  steps : ∀ point, ∀ step ∈ m.asked point, K (m.perform step)
  tracked : ∀ {α : Type} {work : Session α}, K (m.notify .begin [] none) →
    K (m.notify .complete [] none) → K work → K (m.tracked work)

/-- Lets the operation under way be an upsert. -/
def Model.marking : Session Unit := do
  let state ← Session.model
  Session.setModel { state with upserting := true }

def Call.upserts : Call → Bool
  | .upsert _ => true
  | _ => false

namespace Model.Upholds

variable {K : ∀ {α : Type}, Session α → Prop} {m : Model} (upholds : m.Upholds K)

include upholds

theorem notify (point : HookPoint) (record : Record) (previous : Option Record) :
    K (m.notify point record previous) :=
  upholds.toWrites.notify upholds.steps point record previous

theorem operation {α : Type} {work : Session α} (held : K work) : K (m.tracked work) :=
  upholds.tracked (upholds.notify _ _ _) (upholds.notify _ _ _) held

theorem resource (key : Value) (mode : TrashedMode) : K (m.resource key mode) :=
  upholds.reads.resource upholds.steps key mode

/-! ### Writing -/

theorem createRow (fields : Record) : K (m.createRow fields) := by
  rw [createRow_eq]
  refine upholds.bind (checkedNew_reads upholds.reads fields) fun values => ?_
  refine upholds.bind (readiedNew_closed upholds.toClosed upholds.steps values) fun row => ?_
  refine upholds.bind (upholds.debug (by simp)) fun _ => ?_
  refine upholds.bind (upholds.insertRow m row) fun _ => ?_
  exact concludedNew_reads upholds.reads upholds.toAnnounces upholds.steps row

theorem updateRow (key : Value) (fields : Record) : K (m.updateRow key fields) := by
  rw [updateRow_eq]
  refine upholds.bind (checkedChange_reads upholds.reads upholds.steps key fields) fun found => ?_
  refine upholds.bind (readiedChange_reads upholds.reads upholds.steps _ _) fun row => ?_
  refine upholds.bind (writtenChange_writes upholds.toWrites key row) fun _ => ?_
  exact concludedChange_reads upholds.reads upholds.toAnnounces upholds.steps key _ row

theorem create (fields : Record) : K (m.create fields) :=
  upholds.operation (upholds.createRow fields)

theorem update (key : Value) (fields : Record) : K (m.update key fields) :=
  upholds.operation (upholds.updateRow key fields)

theorem upsert (marks : K Model.marking) (fields : Record) : K (m.upsert fields) := by
  refine upholds.operation ?_
  rw [← bind_assoc]
  refine upholds.bind marks fun _ => ?_
  exact upholds.rescue (upholds.create fields) fun _ => upholds.fail _

theorem replicate (key : Value) (overrides : Record) : K (m.replicate key overrides) := by
  refine upholds.operation (upholds.bind (upholds.of _) fun _ => ?_)
  have found := upholds.operation (upholds.reads.readRow upholds.steps key [])
  exact upholds.bind found fun existing => upholds.create _

/-! ### Removing -/

theorem removeRow (resource : Resource) : K (m.removeRow resource) := by
  refine upholds.bind (upholds.toWrites.delete _ _) fun deleted => ?_
  split
  · exact upholds.pure _
  · refine upholds.bind (upholds.info _) fun _ => upholds.bind (upholds.notify _ _ _) fun _ => ?_
    exact upholds.bind (upholds.toAnnounces.emit _ _) fun _ => upholds.pure _

theorem trashRow (resource : Resource) : K (m.trashRow resource) := by
  refine upholds.bind (upholds.of _) fun now => ?_
  refine upholds.bind (upholds.toWrites.update _ _ _) fun trashed => ?_
  split
  · exact upholds.pure _
  · refine upholds.bind (upholds.info _) fun _ => upholds.bind (upholds.notify _ _ _) fun _ => ?_
    exact upholds.bind (upholds.toAnnounces.emit _ _) fun _ => upholds.pure _

theorem destroyRow (resource : Resource) : K (m.destroyRow resource) := by
  unfold Model.destroyRow
  split
  · exact upholds.trashRow resource
  · exact upholds.removeRow resource

theorem removing {found : Session Resource} {remove : Resource → Session Bool} (finds : K found)
    (removes : ∀ resource, K (remove resource)) : K (m.removing found remove) := by
  have tries : K (ifExists found) := by
    refine upholds.rescue (upholds.map finds some) fun failure => ?_
    split
    · exact upholds.pure _
    · exact upholds.fail _
  refine upholds.bind tries fun resource => ?_
  cases resource with
  | none => exact upholds.pure _
  | some resource => exact upholds.bind (upholds.notify _ _ _) fun _ => removes resource

theorem delete (key : Value) : K (m.delete key) :=
  upholds.operation
    (upholds.removing (upholds.reads.visibleResource upholds.steps key) upholds.destroyRow)

theorem hardDelete (key : Value) : K (m.hardDelete key) :=
  upholds.operation (upholds.removing (upholds.resource key _) upholds.removeRow)

theorem restore (key : Value) : K (m.restore key) := by
  refine upholds.operation (upholds.bind (upholds.toWrites.update _ _ _) fun restored => ?_)
  split
  · exact upholds.fail _
  · refine upholds.bind (upholds.resource key _) fun resource => ?_
    refine upholds.bind (upholds.notify _ _ _) fun _ => ?_
    exact upholds.bind (upholds.toAnnounces.emit _ _) fun _ => upholds.pure _

theorem removeEach {remove : Value → Session Bool} (removes : ∀ key, K (remove key))
    (keys : List Value) : K (removeEach remove keys) := by
  induction keys with
  | nil => exact upholds.pure 0
  | cons key rest ih =>
    exact upholds.bind (removes key) fun removed => upholds.bind ih fun others => upholds.pure _

theorem purgeTrashed (before : Value) : K (m.purgeTrashed before) := by
  refine upholds.operation (upholds.bind (upholds.reads.keysBefore m _ _) fun keys => ?_)
  refine upholds.bind (upholds.removeEach upholds.hardDelete keys) fun purged => ?_
  exact upholds.bind (upholds.info _) fun _ => upholds.pure _

theorem prune (before : Value) : K (m.prune before) := by
  refine upholds.operation (upholds.bind (upholds.reads.keysBefore m _ _) fun keys => ?_)
  refine upholds.bind (upholds.removeEach upholds.delete keys) fun pruned => ?_
  exact upholds.bind (upholds.info _) fun _ => upholds.pure _

theorem purgeTrashedQuietly (before : Value) : K (m.purgeTrashedQuietly before) :=
  upholds.bind (upholds.removeBefore m _ _) fun _ =>
    upholds.bind (upholds.info _) fun _ => upholds.pure _

theorem pruneQuietly (before : Value) : K (m.pruneQuietly before) :=
  upholds.bind (upholds.removeBefore m _ _) fun _ =>
    upholds.bind (upholds.info _) fun _ => upholds.pure _

/-! ### Calls -/

/-- Every call of a model has a property that its operations uphold; an upsert has it if to let the
operation under way be one has it. -/
theorem call (questions : List CollectionCall) {c : Call}
    (marks : c.upserts = true → K Model.marking) : K (m.call questions c) := by
  cases c with
  | create fields => exact upholds.map (upholds.create fields) _
  | read key fields =>
    exact upholds.map (upholds.operation (upholds.reads.readRow upholds.steps key fields)) _
  | find key =>
    exact upholds.map (upholds.operation (upholds.reads.visibleResource upholds.steps key)) _
  | list query all =>
    have listed := upholds.operation (upholds.reads.listing upholds.steps query all)
    exact upholds.bind listed fun collection => upholds.answered collection questions
  | exists_ key => exact upholds.map (upholds.operation (upholds.reads.hasKey m key)) _
  | count => exact upholds.map (upholds.operation (upholds.reads.countVisible m)) _
  | update key fields => exact upholds.map (upholds.update key fields) _
  | upsert fields => exact upholds.map (upholds.upsert (marks rfl) fields) _
  | replicate key overrides => exact upholds.map (upholds.replicate key overrides) _
  | delete key => exact upholds.map (upholds.delete key) _
  | withTrashed => exact upholds.map (upholds.seeing m (upholds.trashing _)) _
  | onlyTrashed => exact upholds.map (upholds.seeing m (upholds.trashing _)) _
  | restore key => exact upholds.requires (upholds.map (upholds.restore key) _)
  | hardDelete key => exact upholds.requires (upholds.map (upholds.hardDelete key) _)
  | purgeTrashed before => exact upholds.requires (upholds.map (upholds.purgeTrashed before) _)
  | purgeTrashedQuietly before =>
    exact upholds.requires (upholds.map (upholds.purgeTrashedQuietly before) _)
  | prune before => exact upholds.requires (upholds.map (upholds.prune before) _)
  | pruneQuietly before => exact upholds.requires (upholds.map (upholds.pruneQuietly before) _)
  | defineJson data =>
    exact upholds.withJsonColumn fun column => upholds.map (upholds.definedJson column data) _
  | updateJson key data =>
    exact upholds.withJsonColumn fun column =>
      upholds.map (upholds.reads.updatedJson m column key data) _
  | describe => exact upholds.pure _

end Model.Upholds

/-!
## What work keeps

Whatever a model does leaves the connection where its statements have brought it.  Whether it keeps the
state of the model of some kind depends on the hooks: what they ask of other resources does not touch
that state, and of what they ask of the model itself only an upsert changes it for more than the next
operation's view.
-/

/-- A run that left the connection where its statements brought it, and a state of the kind it
found. -/
structure Ran.Keeps {α : Type} (I : ModelState → Prop) (s : SessionState) (ran : Ran α) : Prop where
  dialect : ran.state.database.dialect = s.database.dialect
  pending : ran.state.database.pending =
    s.database.pending.map (List.drop (statements ran.entries).length)
  model : I s.model → I ran.state.model

/-- Work every run of which keeps a kind of state. -/
def Session.Keeps {α : Type} (I : ModelState → Prop) (work : Session α) : Prop :=
  ∀ s, (work s).Keeps I s

/-- A kind of state that does not depend on what operations change by themselves. -/
structure ModelState.Kind (I : ModelState → Prop) : Prop where
  trashed : ∀ state mode, I state → I { state with trashed := mode }
  idle : I .idle

/-- No upsert is under way. -/
def ModelState.Plain (state : ModelState) : Prop := state.upserting = false

theorem ModelState.any_kind : Kind fun _ => True :=
  ⟨fun _ _ _ => trivial, trivial⟩

theorem ModelState.plain_kind : Kind Plain := ⟨fun _ _ plain => plain, rfl⟩

namespace Session

variable {I : ModelState → Prop} {α β : Type}

/-- A step that sends nothing. -/
theorem keeps_silent {work : Session α} (nothing : ∀ s, statements (work s).entries = [])
    (dialect : ∀ s, (work s).state.database.dialect = s.database.dialect)
    (pending : ∀ s, (work s).state.database.pending = s.database.pending)
    (model : ∀ s, I s.model → I (work s).state.model) : Keeps I work := by
  intro s
  refine ⟨dialect s, ?_, model s⟩
  rw [nothing s, pending s]
  cases s.database.pending <;> rfl

theorem Keeps.bind {first : Session α} {next : α → Session β} (head : Keeps I first)
    (tail : ∀ a, Keeps I (next a)) : Keeps I (first >>= next) := by
  intro s
  have before := head s
  simp only [Bind.bind, andThen]
  cases (first s).outcome with
  | error failure => exact ⟨before.dialect, before.pending, before.model⟩
  | ok a =>
    have after := tail a (first s).state
    refine ⟨after.dialect.trans before.dialect, ?_, fun held => after.model (before.model held)⟩
    simp only [after.pending, before.pending, Option.map_map, statements_append, List.length_append]
    refine congrArg (fun f => Option.map f s.database.pending) (funext fun script => ?_)
    exact List.drop_drop

theorem keeps_execute (f : Fragment) : Keeps I (execute f) := by
  intro s
  rcases connected : s.database.pending with - | script
  · rw [execute_disconnected connected]
    refine ⟨rfl, ?_, fun held => held⟩
    rw [connected]
    rfl
  · rw [execute_connected connected]
    refine ⟨rfl, ?_, fun held => held⟩
    rw [connected]
    exact congrArg some (List.drop_one (l := script)).symm

theorem keeps_writes : Writes (Keeps I) where
  of _ := keeps_silent (fun _ => rfl) (fun _ => rfl) (fun _ => rfl) fun _ held => held
  bind := Keeps.bind
  outcomeOf held := fun s => ⟨(held s).dialect, (held s).pending, (held s).model⟩
  record entry remark := by
    refine keeps_silent (fun s => ?_) (fun _ => rfl) (fun _ => rfl) fun _ held => held
    have none := remark.unsent
    simp only [record, statements, List.filterMap_cons, none, List.filterMap_nil]
  looked := keeps_silent (fun _ => rfl) (fun _ => rfl) (fun _ => rfl) fun _ held => held
  keepLastId _ := keeps_silent (fun _ => rfl) (fun _ => rfl) (fun _ => rfl) fun _ held => held
  execute := keeps_execute

theorem keeps_announces : Announces (Keeps I) where
  toClosed := keeps_writes.toClosed
  emission _ _ := keeps_silent (fun _ => rfl) (fun _ => rfl) (fun _ => rfl) fun _ held => held
  heard _ _ := keeps_silent (fun _ => rfl) (fun _ => rfl) (fun _ => rfl) fun _ held => held
  setBus _ := keeps_silent (fun _ => rfl) (fun _ => rfl) (fun _ => rfl) fun _ held => held

theorem Keeps.tracked (kind : ModelState.Kind I) {m : Model} {work : Session α}
    (begins : Keeps I (m.notify .begin [] none)) (completes : Keeps I (m.notify .complete [] none))
    (held : Keeps I work) : Keeps I (m.tracked work) := by
  have whole : Keeps I (do
      m.notify .begin [] none
      let result ← work
      m.notify .complete [] none
      pure result) :=
    begins.bind fun _ => held.bind fun result => completes.bind fun _ =>
      keeps_writes.pure result
  intro s
  cases begun : s.model.begun with
  | true =>
    simp only [Model.tracked, outermost, begun, if_true]
    exact held s
  | false =>
    simp only [Model.tracked, outermost, begun, Bool.false_eq_true, if_false]
    have inside := whole { s with model := { s.model with begun := true } }
    exact ⟨inside.dialect, inside.pending, fun _ => kind.idle⟩

theorem keeps_upholds (kind : ModelState.Kind I) {m : Model}
    (steps : ∀ point, ∀ step ∈ m.asked point, Keeps I (m.perform step)) : m.Upholds (Keeps I) :=
  { keeps_writes, keeps_announces with
    trashing := fun mode => keeps_silent (fun _ => rfl) (fun _ => rfl) (fun _ => rfl)
      fun _ held => kind.trashed _ mode held
    steps
    tracked := Keeps.tracked kind }

theorem keeps_marking : Keeps (fun _ => True) Model.marking :=
  keeps_silent (fun _ => rfl) (fun _ => rfl) (fun _ => rfl) fun _ _ => trivial

/-- Work in a model state of its own keeps the present one. -/
theorem Keeps.withModel {J : ModelState → Prop} {work : Session α} (own : ModelState)
    (held : Keeps J work) : Keeps I (withModel own work) :=
  fun s => ⟨(held { s with model := own }).dialect, (held { s with model := own }).pending,
    fun kept => kept⟩

/-- Work that keeps an upsert from being under way leaves an open connection open. -/
theorem Keeps.tells {d : Dialect} {work : Session α} (keeps : Keeps ModelState.Plain work) :
    Tells d work fun _ _ => True := by
  intro s script opened
  have kept := keeps s
  refine ⟨⟨kept.dialect.trans opened.dialect, ?_, kept.model opened.upserting⟩, trivial⟩
  rw [kept.pending, opened.pending]
  rfl

end Session

/-! ### Steps of hooks -/

namespace Engine

theorem model_ok {engine : Engine} {name : String} {perform : Model → Step → Session Answer}
    {m : Model} (ok : engine.model name perform = .ok m) : ∃ bare, m.perform = perform bare := by
  unfold Engine.model at ok
  cases schema : engine.registry.schema name with
  | error failure =>
    rw [schema] at ok
    cases ok
  | ok schema =>
    cases kind : engine.registry.modelKind name with
    | error failure =>
      simp only [*] at ok
      cases ok
    | ok kind =>
      simp only [*] at ok
      cases ok
      exact ⟨_, rfl⟩

/-- A call of another resource's model leaves the connection where its statements bring it, if the
steps of that model's hooks do. -/
theorem keeps_elsewhere {engine : Engine} {perform : Model → Step → Session Answer}
    (performs : ∀ m step, Keeps (fun _ => True) (perform m step)) (name : String) (step : Step) :
    Keeps (fun _ => True) (do
      let other ← Session.of (engine.model name perform)
      other.call step.questions step.call) := by
  have kind := ModelState.any_kind
  refine keeps_writes.of_bind fun other made => ?_
  obtain ⟨bare, same⟩ := model_ok made
  refine (keeps_upholds kind fun _ step _ => ?_).call _ fun _ => keeps_marking
  rw [same]
  exact performs bare step

/-- Every step that a hook asks for leaves the connection where its statements bring it. -/
theorem keeps_connection (engine : Engine) (depth : Nat) (m : Model) (step : Step) :
    Keeps (fun _ => True) (engine.performWithin depth m step) := by
  have kind := ModelState.any_kind
  -- a step asks for an operation, whose hooks ask for steps one level deeper
  induction depth generalizing m step with
  | zero => exact keeps_writes.fail _
  | succ depth ih =>
    unfold performWithin
    split
    · exact (keeps_upholds kind fun _ step _ => ih m step).call _ fun _ => keeps_marking
    · rename_i name _
      exact Keeps.withModel _ (keeps_elsewhere ih name step)

end Engine

/-- The hooks of a model never ask the model itself for an upsert. -/
def Model.NeverUpserts (m : Model) : Prop :=
  ∀ point, ∀ step ∈ m.asked point, step.resource = none → step.call.upserts = false

/-- If the hooks of a model never ask it for an upsert, their steps do not leave one under way. -/
theorem Model.NeverUpserts.keeps_plain {m : Model} (never : m.NeverUpserts) (engine : Engine)
    (depth : Nat) {step : Step} (other : step.resource = none → step.call.upserts = false) :
    Keeps ModelState.Plain (engine.performWithin depth m step) := by
  -- what a hook asks the model itself may run hooks again, which never ask for an upsert either
  induction depth generalizing step with
  | zero => exact keeps_writes.fail _
  | succ depth ih =>
    unfold Engine.performWithin
    split
    · rename_i own
      have upholds : ({ m with perform := engine.performWithin depth m } : Model).Upholds
          (Keeps ModelState.Plain) :=
        keeps_upholds ModelState.plain_kind fun point step asked => ih (never point step asked)
      refine upholds.call _ fun upserts => ?_
      rw [other own] at upserts
      cases upserts
    · rename_i name _
      exact Keeps.withModel _ (Engine.keeps_elsewhere (engine.keeps_connection depth) name step)

end Curator
