import Curator.Proofs.Hook.Replaced
import Curator.Proofs.Mapping
import Curator.Proofs.Model.Pages
import Curator.Proofs.Model.Parts
import Curator.Service
/-!
# Hooks behind a change

The hooks behind a change of a row get a record of their own, and what they make of it is dropped.  So
a service whose hooks at these points are replaced by others does the same as before: its statements,
its resources, what listeners hear, and what the hooks of all other points get do not depend on them.
-/

set_option autoImplicit false

namespace Curator

open Session

/-- The points behind a change of a row. -/
def HookPoint.behindChange : List HookPoint :=
  [.afterCreate, .afterUpdate, .afterWrite, .afterDelete, .afterTrash, .afterRestore]

/-- An engine with another table of hooks. -/
def Engine.rehooked (engine : Engine) (table : HookTable) : Engine :=
  { engine with hooks := table }

/-- A model with another table of hooks and another way to perform their steps. -/
def Model.rehooked (m : Model) (table : HookTable) (perform : Step → Session Answer) : Model :=
  { m with engine := m.engine.rehooked table, perform }

/-- Hooks of a model behind changes are replaced, and the steps its hooks ask for are performed by work
that echoes what performed them. -/
structure Model.Rehooks (r : Replacement) (m : Model) (table : HookTable)
    (perform : Step → Session Answer) : Prop where
  behind : r.points ⊆ HookPoint.behindChange
  replaces : HookTable.Replaces r m.schema m.engine.hooks table
  steps : ∀ step, Echoes r (m.perform step) (perform step)

namespace Model

variable {r : Replacement} {m : Model} {table : HookTable} {perform : Step → Session Answer}

theorem notify_eq (m : Model) (point : HookPoint) (record : Record) (previous : Option Record) :
    m.notify point record previous =
      Hook.runAll m.perform m.engine.hooks (.at m.schema.name point.name record previous)
        (m.schema.hookNames point.name) record [] >>= Hook.ended := by
  unfold notify atPoint
  split
  · rename_i none
    rw [none]
    rfl
  · rw [bind_assoc]
    refine bind_congr fun ran => ?_
    unfold Hook.ended
    cases ran.updates with
    | error failure => rfl
    | ok updates => rfl

/-! ## What hooks have no part in -/

theorem narrowedTo_rehooked (values : Record) (names : List String) (selection : Sql.Select) :
    (m.rehooked table perform).narrowedTo values names selection =
      m.narrowedTo values names selection := by
  induction names generalizing selection with
  | nil => rfl
  | cons name rest ih => exact bind_congr ih

theorem checkRelated_rehooked (kind : WriteKind) (fields : Record) (related : List (String × String)) :
    (m.rehooked table perform).checkRelated kind fields related =
      m.checkRelated kind fields related := by
  induction related with
  | nil => rfl
  | cons entry rest ih =>
    unfold checkRelated
    simp only [ih]
    rfl

theorem checkUnique_rehooked (kind : WriteKind) (fields stored : Record) (excluded : Value)
    (constraints : List UniqueKey) :
    (m.rehooked table perform).checkUnique kind fields stored excluded constraints =
      m.checkUnique kind fields stored excluded constraints := by
  induction constraints with
  | nil => rfl
  | cons constraint rest ih =>
    unfold checkUnique
    simp only [ih, narrowedTo_rehooked]
    rfl

theorem checkedNew_rehooked (fields : Record) :
    (m.rehooked table perform).checkedNew fields = m.checkedNew fields := by
  unfold checkedNew
  simp only [checkRelated_rehooked, checkUnique_rehooked]
  rfl

theorem writtenKey_rehooked (values : Record) :
    (m.rehooked table perform).writtenKey values = m.writtenKey values := by
  unfold writtenKey conflictKey?
  simp only [narrowedTo_rehooked]
  rfl

theorem echoes_removeEach {remove removed : Value → Session Bool}
    (removes : ∀ key, Echoes r (remove key) (removed key)) (keys : List Value) :
    Echoes r (removeEach remove keys) (removeEach removed keys) := by
  induction keys with
  | nil => exact echoes_refl _
  | cons key rest ih => exact (removes key).bind fun removed => ih.bind fun others => echoes_refl _

theorem echoes_requires {α : Type} {capable : Bool} {name : String} {work again : Session α}
    (echoes : Echoes r work again) :
    Echoes r (requires capable name work) (requires capable name again) := by
  unfold requires
  split
  · exact echoes
  · exact echoes_refl _

namespace Rehooks

variable (rehooks : m.Rehooks r table perform)

include rehooks

theorem atPoint {point : HookPoint} (kept : point ∉ HookPoint.behindChange) (record : Record)
    (previous : Option Record) :
    Echoes r (m.atPoint point record previous)
      ((m.rehooked table perform).atPoint point record previous) := by
  have same := rehooks.replaces.kept point fun member => kept (rehooks.behind member)
  have schema : (m.rehooked table perform).schema = m.schema := rfl
  unfold Model.atPoint
  rw [schema]
  cases names : m.schema.hookNames point.name with
  | nil => exact echoes_refl _
  | cons first rest =>
    rw [names] at same
    exact (Hook.echoes_runAll rehooks.steps same record []).bind fun ran => echoes_refl _

theorem notify (point : HookPoint) (record : Record) (previous : Option Record) :
    Echoes r (m.notify point record previous)
      ((m.rehooked table perform).notify point record previous) := by
  rw [notify_eq, notify_eq]
  by_cases member : point ∈ r.points
  · intro last s
    exact Hook.echoes_mild (List.mem_map_of_mem member) (rehooks.replaces.varies point member)
      (rehooks.replaces.mild point member) (Or.inr rfl) [] [] s
  · have same := rehooks.replaces.kept point member
    exact (Hook.echoes_runAll rehooks.steps same record []).bind fun ran => echoes_refl _

theorem tracked {α : Type} {work again : Session α} (echoes : Echoes r work again) :
    Echoes r (m.tracked work) ((m.rehooked table perform).tracked again) :=
  (rehooks.notify _ _ _).outermost (rehooks.notify _ _ _) echoes

/-! ## Reading -/

theorem shown (plan : Plan) (row : Record) :
    Echoes r (m.shown plan row) ((m.rehooked table perform).shown plan row) :=
  echoes_after fun record => rehooks.atPoint (by decide) record none

theorem fetchRow (key : Value) (fields : List String) (mode : TrashedMode) :
    Echoes r (m.fetchRow key fields mode)
      ((m.rehooked table perform).fetchRow key fields mode) := by
  refine echoes_after fun plan => echoes_after fun rows => ?_
  cases rows with
  | nil => exact echoes_refl _
  | cons row rest => exact rehooks.shown plan row

theorem resource (key : Value) (mode : TrashedMode) :
    Echoes r (m.resource key mode) ((m.rehooked table perform).resource key mode) :=
  (rehooks.fetchRow key [] mode).bind fun _ => echoes_refl _

theorem visibleResource (key : Value) :
    Echoes r (m.visibleResource key) ((m.rehooked table perform).visibleResource key) :=
  echoes_after fun mode => rehooks.resource key mode

theorem readRow (key : Value) (fields : List String) :
    Echoes r (m.readRow key fields) ((m.rehooked table perform).readRow key fields) :=
  echoes_after fun mode => rehooks.fetchRow key fields mode

theorem listing (query : Value) (all : Bool) :
    Echoes r (m.listing query all) ((m.rehooked table perform).listing query all) := by
  refine echoes_after fun spec => echoes_after fun mode => echoes_after fun plan => ?_
  refine echoes_after fun rows => ?_
  exact (Echoes.mapM (rehooks.shown plan) rows).bind fun shown => echoes_refl _

/-! ## Writing -/

theorem readiedNew (values : Record) :
    Echoes r (m.readiedNew values) ((m.rehooked table perform).readiedNew values) := by
  refine (rehooks.atPoint (by decide) values none).bind fun values => ?_
  exact echoes_after fun values => rehooks.atPoint (by decide) values none

theorem concludedNew (values : Record) :
    Echoes r (m.concludedNew values) ((m.rehooked table perform).concludedNew values) := by
  unfold Model.concludedNew
  rw [writtenKey_rehooked]
  refine echoes_after fun key => (rehooks.resource key _).bind fun resource => ?_
  refine (rehooks.notify .afterCreate resource.data none).bind fun _ => ?_
  refine (rehooks.notify .afterWrite resource.data none).bind fun _ => ?_
  exact echoes_refl _

theorem createRow (fields : Record) :
    Echoes r (m.createRow fields) ((m.rehooked table perform).createRow fields) := by
  rw [createRow_eq, createRow_eq, checkedNew_rehooked]
  refine echoes_after fun values => (rehooks.readiedNew values).bind fun row => ?_
  exact echoes_after fun _ => echoes_after fun _ => rehooks.concludedNew row

theorem checkedChange (key : Value) (fields : Record) :
    Echoes r (m.checkedChange key fields)
      ((m.rehooked table perform).checkedChange key fields) := by
  unfold Model.checkedChange
  simp only [checkRelated_rehooked, checkUnique_rehooked]
  exact (rehooks.visibleResource key).bind fun existing => echoes_refl _

theorem readiedChange (existing : Resource) (values : Record) :
    Echoes r (m.readiedChange existing values)
      ((m.rehooked table perform).readiedChange existing values) := by
  refine (rehooks.atPoint (by decide) values none).bind fun values => ?_
  exact echoes_after fun values => rehooks.atPoint (by decide) values _

theorem concludedChange (key : Value) (existing : Resource) (values : Record) :
    Echoes r (m.concludedChange key existing values)
      ((m.rehooked table perform).concludedChange key existing values) := by
  refine (rehooks.resource _ _).bind fun resource => ?_
  refine (rehooks.notify .afterUpdate resource.data (some existing.data)).bind fun _ => ?_
  refine (rehooks.notify .afterWrite resource.data none).bind fun _ => ?_
  exact echoes_refl _

theorem updateRow (key : Value) (fields : Record) :
    Echoes r (m.updateRow key fields) ((m.rehooked table perform).updateRow key fields) := by
  rw [updateRow_eq, updateRow_eq]
  refine (rehooks.checkedChange key fields).bind fun found => ?_
  refine (rehooks.readiedChange found.1 found.2).bind fun row => ?_
  exact echoes_after fun _ => rehooks.concludedChange key found.1 row

theorem create (fields : Record) :
    Echoes r (m.create fields) ((m.rehooked table perform).create fields) :=
  rehooks.tracked (rehooks.createRow fields)

theorem update (key : Value) (fields : Record) :
    Echoes r (m.update key fields) ((m.rehooked table perform).update key fields) :=
  rehooks.tracked (rehooks.updateRow key fields)

theorem upsert (fields : Record) :
    Echoes r (m.upsert fields) ((m.rehooked table perform).upsert fields) :=
  rehooks.tracked (echoes_after fun _ => echoes_after fun _ => (rehooks.create fields).rescue _)

theorem replicate (key : Value) (overrides : Record) :
    Echoes r (m.replicate key overrides)
      ((m.rehooked table perform).replicate key overrides) := by
  refine rehooks.tracked (echoes_after fun _ => ?_)
  exact (rehooks.tracked (rehooks.readRow key [])).bind fun existing => rehooks.create _

/-! ## Removing -/

theorem removeRow (resource : Resource) :
    Echoes r (m.removeRow resource) ((m.rehooked table perform).removeRow resource) := by
  refine echoes_after fun deleted => ?_
  split
  · exact echoes_refl _
  · refine echoes_after fun _ => (rehooks.notify .afterDelete resource.data none).bind fun _ => ?_
    exact echoes_refl _

theorem trashRow (resource : Resource) :
    Echoes r (m.trashRow resource) ((m.rehooked table perform).trashRow resource) := by
  refine echoes_after fun now => echoes_after fun trashed => ?_
  split
  · exact echoes_refl _
  · refine echoes_after fun _ => (rehooks.notify .afterTrash resource.data none).bind fun _ => ?_
    exact echoes_refl _

theorem destroyRow (resource : Resource) :
    Echoes r (m.destroyRow resource) ((m.rehooked table perform).destroyRow resource) := by
  unfold Model.destroyRow
  cases softly : m.kind.capabilities.softDeletes with
  | false =>
    simp only [softly, Model.rehooked]
    exact rehooks.removeRow resource
  | true =>
    simp only [softly, Model.rehooked]
    exact rehooks.trashRow resource

theorem removing {found again : Session Resource} {remove removed : Resource → Session Bool}
    (finds : Echoes r found again)
    (removes : ∀ resource, Echoes r (remove resource) (removed resource)) :
    Echoes r (m.removing found remove) ((m.rehooked table perform).removing again removed) := by
  have tries : Echoes r (ifExists found) (ifExists again) := (finds.map some).rescue _
  refine tries.bind fun resource => ?_
  cases resource with
  | none => exact echoes_refl _
  | some resource =>
    exact (rehooks.notify .beforeDelete resource.data none).bind fun _ => removes resource

theorem delete (key : Value) :
    Echoes r (m.delete key) ((m.rehooked table perform).delete key) :=
  rehooks.tracked (rehooks.removing (rehooks.visibleResource key) rehooks.destroyRow)

theorem hardDelete (key : Value) :
    Echoes r (m.hardDelete key) ((m.rehooked table perform).hardDelete key) :=
  rehooks.tracked (rehooks.removing (rehooks.resource key _) rehooks.removeRow)

theorem restore (key : Value) :
    Echoes r (m.restore key) ((m.rehooked table perform).restore key) := by
  refine rehooks.tracked (echoes_after fun restored => ?_)
  split
  · exact echoes_refl _
  · refine (rehooks.resource key _).bind fun resource => ?_
    exact (rehooks.notify .afterRestore resource.data none).bind fun _ => echoes_refl _

theorem purgeTrashed (before : Value) :
    Echoes r (m.purgeTrashed before) ((m.rehooked table perform).purgeTrashed before) := by
  refine rehooks.tracked (echoes_after fun keys => ?_)
  exact (echoes_removeEach rehooks.hardDelete keys).bind fun purged => echoes_refl _

theorem prune (before : Value) :
    Echoes r (m.prune before) ((m.rehooked table perform).prune before) := by
  refine rehooks.tracked (echoes_after fun keys => ?_)
  exact (echoes_removeEach rehooks.delete keys).bind fun pruned => echoes_refl _

/-! ## Calls -/

theorem call (questions : List CollectionCall) (c : Call) :
    Echoes r (m.call questions c) ((m.rehooked table perform).call questions c) := by
  cases c with
  | create fields => exact (rehooks.create fields).map _
  | read key fields => exact (rehooks.tracked (rehooks.readRow key fields)).map _
  | find key => exact (rehooks.tracked (rehooks.visibleResource key)).map _
  | list query all =>
    exact (rehooks.tracked (rehooks.listing query all)).bind fun collection => echoes_refl _
  | exists_ key => exact (rehooks.tracked (echoes_refl (m.hasKey key))).map _
  | count => exact (rehooks.tracked (echoes_refl m.countVisible)).map _
  | update key fields => exact (rehooks.update key fields).map _
  | upsert fields => exact (rehooks.upsert fields).map _
  | replicate key overrides => exact (rehooks.replicate key overrides).map _
  | delete key => exact (rehooks.delete key).map _
  | restore key => exact echoes_requires ((rehooks.restore key).map _)
  | hardDelete key => exact echoes_requires ((rehooks.hardDelete key).map _)
  | purgeTrashed before => exact echoes_requires ((rehooks.purgeTrashed before).map _)
  | prune before => exact echoes_requires ((rehooks.prune before).map _)
  -- the other calls run no hooks
  | _ => exact echoes_refl _

end Rehooks

end Model

/-! ## Services -/

namespace Engine

variable {r : Replacement} {engine : Engine} {table : HookTable} {name : String}

/-- For every resource of an engine, another table takes the place of its hooks. -/
def Rehooks (r : Replacement) (engine : Engine) (table : HookTable) : Prop :=
  ∀ name schema, engine.registry.schema name = .ok schema →
    HookTable.Replaces r schema engine.hooks table

/-- With either table a resource has a model, of which calls of the second echo those of the first, or
has none for the same reason. -/
theorem models_echo (behind : r.points ⊆ HookPoint.behindChange) (replaces : engine.Rehooks r table)
    {perform performing : Model → Step → Session Answer}
    (steps : ∀ {m : Model}, HookTable.Replaces r m.schema m.engine.hooks table → ∀ bare step,
      Echoes r (perform m step) (performing (m.rehooked table bare) step)) (name : String) :
    (∃ failure, engine.model name perform = .error failure ∧
      (engine.rehooked table).model name performing = .error failure) ∨
    ∃ m other, engine.model name perform = .ok m ∧
      (engine.rehooked table).model name performing = .ok other ∧
      ∀ questions c, Echoes r (m.call questions c) (other.call questions c) := by
  have registry : (engine.rehooked table).registry = engine.registry := rfl
  unfold Engine.model
  rw [registry]
  cases registered : engine.registry.schema name with
  | error failure => exact Or.inl ⟨failure, rfl, rfl⟩
  | ok schema =>
    cases engine.registry.modelKind name with
    | error failure => exact Or.inl ⟨failure, rfl, rfl⟩
    | ok kind =>
      have hooks := replaces name schema registered
      let bare : Model := ⟨engine, schema, kind, fun _ => fail endless⟩
      let m : Model := { bare with perform := perform bare }
      have rehooks : m.Rehooks r table (performing (bare.rehooked table bare.perform)) :=
        ⟨behind, hooks, fun step => steps (m := bare) hooks bare.perform step⟩
      exact Or.inr ⟨m, _, rfl, rfl, rehooks.call⟩

theorem echoes_performWithin (behind : r.points ⊆ HookPoint.behindChange)
    (replaces : engine.Rehooks r table) (depth : Nat) {m : Model}
    (own : HookTable.Replaces r m.schema m.engine.hooks table) (bare : Step → Session Answer)
    (step : Step) : Echoes r (engine.performWithin depth m step)
      ((engine.rehooked table).performWithin depth (m.rehooked table bare) step) := by
  -- a step asks for an operation, whose hooks ask for steps one level deeper
  induction depth generalizing m bare step with
  | zero => exact echoes_refl _
  | succ depth ih =>
    unfold Engine.performWithin
    split
    · let inner : Model := { m with perform := engine.performWithin depth m }
      have rehooks : inner.Rehooks r table
          ((engine.rehooked table).performWithin depth (m.rehooked table bare)) :=
        ⟨behind, own, ih own bare⟩
      exact rehooks.call step.questions step.call
    · rename_i name _
      refine Echoes.withModel ?_ .idle
      obtain ⟨failure, found, again⟩ | ⟨other, otherToo, found, again, echoes⟩ :=
        models_echo behind replaces ih name
      · rw [found, again]
        exact fun _ _ => ⟨rfl, rfl, rfl⟩
      · rw [found, again]
        exact echoes step.questions step.call

end Engine

/-- A service with another table of hooks. -/
def Service.rehooked (service : Service) (table : HookTable) : Service :=
  { service with engine := service.engine.rehooked table }

/-- Hooks behind changes cannot alter what a service does.  Where some of them are replaced by others,
all of them mild but free in what they do to their records, every call has the same outcome and leaves
the same database, bus and models.  Its journal is the same in all that no hook does, the statements
with their parameters and what listeners hear, and the same hooks run, each on the same record, but for
those that run behind a replaced one of the same point. -/
theorem Service.replaced_hooks_alter_nothing {service : Service} {table : HookTable}
    {r : Replacement} (behind : r.points ⊆ HookPoint.behindChange)
    (replaces : service.engine.Rehooks r table) (name : String) (fresh : Bool) (call : Call)
    (questions : List CollectionCall) :
    let ran := service.perform name fresh call questions
    let again := (service.rehooked table).perform name fresh call questions
    again.1 = ran.1.rehooked table ∧ again.2.1 = ran.2.1 ∧
      again.2.2.filter (!·.isHookRun) = ran.2.2.filter (!·.isHookRun) ∧
      blanked r none again.2.2 = blanked r none ran.2.2 := by
  intro ran again
  have steps := fun {m : Model} => @Engine.echoes_performWithin r service.engine table behind replaces
    Session.greatestDepth m
  obtain ⟨failure, found, foundToo⟩ | ⟨m, other, found, foundToo, echoes⟩ :=
    Engine.models_echo behind replaces steps name
  all_goals
    have modelOf : service.engine.modelOf name = _ := found
    have modelOfToo : (service.rehooked table).engine.modelOf name = _ := foundToo
    simp only [ran, again, Service.perform, modelOf, modelOfToo]
  · exact ⟨trivial, trivial, trivial, trivial⟩
  · have echoed := echoes questions call none
      ⟨service.database, service.bus, service.modelState name fresh⟩
    let leaves := fun (left : SessionState) =>
      ({ service.rehooked table with
        database := left.database
        bus := left.bus
        models := service.models.put name left.model } : Service)
    exact ⟨congrArg leaves echoed.state, echoed.outcome, echoed.others, echoed.journal⟩

namespace Sample

/-- Pages on which two hooks run behind an insert, one of them behind every write. -/
def stampedSchema : Schema :=
  { pageSchema with
    hooks := [("afterCreate", [.str "stamp", .str "note"]), ("afterWrite", [.str "note"])] }

/-- A hook that returns updates and a hook that returns nothing. -/
def stampHooks (updates : Record) : HookTable :=
  [("stamp", ⟨"stamp", [], none, [], some ⟨updates, .null⟩⟩), ("note", ⟨"note", [], none, [], none⟩)]

/-- A service of pages whose database has no other page and gives a new one its key. -/
def stampedService (updates : Record) : Service :=
  ⟨⟨⟨.standard, [⟨stampedSchema, none⟩]⟩, stampHooks updates, default⟩,
    .opened .sqlite ":memory:" [countReply 0, writtenReply 7,
      rowsReply [[("id", .int 7), ("slug", .str "home"), ("parent_id", .null)]]], .empty, []⟩

/-- The first of these hooks is replaced. -/
def stampReplacement : Replacement := ⟨[.afterCreate], ["stamp"]⟩

theorem stamp_mild {updates : Record} {name : Value} {hook : Hook}
    (declared : (stampHooks updates).declared? name = .ok (some hook)) : hook.Mild := by
  cases name with
  | str name =>
    have listed := Mapping.mem_of_value? (Except.ok.inj declared)
    rcases List.mem_cons.mp listed with same | listed
    · cases same
      refine ⟨rfl, rfl, fun result returned => ?_⟩
      cases returned
      rfl
    · cases List.mem_singleton.mp listed
      exact ⟨rfl, rfl, fun _ returned => nomatch returned⟩
  | _ => cases declared

theorem stamps_replaced (updates others : Record) :
    (stampedService updates).engine.Rehooks stampReplacement (stampHooks others) := by
  intro name schema registered
  have this : schema = stampedSchema := by
    unfold Registry.schema at registered
    split at registered
    · rename_i registration found
      cases registered
      rw [List.mem_singleton.mp (List.mem_of_find?_eq_some found)]
    · cases registered
  subst this
  refine ⟨fun point outside name listed => ?_, fun point member name listed => ?_, ?_⟩
  · -- behind a write there is only the hook that is kept, and at other points there is none
    cases point with
    | afterCreate => exact absurd List.mem_cons_self outside
    | afterWrite =>
      cases List.mem_singleton.mp listed
      rfl
    | _ => cases listed
  · cases List.mem_singleton.mp member
    rcases List.mem_cons.mp listed with rfl | listed
    · exact Or.inr ⟨_, _, rfl, rfl, rfl, List.mem_cons_self⟩
    · cases List.mem_singleton.mp listed
      exact Or.inl rfl
  · rintro point - name - hook (declared | declared)
    · exact stamp_mild declared
    · exact stamp_mild declared

/-- What the stamp makes of a new page shows neither in the page nor in what the other hook gets behind
the write. -/
theorem stamped_page_same :
    let stamped := stampedService [("slug", .str "stamped")]
    let others := stampHooks [("slug", .null), ("stamp", .int 1)]
    let call := Call.create [("slug", .str "Home")]
    let ran := stamped.perform "page" false call []
    let again := (stamped.rehooked others).perform "page" false call []
    stampReplacement.points ⊆ HookPoint.behindChange ∧
      stamped.engine.Rehooks stampReplacement others ∧ ran.2.1.isOk = true ∧
      again.1 = ran.1.rehooked others ∧ again.2.1 = ran.2.1 ∧
      again.2.2.filter (!·.isHookRun) = ran.2.2.filter (!·.isHookRun) ∧
      blanked stampReplacement none again.2.2 = blanked stampReplacement none ran.2.2 := by
  intro stamped others call ran again
  have behind : stampReplacement.points ⊆ HookPoint.behindChange := by decide
  have replaced : stamped.engine.Rehooks stampReplacement others := stamps_replaced _ _
  refine ⟨behind, replaced, by decide +kernel, ?_⟩
  exact Service.replaced_hooks_alter_nothing behind replaced "page" false call []

end Sample

end Curator
