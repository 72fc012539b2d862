import Curator.Proofs.Database.Sent
/-!
# Properties that sequences hand on

Much of what is proved about work holds of its single steps and is handed on by sequences.  Such a
property is given by its clauses for the steps, and from these it follows once for all properties:
here for the work on the database and the event bus.
-/

set_option autoImplicit false

namespace Curator

open Sql

/-- An entry that neither is a statement nor comes of emitting an event. -/
structure Entry.Remark (entry : Entry) : Prop where
  unsent : entry.statement? = none
  unheard : ∀ label payload, entry ≠ .heard label payload
  other : ∀ event listeners, entry ≠ .logged .debug (Session.emitMessage event listeners)

namespace Session

/-- What can be seen of a state but for whether an operation is under way. -/
def looked : Session SessionState :=
  fun s => ⟨.ok (s.inside false), s, []⟩

/-- Lets the next operation see other rows. -/
def trashing (mode : TrashedMode) : Session Unit :=
  fun s => ⟨.ok (), { s with model := { s.model with trashed := mode } }, []⟩

/-- A property that sequences hand on and that the steps have which neither send nor tell anything. -/
structure Closed (K : ∀ {α : Type}, Session α → Prop) : Prop where
  of : ∀ {α : Type} (result : Except Failure α), K (Session.of result)
  bind : ∀ {α β : Type} {first : Session α} {next : α → Session β},
    K first → (∀ a, K (next a)) → K (first >>= next)
  outcomeOf : ∀ {α : Type} {work : Session α}, K work → K (Session.outcomeOf work)
  record : ∀ entry : Entry, entry.Remark → K (Session.record entry)
  looked : K Session.looked

/-- A closed property that telling listeners has. -/
structure Announces (K : ∀ {α : Type}, Session α → Prop) : Prop extends Closed K where
  emission : ∀ event listeners, K (log .debug (emitMessage event listeners))
  heard : ∀ label payload, K (Session.record (.heard label payload))
  setBus : ∀ bus, K (Session.setBus bus)

/-- A closed property that selections have. -/
structure Reads (K : ∀ {α : Type}, Session α → Prop) : Prop extends Closed K where
  select : ∀ f : Fragment, f.Selects → K (execute f)

/-- A closed property that all statements have. -/
structure Writes (K : ∀ {α : Type}, Session α → Prop) : Prop extends Closed K where
  execute : ∀ f : Fragment, K (execute f)
  keepLastId : ∀ key, K (Session.keepLastId key)

variable {K : ∀ {α : Type}, Session α → Prop} {α β : Type}

theorem emitMessage_opening (event : String) (listeners : Nat) :
    (emitMessage event listeners).toList.head? = some 'E' := by
  simp [emitMessage, String.toList_append, toString]

theorem Writes.reads (writes : Writes K) : Reads K :=
  ⟨writes.toClosed, fun f _ => writes.execute f⟩

/-! ## Sequences -/

section

variable (closed : Closed K)

include closed

theorem Closed.pure (a : α) : K (pure a : Session α) := closed.of (.ok a)

theorem Closed.fail (failure : Failure) : K (fail failure : Session α) := closed.of (.error failure)

theorem Closed.info (message : String) : K (log .info message) :=
  closed.record _ ⟨rfl, nofun, nofun⟩

theorem Closed.warning (message : String) : K (log .warning message) :=
  closed.record _ ⟨rfl, nofun, nofun⟩

/-- A message that begins with another letter than that of an emission. -/
theorem Closed.debug {message : String} (opening : message.toList.head? ≠ some 'E') :
    K (log .debug message) := by
  refine closed.record _ ⟨rfl, nofun, fun event listeners same => ?_⟩
  injection same with _ same
  rw [same] at opening
  exact opening (emitMessage_opening event listeners)

theorem Closed.map {work : Session α} (held : K work) (f : α → β) : K (f <$> work) := by
  rw [← bind_pure_comp]
  exact closed.bind held fun a => closed.pure (f a)

theorem Closed.rescue {work : Session α} {handle : Failure → Session α} (held : K work)
    (handles : ∀ failure, K (handle failure)) : K (rescue work handle) := by
  refine closed.bind (closed.outcomeOf held) fun outcome => ?_
  cases outcome with
  | error failure => exact handles failure
  | ok a => exact closed.pure a

/-- Work that is left out in some cases before what follows it. -/
theorem Closed.unless {c : Prop} [Decidable c] {work : Session Unit} {next : Unit → Session β}
    (held : K work) (follows : ∀ u, K (next u)) :
    K (if c then next () else work >>= next) := by
  split
  · exact follows ()
  · exact closed.bind held follows

theorem Closed.mapM {f : α → Session β} (each : ∀ a, K (f a)) (xs : List α) : K (xs.mapM f) := by
  induction xs with
  | nil => exact closed.pure []
  | cons x rest ih =>
    rw [List.mapM_cons]
    exact closed.bind (each x) fun y => closed.bind ih fun ys => closed.pure (y :: ys)

/-- Work that reads the state without asking whether an operation is under way. -/
theorem Closed.state_bind {next : SessionState → Session β} (tail : ∀ s, K (next s))
    (unseen : ∀ s, next (s.inside false) = next s) : K (state >>= next) := by
  have same : state >>= next = Session.looked >>= next := by
    funext s
    simp only [Bind.bind, andThen, state, Session.looked, unseen]
  rw [same]
  exact closed.bind closed.looked tail

theorem Closed.model_bind {next : ModelState → Session β} (tail : ∀ state, K (next state))
    (unseen : ∀ state : ModelState, next { state with begun := false } = next state) :
    K (Session.model >>= next) := by
  have same : Session.model >>= next = Session.looked >>= fun s => next s.model := by
    funext s
    simp only [Bind.bind, andThen, Session.model, Session.looked, SessionState.inside, unseen]
  rw [same]
  exact closed.bind closed.looked fun s => tail s.model

theorem Closed.dialect : K dialect :=
  closed.bind closed.looked fun s => closed.pure s.database.dialect

theorem Closed.lastId : K lastId :=
  closed.state_bind (fun s => closed.pure s.database.lastId) fun _ => rfl

end

/-! ## Events -/

section

variable (announces : Announces K)

include announces

theorem Announces.busAction {send : String → List Payload → Session Unit}
    (sends : ∀ event payload, K (send event payload)) (action : BusAction) :
    K (busAction send action) := by
  cases action with
  | fail category words => exact announces.fail _
  | subscribe event label priority actions =>
    exact announces.state_bind (fun _ => announces.bind (announces.setBus _) fun _ => announces.pure _)
      fun _ => rfl
  | unsubscribe event label =>
    exact announces.state_bind (fun _ => announces.bind (announces.setBus _) fun _ => announces.pure _)
      fun _ => rfl
  | hasListeners event => exact announces.state_bind (fun _ => announces.pure _) fun _ => rfl
  | emit event payload => exact announces.bind (sends event payload) fun _ => announces.pure _

theorem Announces.busActions {send : String → List Payload → Session Unit}
    (sends : ∀ event payload, K (send event payload)) (actions : List BusAction) :
    K (busActions send actions) := by
  induction actions with
  | nil => exact announces.pure ()
  | cons action rest ih => exact announces.bind (announces.busAction sends action) fun _ => ih

theorem Announces.deliver {send : String → List Payload → Session Unit}
    (sends : ∀ event payload, K (send event payload)) (payload : List Payload)
    (subscriptions : List Subscription) : K (deliver send payload subscriptions) := by
  induction subscriptions with
  | nil => exact announces.pure ()
  | cons subscription rest ih =>
    refine announces.bind (announces.heard _ _) fun _ => ?_
    exact announces.state_bind (fun _ => announces.bind (announces.busActions sends _) fun _ => ih)
      fun _ => rfl

theorem Announces.emit (event : String) (payload : List Payload) : K (emit event payload) := by
  have within : ∀ depth event payload, K (emitWithin depth event payload) := by
    intro depth
    -- events emitted by listeners go one level deeper
    induction depth with
    | zero => exact fun _ _ => announces.fail _
    | succ depth ih =>
      intro event payload
      refine announces.state_bind (fun s => ?_) fun _ => rfl
      exact announces.bind (announces.emission _ _) fun _ => announces.deliver ih payload _
  exact within _ event payload

end

/-! ## Statements -/

/-- Work on the result of a computation, which is judged where there is one. -/
theorem Closed.of_bind (closed : Closed K) {made : Except Failure α} {next : α → Session β}
    (goes : ∀ a, made = .ok a → K (next a)) : K (Session.of made >>= next) := by
  cases came : made with
  | error failure => exact closed.of (.error failure)
  | ok a => exact goes a came

section

variable (reads : Reads K)

include reads

theorem Reads.fetch (selection : Select) : K (fetch selection) :=
  reads.of_bind fun f made =>
    reads.bind (reads.select f (Select.selects_of_toSql made)) fun _ => reads.pure _

theorem Reads.total (selection : Select) : K (total selection) := by
  refine reads.of_bind fun f made => ?_
  obtain ⟨_, _, _, _, counts⟩ := Select.countSql_ok made
  have selected : K (Session.select f) :=
    reads.bind (reads.select f counts.selects) fun _ => reads.pure _
  have single : K (single f) :=
    reads.bind (reads.bind selected fun _ => reads.pure _) fun _ => reads.pure _
  exact reads.bind single fun _ => reads.of _

end

section

variable (writes : Writes K)

include writes

theorem Writes.write (f : Fragment) : K (write f) :=
  writes.bind (writes.execute f) fun _ => writes.pure _

theorem Writes.aggregate (selection : Select) (function : Value) (column : Option Column) :
    K (aggregate selection function column) := by
  refine writes.bind (writes.of _) fun f => ?_
  have selected : K (select f) := writes.bind (writes.execute f) fun _ => writes.pure _
  exact writes.bind (writes.bind selected fun _ => writes.pure _) fun _ => writes.pure _

theorem Writes.runInsert (f : Fragment) (returning : Option String) :
    K (runInsert f returning) := by
  refine writes.bind writes.dialect fun dialect => ?_
  split
  · exact writes.bind (writes.execute f) fun _ =>
      writes.bind (writes.keepLastId _) fun _ => writes.pure _
  · exact writes.bind (writes.execute f) fun _ =>
      writes.bind (writes.keepLastId _) fun _ => writes.pure _
  · refine writes.bind (writes.of _) fun name => writes.bind (writes.execute _) fun answer => ?_
    exact writes.bind (writes.of _) fun key =>
      writes.bind (writes.keepLastId key) fun _ => writes.pure _

theorem Writes.insert (table : String) (fields : Record) (onConflict : OnConflict)
    (returning : Option String) : K (insert table fields onConflict returning) := by
  unfold Session.insert
  split
  · exact writes.fail _
  · exact writes.bind writes.dialect fun _ =>
      writes.bind (writes.of _) fun _ => writes.runInsert _ _

theorem Writes.update (table : String) (fields filter : Record) :
    K (update table fields filter) := by
  unfold Session.update
  split
  · exact writes.pure _
  · exact writes.bind writes.dialect fun _ => writes.bind (writes.of _) fun _ => writes.write _

theorem Writes.delete (table : String) (filter : Record) : K (delete table filter) :=
  writes.bind writes.dialect fun _ => writes.bind (writes.of _) fun _ => writes.write _

theorem Writes.remove (selection : Select) : K (remove selection) :=
  writes.bind (writes.of _) fun _ => writes.write _

end

/-! ## What work tells -/

section

variable {d : Dialect} {P : Exchange → Prop}

theorem closed_every : Closed fun work => Tells d work (Every P) where
  of _ := tells_of (every_nil _)
  bind := Tells.bind_every
  outcomeOf held := Tells.outcomeOf (held.mono fun _ _ every => every)
  record _ remark := tells_record remark.unsent (every_nil _)
  looked := fun _ _ opened => ⟨opened, every_nil _⟩

theorem announces_every : Announces fun work => Tells d work (Every P) where
  toClosed := closed_every
  emission _ _ := tells_record rfl (every_nil _)
  heard _ _ := tells_record rfl (every_nil _)
  setBus _ := tells_setBus (every_nil _)

theorem reads_every (selects : ∀ x : Exchange, x.statement.Selects → P x) :
    Reads fun work => Tells d work (Every P) where
  toClosed := closed_every
  select f fetches := tells_execute fun reply x member => by
    rw [List.mem_singleton.mp member]
    exact selects _ fetches

theorem selecting : Reads fun work => Tells d work SelectsOnly :=
  reads_every fun _ selects => selects

theorem silent_emit (event : String) (payload : List Payload) :
    Tells d (emit event payload) Silent :=
  (announces_every.emit event payload).mono fun _ _ (none : Every (fun _ => False) _ _) =>
    List.eq_nil_iff_forall_not_mem.mpr none

end

end Session

end Curator
