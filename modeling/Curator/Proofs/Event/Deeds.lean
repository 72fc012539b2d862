import Curator.Proofs.Hook.Quiet
import Curator.Proofs.Lifecycle.Calls
/-!
# Deeds of a model

What a run of a model does for the world to see, in order: statements it sends, hooks it notifies of a
write, events it emits, and whatever else it records.  A run is such a list of deeds if its journal is
what the deeds leave one after the other, each done in the state that the ones before it left.
-/

set_option autoImplicit false

namespace Curator

open Sql Session

/-! ## Work that sends nothing -/

namespace Session

/-- Work that sends nothing, whatever the state it runs in. -/
def Unsent {α : Type} (work : Session α) : Prop :=
  ∀ s, statements (work s).entries = []

theorem unsent_bind {α β : Type} {first : Session α} {next : α → Session β} (head : Unsent first)
    (tail : ∀ a, Unsent (next a)) : Unsent (first >>= next) := by
  intro s
  cases came : (first s).outcome with
  | error failure =>
    rw [ran_failed came]
    exact head s
  | ok a =>
    rw [ran_on came, statements_append, head s, tail a]
    rfl

theorem unsent_record {entry : Entry} (none : entry.statement? = none) : Unsent (record entry) := by
  intro s
  simp only [record, statements, List.filterMap_cons, none, List.filterMap_nil]

theorem unsent_announces : Announces Unsent where
  of _ _ := rfl
  bind := unsent_bind
  outcomeOf unsent s := unsent s
  record _ remark := unsent_record remark.unsent
  looked _ := rfl
  emission _ _ := unsent_record rfl
  heard _ _ := unsent_record rfl
  setBus _ _ := rfl

end Session

/-! ## Deeds -/

/-- What a model emits an event about. -/
inductive News where
  | created (resource : Resource)
  | updated (resource existing : Resource) (values : Record)
  | deleted (resource : Resource)
  | trashed (resource : Resource)
  | restored (resource : Resource)

namespace News

def event : News → String
  | created _ => "resource.create"
  | updated .. => "resource.update"
  | deleted _ => "resource.delete"
  | trashed _ => "resource.trash"
  | restored _ => "resource.restore"

def payload : News → List Payload
  | updated resource existing values =>
    [.resource resource, .resource existing, .value (.dict values)]
  | created resource | deleted resource | trashed resource | restored resource =>
    [.resource resource]

end News

inductive Deed where
  | sent (x : Exchange)
  /-- The hooks of a point ran, and returned or failed. -/
  | notified (point : HookPoint) (record : Record) (previous : Option Record) (returned : Bool)
  | emitted (news : News)
  | said (entry : Entry)

namespace Deed

/-- The work a deed consists in. -/
def work (m : Model) : Deed → Session Unit
  | sent x => do
    let _ ← execute x.statement
    pure ()
  | notified point record previous _ => m.notify point record previous
  | emitted news => emit news.event news.payload
  | said entry => record entry

/-- What a deed tells of its work is so in the state in which it is done. -/
def Fits (m : Model) (s : SessionState) : Deed → Prop
  | sent x => ∃ script, s.database.pending = some script ∧ x.reply = script.head?
  | notified point record previous returned =>
    (m.notify point record previous s).outcome.isOk = returned
  | emitted _ => True
  | said entry => entry.Remark

/-- A deed that neither writes nor emits. -/
def Calm : Deed → Prop
  | sent x => x.statement.Selects
  | emitted _ => False
  | _ => True

def Emits : Deed → Prop
  | emitted _ => True
  | _ => False

theorem Calm.emits_nothing {deed : Deed} (calm : deed.Calm) : ¬ deed.Emits := by
  intro emits
  cases deed with
  | emitted news => exact calm
  | _ => exact emits

end Deed

/-- Deeds done one after the other from a state, with the entries and the state they leave.  The state
of the model and the last key are none of their business. -/
inductive Model.Did (m : Model) : SessionState → List Deed → List Entry → SessionState → Prop
  | nothing (s : SessionState) : m.Did s [] [] s
  | unseen {s t : SessionState} {deeds : List Deed} {entries : List Entry} (lastId : Value)
      (model : ModelState) :
      m.Did { s with database := { s.database with lastId }, model } deeds entries t →
      m.Did s deeds entries t
  | deed {s t : SessionState} {deeds : List Deed} {entries : List Entry} (deed : Deed) :
      deed.Fits m s → m.Did (deed.work m s).state deeds entries t →
      m.Did s (deed :: deeds) ((deed.work m s).entries ++ entries) t

theorem Model.Did.append {m : Model} {s t u : SessionState} {deeds others : List Deed}
    {entries more : List Entry} (first : m.Did s deeds entries t) (second : m.Did t others more u) :
    m.Did s (deeds ++ others) (entries ++ more) u := by
  induction first with
  | nothing s => exact second
  | unseen lastId model _ ih => exact .unseen lastId model (ih second)
  | deed deed fits _ ih =>
    rw [List.append_assoc]
    exact .deed deed fits (ih second)

theorem Model.Did.one {m : Model} {s : SessionState} (deed : Deed) (fits : deed.Fits m s) :
    m.Did s [deed] (deed.work m s).entries (deed.work m s).state := by
  have alone := Model.Did.deed deed fits (.nothing (deed.work m s).state)
  rw [List.append_nil] at alone
  exact alone

/-! ## Entries of emissions -/

/-- An entry that comes of emitting an event. -/
def Entry.OfEmission (entry : Entry) : Prop :=
  (∃ label payload, entry = .heard label payload) ∨
    ∃ event listeners, entry = .logged .debug (emitMessage event listeners)

/-- Work that emits nothing, not even within its hooks. -/
def Session.Unannounced {α : Type} (work : Session α) : Prop :=
  ∀ s, ∀ entry ∈ (work s).entries, ¬ entry.OfEmission

theorem Entry.Remark.unannounced {entry : Entry} (remark : entry.Remark) : ¬ entry.OfEmission := by
  rintro (⟨label, payload, same⟩ | ⟨event, listeners, same⟩)
  · exact remark.unheard label payload same
  · exact remark.other event listeners same

namespace Session

theorem unannounced_bind {α β : Type} {first : Session α} {next : α → Session β}
    (head : Unannounced first) (tail : ∀ a, Unannounced (next a)) : Unannounced (first >>= next) := by
  intro s entry member
  cases came : (first s).outcome with
  | error failure =>
    rw [ran_failed came] at member
    exact head s entry member
  | ok a =>
    rw [ran_on came] at member
    rcases List.mem_append.mp member with early | late
    · exact head s entry early
    · exact tail a _ entry late

theorem unannounced_execute (f : Fragment) : Unannounced (execute f) := by
  have message : (Entry.logged .debug (statementMessage f)).Remark := by
    refine ⟨rfl, nofun, fun event listeners same => ?_⟩
    injection same with _ same
    have opening := emitMessage_opening event listeners
    rw [← same] at opening
    simp [statementMessage, toString] at opening
  intro s entry member
  rcases connected : s.database.pending with - | script
  · rw [execute_disconnected connected] at member
    cases member
  · rw [execute_connected connected] at member
    rcases List.mem_cons.mp member with rfl | member
    · exact message.unannounced
    · rw [List.mem_singleton.mp member]
      rintro (⟨_, _, same⟩ | ⟨_, _, same⟩)
      · cases same
      · cases same

theorem unannounced_writes : Writes Unannounced where
  of _ _ _ member := nomatch member
  bind := unannounced_bind
  outcomeOf held s := held s
  record entry remark s other member := by
    rw [List.mem_singleton.mp member]
    exact remark.unannounced
  looked _ _ member := nomatch member
  keepLastId _ _ _ member := nomatch member
  execute := unannounced_execute

end Session

/-- If hooks ask for no operations, an event is emitted wherever the journal tells of one. -/
theorem Model.Did.emits {m : Model} (quiet : m.Quiet) {s t : SessionState} {deeds : List Deed}
    {entries : List Entry} (did : m.Did s deeds entries t) {entry : Entry}
    (member : entry ∈ entries) (told : entry.OfEmission) : ∃ news, .emitted news ∈ deeds := by
  induction did with
  | nothing s => cases member
  | unseen lastId model _ ih => exact ih member
  | @deed s _ _ _ deed fits _ ih =>
    rcases List.mem_append.mp member with own | others
    · cases deed with
      | emitted news => exact ⟨news, List.mem_cons_self⟩
      | sent x =>
        have silent : Unannounced ((Deed.sent x).work m) :=
          unannounced_writes.bind (unannounced_execute _) fun _ => unannounced_writes.pure _
        exact absurd told (silent s entry own)
      | notified point record previous returned =>
        have silent : Unannounced (m.notify point record previous) :=
          unannounced_writes.notify quiet.steps point record previous
        exact absurd told (silent s entry own)
      | said remark =>
        rw [List.mem_singleton.mp own] at told
        exact absurd told fits.unannounced
    · obtain ⟨news, inside⟩ := ih others
      exact ⟨news, List.mem_cons_of_mem deed inside⟩

/-! ## What work does -/

/-- Work every run of which, on a database that speaks a dialect, does deeds that stand in a relation to
its outcome. -/
def Session.Acts {α : Type} (m : Model) (d : Dialect) (work : Session α)
    (Q : Except Failure α → List Deed → Prop) : Prop :=
  ∀ s, s.database.dialect = d → (work s).state.database.dialect = d ∧
    ∃ deeds, m.Did s deeds (work s).entries (work s).state ∧ Q (work s).outcome deeds

namespace Session

variable {m : Model} {d : Dialect} {α β : Type} {Q : Except Failure α → List Deed → Prop}
  {R : Except Failure β → List Deed → Prop} {P : Deed → Prop}

theorem Acts.mono {Q' : Except Failure α → List Deed → Prop} {work : Session α}
    (acts : Acts m d work Q) (weaker : ∀ outcome deeds, Q outcome deeds → Q' outcome deeds) :
    Acts m d work Q' := by
  intro s speaks
  obtain ⟨left, deeds, did, holds⟩ := acts s speaks
  exact ⟨left, deeds, did, weaker _ _ holds⟩

theorem acts_of {result : Except Failure α} (holds : Q result []) : Acts m d (of result) Q :=
  fun s speaks => ⟨speaks, [], .nothing s, holds⟩

theorem acts_pure {a : α} (holds : Q (.ok a) []) : Acts m d (pure a) Q := acts_of holds

theorem acts_fail {failure : Failure} (holds : Q (.error failure) []) : Acts m d (fail failure) Q :=
  acts_of holds

/-- What follows a result is judged by what has been done before it. -/
theorem Acts.bind {first : Session α} {next : α → Session β}
    (acts : Acts m d first fun outcome deeds =>
      match outcome with
      | .error failure => R (.error failure) deeds
      | .ok a => Acts m d (next a) fun outcome more => R outcome (deeds ++ more)) :
    Acts m d (first >>= next) R := by
  intro s speaks
  obtain ⟨left, deeds, did, holds⟩ := acts s speaks
  cases came : (first s).outcome with
  | error failure =>
    rw [came] at holds
    rw [ran_failed came]
    exact ⟨left, deeds, did, holds⟩
  | ok a =>
    rw [came] at holds
    rw [ran_on came]
    obtain ⟨ends, more, went, holds⟩ := holds _ left
    exact ⟨ends, deeds ++ more, did.append went, holds⟩

theorem Acts.outcomeOf {work : Session α} {Q : Except Failure (Except Failure α) → List Deed → Prop}
    (acts : Acts m d work fun outcome deeds => Q (.ok outcome) deeds) : Acts m d (outcomeOf work) Q :=
  fun s speaks => acts s speaks

theorem Acts.map {work : Session α} {f : α → β}
    (acts : Acts m d work fun outcome deeds => R (outcome.map f) deeds) :
    Acts m d (f <$> work) R := by
  rw [← bind_pure_comp]
  refine Acts.bind (acts.mono fun outcome deeds holds => ?_)
  cases outcome with
  | error failure => exact holds
  | ok a =>
    refine acts_pure ?_
    rw [List.append_nil]
    exact holds

/-! ### Single deeds -/

theorem acts_record {entry : Entry} {Q : Except Failure Unit → List Deed → Prop}
    (remark : entry.Remark) (holds : Q (.ok ()) [.said entry]) : Acts m d (record entry) Q :=
  fun _ speaks => ⟨speaks, _, Model.Did.one (.said entry) remark, holds⟩

/-- A statement is sent, unless there is no connection. -/
theorem acts_statement {f : Fragment} {Q : Except Failure Answered → List Deed → Prop}
    (unconnected : Q (.error (.misuse .notConnected)) [])
    (holds : ∀ reply, Q ((Exchange.mk f reply).answer d) [.sent ⟨f, reply⟩]) :
    Acts m d (execute f) Q := by
  intro s speaks
  rcases connected : s.database.pending with - | script
  · rw [execute_disconnected connected]
    exact ⟨speaks, [], .nothing s, unconnected⟩
  · have did := Model.Did.one (m := m) (.sent ⟨f, script.head?⟩) ⟨script, connected, rfl⟩
    obtain ⟨entries, state, _⟩ := ran_returning (execute f) () s
    have answered := holds script.head?
    simp only [Deed.work, entries, state] at did
    rw [execute_connected connected] at did ⊢
    rw [speaks] at did ⊢
    exact ⟨rfl, _, did, answered⟩

theorem acts_execute {f : Fragment} {Q : Except Failure Answered → List Deed → Prop}
    (fails : ∀ failure, Q (.error failure) [])
    (holds : ∀ reply, Q ((Exchange.mk f reply).answer d) [.sent ⟨f, reply⟩]) :
    Acts m d (execute f) Q :=
  acts_statement (fails _) holds

/-- A step that changes nothing but the state of the model and the last key. -/
theorem acts_unseen {work : Session α}
    (silent : ∀ s, ∃ outcome lastId model, Q outcome [] ∧
      work s = ⟨outcome, { s with database := { s.database with lastId }, model }, []⟩) :
    Acts m d work Q := by
  intro s speaks
  obtain ⟨outcome, lastId, model, holds, ran⟩ := silent s
  rw [ran]
  exact ⟨speaks, [], .unseen lastId model (.nothing _), holds⟩

theorem acts_emit (news : News) {Q : Except Failure Unit → List Deed → Prop}
    (holds : ∀ outcome, Q outcome [.emitted news]) :
    Acts m d (emit news.event news.payload) Q := by
  intro s speaks
  have kept : Keeps (fun _ => True) (emit news.event news.payload) := keeps_announces.emit _ _
  exact ⟨(kept s).dialect.trans speaks, _, Model.Did.one (.emitted news) trivial, holds _⟩

theorem acts_notify (quiet : m.Quiet) {point : HookPoint} {record : Record}
    {previous : Option Record} {Q : Except Failure Unit → List Deed → Prop}
    (holds : ∀ outcome, Q outcome [.notified point record previous outcome.isOk]) :
    Acts m d (m.notify point record previous) Q := by
  intro s speaks
  have kept : Keeps (fun _ => True) (m.notify point record previous) :=
    keeps_writes.notify quiet.steps point record previous
  refine ⟨(kept s).dialect.trans speaks, _, ?_, holds _⟩
  exact Model.Did.one (.notified point record previous _) rfl

/-! ### Sequences -/

theorem acts_of_bind {made : Except Failure α} {next : α → Session β}
    (fails : ∀ failure, made = .error failure → R (.error failure) [])
    (goes : ∀ a, made = .ok a → Acts m d (next a) R) : Acts m d (of made >>= next) R := by
  refine Acts.bind (acts_of ?_)
  cases came : made with
  | error failure => exact fails failure came
  | ok a => exact goes a came

/-- Deeds that are statements judge work as their exchanges do. -/
theorem acts_judges : JudgesInserts d fun work Q =>
    Acts m d work fun outcome deeds => ∃ xs, deeds = List.map Deed.sent xs ∧ Q outcome xs where
  of holds := acts_of ⟨[], rfl, holds⟩
  bind acts := by
    refine Acts.bind (acts.mono fun outcome deeds told => ?_)
    obtain ⟨xs, rfl, told⟩ := told
    cases outcome with
    | error failure => exact ⟨xs, rfl, told⟩
    | ok a =>
      refine told.mono fun outcome more told => ?_
      obtain ⟨ys, rfl, told⟩ := told
      exact ⟨xs ++ ys, List.map_append.symm, told⟩
  dialect := by
    intro Q holds s speaks
    refine ⟨speaks, [], .nothing s, [], rfl, ?_⟩
    change Q (.ok s.database.dialect) []
    rw [speaks]
    exact holds
  execute fails holds :=
    acts_execute (fun failure => ⟨[], rfl, fails failure⟩) fun reply => ⟨[_], rfl, holds reply⟩
  keepLastId holds :=
    acts_unseen fun s => ⟨_, _, _, ⟨[], rfl, holds⟩, rfl⟩

/-! ### Works that do deeds of some kind -/

/-- All deeds are as `P` says, whatever the outcome. -/
abbrev Only (P : Deed → Prop) : Except Failure α → List Deed → Prop :=
  fun _ deeds => ∀ deed ∈ deeds, P deed

theorem acts_closed (remarks : ∀ entry, P (.said entry)) :
    Closed fun work => Acts m d work (Only P) where
  of _ := acts_of (List.forall_mem_nil _)
  bind := by
    intro α β first next head tail
    refine Acts.bind (head.mono fun outcome deeds before => ?_)
    cases outcome with
    | error failure => exact before
    | ok a =>
      refine (tail a).mono fun outcome more after => ?_
      exact List.forall_mem_append.mpr ⟨before, after⟩
  outcomeOf held := Acts.outcomeOf held
  record entry remark := by
    refine acts_record remark fun deed member => ?_
    rw [List.mem_singleton.mp member]
    exact remarks entry
  looked := acts_unseen fun s => ⟨_, s.database.lastId, s.model, List.forall_mem_nil _, rfl⟩

theorem acts_reads (remarks : ∀ entry, P (.said entry))
    (selects : ∀ x : Exchange, x.statement.Selects → P (.sent x)) :
    Reads fun work => Acts m d work (Only P) where
  toClosed := acts_closed remarks
  select f fetches := by
    refine acts_execute (fun _ => List.forall_mem_nil _) fun reply deed member => ?_
    rw [List.mem_singleton.mp member]
    exact selects _ fetches

theorem calmly : Reads fun work => Acts m d work (Only Deed.Calm) :=
  acts_reads (fun _ => trivial) fun _ selects => selects

end Session

end Curator
