import Curator.Proofs.Event.Announced
import Curator.Proofs.Hook.Touched
import Curator.Proofs.Lifecycle.Visibility
import Curator.Proofs.Model.Notifications
import Curator.Proofs.Model.Removing
import Curator.Proofs.Plan.Refusals
import Curator.Proofs.Sql.Refusals
/-!
# What clearing away counts

Clearing away reads every listed key again, removes what is still there, and counts what was removed.
The count is the number of writes that reached a row, and of the events about them: a removal answers
in one of three ways that nothing was removed, and each of them shows in what it sent and emitted.
-/

set_option autoImplicit false

namespace Curator

open Sql Outcome Session

/-! ## Statements that cannot be made

A row that is not there is noticed in the answer to a statement.  Whatever keeps the statement itself
from being made is another failure.
-/

/-- A failure other than that a row is not there. -/
def Failure.Other (f : Failure) : Prop := f.category ≠ .absent

namespace Sql

variable {d : Dialect} {s : Select}

theorem quote_other (name : String) : FailsOnly (quote name) Failure.Other :=
  quote_fails fun _ => nofun

theorem checkPath_other (path : List String) : FailsOnly (checkPath path) Failure.Other := by
  induction path with
  | nil => exact failsOnly_ok _
  | cons key rest ih =>
    unfold checkPath
    split
    · exact ih
    · refine failsOnly_error fun absent => ?_
      cases absent

theorem Column.render_other (column : Column) : FailsOnly (column.render d) Failure.Other := by
  unfold Column.render
  refine (qualify_fails (quote_other _) fun name _ => quote_other name).bind fun expr _ => ?_
  split
  · exact failsOnly_pure _
  · rename_i keys
    unfold Dialect.jsonExtract
    rw [if_neg keys]
    exact (checkPath_other _).bind fun _ _ => failsOnly_pure _

namespace Select

theorem column_other (column : Column) (label : String) :
    FailsOnly (s.column column (some label)) Failure.Other := by
  refine (Column.render_other column).bind fun expr _ => ?_
  refine FailsOnly.bind ?_ fun _ _ => failsOnly_pure _
  unfold quoteAlias
  split
  · exact failsOnly_ok _
  · exact failsOnly_error nofun

theorem where_other (connector : Connector) (column : Column) (operator : Operator)
    (operand : Value) : FailsOnly (s.where_ connector column operator operand) Failure.Other := by
  refine (Column.render_other column).bind fun expr _ => ?_
  refine (Operator.render_fails.mono ?_).bind fun _ _ => failsOnly_pure _
  rintro f (request | ⟨_, _, rfl⟩)
  · unfold Failure.Other
    rw [request]
    exact nofun
  · exact nofun

theorem endGroup_other : FailsOnly s.endGroup Failure.Other := by
  unfold endGroup
  split
  · exact failsOnly_error nofun
  · exact failsOnly_ok _

theorem settled_other {met : Select × Option Failure}
    (refused : ∀ f, met.2 = some f → f.Other) : FailsOnly (Plan.settled met) Failure.Other := by
  obtain ⟨s, failure⟩ := met
  cases failure with
  | none => exact failsOnly_ok _
  | some failure => exact failsOnly_error (refused failure rfl)

theorem groupBy_other (columns : List Column) :
    FailsOnly (Plan.settled (s.groupBy columns)) Failure.Other := by
  have each : ∀ column ∈ columns, FailsOnly (column.render s.dialect) Failure.Other :=
    fun column _ => Column.render_other column
  exact settled_other fun _ => renderedUntilRefused_fails each

theorem orderBy_other (fields : List String) :
    FailsOnly (Plan.settled (s.orderBy fields)) Failure.Other := by
  have each : ∀ field ∈ fields, FailsOnly (orderItem s.dialect field) Failure.Other :=
    fun _ _ => orderItem_fails (Column.render_other _)
  exact settled_other fun _ => renderedUntilRefused_fails each

theorem integerText_other (n : Int) : FailsOnly (integerText n) Failure.Other :=
  (integerText_fails n).mono fun _ cause => cause.2 ▸ nofun

theorem toSql_other : FailsOnly s.toSql Failure.Other := by
  unfold toSql
  refine FailsOnly.bind ?_ fun source _ => FailsOnly.bind ?_ fun limit _ =>
    FailsOnly.bind ?_ fun offset _ => failsOnly_pure _
  · unfold fromClause
    split
    · exact failsOnly_error nofun
    · exact failsOnly_error nofun
    · exact failsOnly_ok _
  · unfold limitClause
    split
    · exact failsOnly_ok _
    · exact (integerText_other _).bind fun _ _ => failsOnly_pure _
  · unfold offsetClause
    split
    · exact failsOnly_ok _
    · split
      · exact failsOnly_ok _
      · exact (integerText_other _).bind fun _ _ => failsOnly_pure _

end Select

end Sql

theorem Plan.selection_other (plan : Plan) (d : Dialect) :
    FailsOnly (plan.selection d true) Failure.Other := by
  have always : ∀ {α : Type} {f : Select → α → Except Failure Select} {xs : List α} {s : Select},
      (∀ s x, FailsOnly (f s x) Failure.Other) → FailsOnly (xs.foldlM f s) Failure.Other :=
    fun each => failsOnly_foldlM (K := fun _ => True) (fun s x _ _ => each s x)
      (fun _ _ _ _ _ _ => trivial) trivial
  unfold selection
  refine ((quote_other _).bind fun _ _ => failsOnly_pure _).bind fun s _ => ?_
  refine FailsOnly.bind (always fun s c => s.column_other c.column c.label) fun s _ => ?_
  refine FailsOnly.bind (always fun s join => ?_) fun s _ => ?_
  · exact Select.leftJoin_fails (quote_other _) (quote_other _) (fun _ => Column.render_other _)
      fun _ => Column.render_other _
  refine FailsOnly.bind (always fun s step => ?_) fun s _ => ?_
  · cases step with
    | test connector column operator operand => exact s.where_other connector column operator operand
    | opening connector => exact failsOnly_ok _
    | closing => exact s.endGroup_other
  refine (s.groupBy_other _).bind fun s _ => ?_
  exact (s.orderBy_other _).bind fun s _ => failsOnly_pure _

namespace Model

variable {m : Model} {d : Dialect}

/-- The plan by which a row is read asks for the columns of one resource only. -/
theorem keyPlan_other (key : Value) (mode : TrashedMode) :
    FailsOnly (m.keyPlan key mode) Failure.Other := by
  have request : ∀ f : Failure, f.category = .request → f.Other := by
    intro f same
    unfold Failure.Other
    rw [same]
    exact nofun
  refine FailsOnly.bind ?_ fun selected _ => ?_
  · refine FailsOnly.bind ?_ fun s _ => ?_
    · refine failsOnly_foldlM (K := fun _ => True) (fun s field member _ => ?_)
        (fun _ _ _ _ _ _ => trivial) trivial
      rw [List.mem_singleton.mp member]
      exact (s.addReadable_fails _ _).mono request
    · split
      · exact failsOnly_pure _
      · exact failsOnly_pure _
  exact failsOnly_pure _

end Model

/-! ## What deeds show -/

/-- The exchanges among deeds, in order. -/
def sents (deeds : List Deed) : List Exchange :=
  deeds.filterMap fun
    | .sent x => some x
    | _ => none

/-- The news among deeds that an event was emitted about, in order. -/
def told (deeds : List Deed) : List News :=
  deeds.filterMap fun
    | .emitted news => some news
    | _ => none

theorem sents_append (deeds more : List Deed) : sents (deeds ++ more) = sents deeds ++ sents more :=
  List.filterMap_append

theorem told_append (deeds more : List Deed) : told (deeds ++ more) = told deeds ++ told more :=
  List.filterMap_append

/-- If hooks ask for no operations, the statements of the journal are those among the deeds. -/
theorem Model.Did.statements_eq {m : Model} (quiet : m.Quiet) {s t : SessionState}
    {deeds : List Deed} {entries : List Entry} (did : m.Did s deeds entries t) :
    statements entries = (sents deeds).map (·.statement) := by
  induction did with
  | nothing s => rfl
  | unseen lastId model _ ih => exact ih
  | @deed s _ _ _ deed fits _ ih =>
    rw [statements_append, ih]
    cases deed with
    | sent x =>
      obtain ⟨script, connected, _⟩ := fits
      obtain ⟨recorded, _, _⟩ := ran_returning (execute x.statement) () s
      simp only [Deed.work, recorded, execute_connected connected]
      rfl
    | notified point record previous returned =>
      have unsent : Unsent (m.notify point record previous) :=
        unsent_announces.notify quiet.steps point record previous
      rw [Deed.work, unsent s]
      rfl
    | emitted news =>
      have unsent : Unsent (emit news.event news.payload) := unsent_announces.emit _ _
      rw [Deed.work, unsent s]
      rfl
    | said entry =>
      have unsent : Unsent (record entry) := unsent_record fits.unsent
      rw [Deed.work, unsent s]
      rfl

/-- Work whose outcome, exchanges and news stand in a relation, in every run. -/
def Session.Shows {α : Type} (m : Model) (d : Dialect) (work : Session α)
    (Q : Except Failure α → List Exchange → List News → Prop) : Prop :=
  Acts m d work fun outcome deeds => Q outcome (sents deeds) (told deeds)

/-- Where there is a result, it and what was sent and emitted are as `P` says. -/
def Bringing {α : Type} (P : α → List Exchange → List News → Prop) :
    Except Failure α → List Exchange → List News → Prop :=
  fun outcome xs news => ∀ a, outcome = .ok a → P a xs news

/-- Nothing is sent and nothing emitted. -/
abbrev Hushed {α : Type} : Except Failure α → List Exchange → List News → Prop :=
  fun _ xs news => xs = [] ∧ news = []

namespace Session

variable {m : Model} {d : Dialect} {α β : Type}
  {Q : Except Failure α → List Exchange → List News → Prop}
  {R : Except Failure β → List Exchange → List News → Prop}

theorem Shows.mono {Q' : Except Failure α → List Exchange → List News → Prop} {work : Session α}
    (shows_ : Shows m d work Q) (weaker : ∀ outcome xs news, Q outcome xs news → Q' outcome xs news) :
    Shows m d work Q' :=
  Acts.mono shows_ fun outcome deeds => weaker outcome (sents deeds) (told deeds)

theorem Shows.bind {first : Session α} {next : α → Session β}
    (shows_ : Shows m d first fun outcome xs news =>
      match outcome with
      | .error failure => R (.error failure) xs news
      | .ok a => Shows m d (next a) fun outcome ys more => R outcome (xs ++ ys) (news ++ more)) :
    Shows m d (first >>= next) R := by
  refine Acts.bind (Acts.mono shows_ fun outcome deeds holds => ?_)
  cases outcome with
  | error failure => exact holds
  | ok a =>
    refine Acts.mono holds fun outcome more holds => ?_
    rw [sents_append, told_append]
    exact holds

theorem shows_of {result : Except Failure α} (holds : Q result [] []) : Shows m d (of result) Q :=
  acts_of holds

theorem shows_pure {a : α} (holds : Q (.ok a) [] []) : Shows m d (pure a) Q := acts_pure holds

theorem Shows.outcomeOf {work : Session α}
    {Q : Except Failure (Except Failure α) → List Exchange → List News → Prop}
    (shows_ : Shows m d work fun outcome xs news => Q (.ok outcome) xs news) :
    Shows m d (outcomeOf work) Q :=
  Acts.outcomeOf shows_

theorem Shows.map {work : Session α} {f : α → β}
    (shows_ : Shows m d work fun outcome xs news => R (outcome.map f) xs news) :
    Shows m d (f <$> work) R :=
  Acts.map shows_

theorem shows_of_bind {made : Except Failure α} {next : α → Session β}
    (fails : ∀ failure, made = .error failure → R (.error failure) [] [])
    (goes : ∀ a, made = .ok a → Shows m d (next a) R) : Shows m d (of made >>= next) R :=
  acts_of_bind fails goes

theorem shows_dialect_bind {next : Dialect → Session β} (goes : Shows m d (next d) R) :
    Shows m d (dialect >>= next) R := by
  intro s speaks
  rw [dialect_bind_at, speaks]
  exact goes s speaks

theorem shows_execute {f : Fragment} {Q : Except Failure Answered → List Exchange → List News → Prop}
    (fails : ∀ failure, failure.Other → Q (.error failure) [] [])
    (holds : ∀ reply, Q ((Exchange.mk f reply).answer d) [⟨f, reply⟩] []) :
    Shows m d (execute f) Q :=
  acts_statement (fails _ nofun) holds

/-! ### Work that shows nothing -/

theorem hushed : Closed fun work => Shows m d work Hushed where
  of _ := shows_of ⟨rfl, rfl⟩
  bind := by
    intro α β first next head tail
    refine Shows.bind (head.mono fun outcome xs news nothing => ?_)
    obtain ⟨rfl, rfl⟩ := nothing
    cases outcome with
    | error failure => exact ⟨rfl, rfl⟩
    | ok a => exact tail a
  outcomeOf held := Shows.outcomeOf held
  record entry remark := acts_record remark ⟨rfl, rfl⟩
  looked := acts_unseen fun s => ⟨_, s.database.lastId, s.model, ⟨rfl, rfl⟩, rfl⟩

theorem shows_after {first : Session α} {next : α → Session β} (head : Shows m d first Hushed)
    (fails : ∀ failure, R (.error failure) [] []) (goes : ∀ a, Shows m d (next a) R) :
    Shows m d (first >>= next) R := by
  refine Shows.bind (head.mono fun outcome xs news nothing => ?_)
  obtain ⟨rfl, rfl⟩ := nothing
  cases outcome with
  | error failure => exact fails failure
  | ok a => exact goes a

/-- Work that shows nothing and comes to the same in every run. -/
theorem shows_known {work : Session α} (head : Shows m d work Hushed) {result : Except Failure α}
    (comes : ∀ s, (work s).outcome = result) (holds : Q result [] []) : Shows m d work Q := by
  intro s speaks
  obtain ⟨left, deeds, did, silent, mute⟩ := head s speaks
  refine ⟨left, deeds, did, ?_⟩
  simp only [silent, mute, comes s]
  exact holds

/-- A message that tells of no emission. -/
theorem shows_log_bind {level : LogLevel} {message : String} {next : Unit → Session β}
    (head : Shows m d (log level message) Hushed) (goes : Shows m d (next ()) R) :
    Shows m d (log level message >>= next) R :=
  Shows.bind (shows_known head (fun _ => rfl) goes)

/-- An operation shows what the work in it does, if it returns. -/
theorem shows_tracked (quiet : m.Quiet) {work : Session α} {P : α → List Exchange → List News → Prop}
    (shows_ : Shows m d work (Bringing P)) : Shows m d (m.tracked work) (Bringing P) := by
  have notified : ∀ point, Shows m d (m.notify point [] none) Hushed :=
    fun point => hushed.notify quiet.steps point [] none
  refine acts_outermost shows_ (shows_after (notified .begin) (fun _ => nofun) fun _ => ?_)
  refine Shows.bind (shows_.mono fun outcome xs news held => ?_)
  cases outcome with
  | error failure => exact nofun
  | ok a =>
    refine shows_after (notified .complete) (fun _ => nofun) fun _ => shows_pure ?_
    rw [List.append_nil, List.append_nil]
    exact held

end Session

namespace Model

variable {m : Model} {d : Dialect}

/-! ## Rows that are read again -/

/-- Reading a row by its key sends the statement of its plan, unless there is another failure than that
the row is not there. -/
theorem shows_fetchRow (quiet : m.Quiet) {key : Value} {mode : TrashedMode}
    {Q : Except Failure Record → List Exchange → List News → Prop}
    (fails : ∀ failure, failure.Other → Q (.error failure) [] [])
    (sends : ∀ plan x, m.keyPlan key mode = .ok plan → plan.fetchSql d = .ok x.statement →
      Q (x.answer d >>= m.handedOut plan) [x] []) :
    Shows m d (m.fetchRow key [] mode) Q := by
  unfold Model.fetchRow planFor planRows
  simp only [bind_assoc, pure_bind]
  refine shows_of_bind (fun failure refused => fails failure (keyPlan_other key mode failure refused))
    fun plan compiled => ?_
  refine shows_log_bind (hushed.debug (by simp [planMessage, toString])) ?_
  refine shows_dialect_bind (shows_of_bind
    (fun failure refused => fails failure (plan.selection_other d failure refused))
    fun s selected => ?_)
  unfold Session.fetch Session.select
  simp only [bind_assoc, pure_bind]
  refine shows_of_bind (fun failure refused => fails failure (s.toSql_other failure refused))
    fun f made => Shows.bind (shows_execute fails fun reply => ?_)
  have shown := sends plan ⟨f, reply⟩ compiled
    (by simpa only [Plan.fetchSql, selected, ok_bind] using made)
  cases came : (Exchange.mk f reply).answer d with
  | error failure =>
    rw [came] at shown
    exact shown
  | ok answer =>
    rw [came, ok_bind] at shown
    simp only
    unfold handedOut at shown
    cases found : answer.rows with
    | nil =>
      rw [found] at shown
      exact shows_of shown
    | cons row rest =>
      rw [found] at shown
      simp only at shown ⊢
      unfold Model.shown
      refine shows_of_bind (fun failure refused => ?_) fun record reshaped => ?_
      · rw [refused] at shown
        exact shown
      · rw [reshaped, ok_bind] at shown
        exact shows_known (hushed.atPoint quiet.steps .afterRead record none)
          (quiet.atPoint_outcome .afterRead record none) shown

theorem shows_resource (quiet : m.Quiet) {key : Value} {mode : TrashedMode}
    {Q : Except Failure Resource → List Exchange → List News → Prop}
    (fails : ∀ failure, failure.Other → Q (.error failure) [] [])
    (sends : ∀ plan x, m.keyPlan key mode = .ok plan → plan.fetchSql d = .ok x.statement →
      Q ((x.answer d >>= m.handedOut plan).map fun data =>
        ⟨m.schema.name, m.schema.primaryKey, data⟩) [x] []) :
    Shows m d (m.resource key mode) Q := by
  have mapped : m.resource key mode =
      (fun data => ⟨m.schema.name, m.schema.primaryKey, data⟩) <$> m.fetchRow key [] mode :=
    bind_pure_comp _ _
  rw [mapped]
  exact Shows.map (shows_fetchRow quiet fails sends)

/-- Work that reads the row with a key, trashed or not as the case may be. -/
def Looks (m : Model) (d : Dialect) (key : Value) (find : Session Resource) : Prop :=
  ∀ {Q : Except Failure Resource → List Exchange → List News → Prop},
    (∀ mode, Shows m d (m.resource key mode) Q) → Shows m d find Q

theorem looks_visible (key : Value) : m.Looks d key (m.visibleResource key) :=
  fun shows_ => Shows.bind (Shows.bind (acts_unseen fun s => ⟨.ok s.model, s.database.lastId, s.model,
    shows_pure (shows_ s.model.trashed), rfl⟩))

theorem looks_resource (key : Value) (mode : TrashedMode) : m.Looks d key (m.resource key mode) :=
  fun shows_ => shows_ mode

/-! ## Visits -/

/-- A listed key with the exchange that reads its row again and the write behind it, if there is one. -/
structure Visit where
  key : Value
  fetch : Exchange
  write : Option Exchange

namespace Visit

def exchanges (visit : Visit) : List Exchange :=
  visit.fetch :: visit.write.toList

/-- Whether the database answered that the write reached a row. -/
def removed (d : Dialect) (visit : Visit) : Bool :=
  visit.write.any fun w => ((w.answer d).toOption.map fun answer => decide (answer.count ≠ 0)).getD false

end Visit

/-- A key is visited: its row is read by a plan for the key, and if it was there and handed out,
there may be a write by which the row is removed under the key it was handed out with. -/
structure Visits (m : Model) (d : Dialect) (removes : Value → Fragment → Prop) (visit : Visit) :
    Prop where
  reads : ∃ mode plan, m.keyPlan visit.key mode = .ok plan ∧
    plan.fetchSql d = .ok visit.fetch.statement ∧
    ∀ w ∈ visit.write, ∃ data, (visit.fetch.answer d >>= m.handedOut plan) = .ok data ∧
      removes (Resource.key ⟨m.schema.name, m.schema.primaryKey, data⟩) w.statement

/-- There is no write for a row that is not there. -/
theorem Visits.unwritten {removes : Value → Fragment → Prop} {visit : Visit}
    (visits : m.Visits d removes visit) {answer : Answered}
    (answered : visit.fetch.answer d = .ok answer) (none : answer.rows = []) :
    visit.write = .none := by
  obtain ⟨mode, plan, _, _, wrote⟩ := visits.reads
  cases written : visit.write with
  | none => rfl
  | some w =>
    obtain ⟨data, handed, _⟩ := wrote w written
    rw [answered, ok_bind, handedOut, none] at handed
    cases handed

/-- News of a row that is gone. -/
def Farewell (news : News) : Prop :=
  (∃ resource, news = .deleted resource) ∨ ∃ resource, news = .trashed resource

/-- A removal is a visit, and it emits one event if it removed a row, and else none. -/
def Removes (m : Model) (d : Dialect) (removes : Value → Fragment → Prop) (key : Value)
    (removed : Bool) (xs : List Exchange) (news : List News) : Prop :=
  ∃ visit : Visit, visit.key = key ∧ m.Visits d removes visit ∧ xs = visit.exchanges ∧
    removed = visit.removed d ∧ news.length = removed.toNat ∧ ∀ told ∈ news, Farewell told

/-- The write behind a row that was read, told of if it reached the row. -/
def WritesAway (d : Dialect) (wrote : Fragment → Prop) (removed : Bool) (xs : List Exchange)
    (news : List News) : Prop :=
  ∃ w : Exchange, xs = [w] ∧ wrote w.statement ∧
    (∃ answer, w.answer d = .ok answer ∧ removed = decide (answer.count ≠ 0)) ∧
    news.length = removed.toNat ∧ ∀ told ∈ news, Farewell told

section

variable (quiet : m.Quiet)

include quiet

/-- What is told of a row that is gone. -/
theorem shows_farewell {message : String} (news : News) {point : HookPoint} {record : Record} :
    Shows m d (do
      Session.log .info message
      m.notify point record none
      Session.emit news.event news.payload
      pure true) (Bringing fun removed xs told => removed = true ∧ xs = [] ∧ told = [news]) := by
  refine shows_log_bind (hushed.info message) ?_
  refine shows_after (hushed.notify quiet.steps point record none) (fun _ => nofun) fun _ => ?_
  refine Shows.bind (acts_emit news fun outcome => ?_)
  cases outcome with
  | error failure => exact nofun
  | ok u =>
    refine shows_pure ?_
    rintro _ ⟨⟩
    exact ⟨rfl, rfl, rfl⟩

omit quiet in
/-- A write that counts its rows: if it reached none nothing is told, and else the row's farewell. -/
theorem shows_counted {work : Session Int} {tells : Session Bool} {wrote : Fragment → Prop}
    {news : News} (farewell : Farewell news) (writes : Acts m d work (WritesRows d wrote))
    (told : Shows m d tells (Bringing fun removed xs told => removed = true ∧ xs = [] ∧ told = [news])) :
    Shows m d (work >>= fun n => if n = 0 then pure false else tells)
      (Bringing (WritesAway d wrote)) := by
  refine Acts.bind (writes.mono fun outcome deeds wrote => ?_)
  cases outcome with
  | error failure => exact nofun
  | ok n =>
    obtain ⟨rfl, failed⟩ | ⟨w, rfl, sent⟩ := wrote
    · exact absurd rfl (failed n)
    · obtain ⟨made, answer, came, same⟩ := sent n rfl
      by_cases none : n = 0
      · simp only [if_pos none]
        refine acts_pure ?_
        rintro _ ⟨⟩
        refine ⟨w, rfl, made, ⟨answer, came, ?_⟩, rfl, List.forall_mem_nil _⟩
        exact (decide_eq_false (not_not_intro (same.symm.trans none))).symm
      · simp only [if_neg none]
        refine Acts.mono told fun outcome more shown => ?_
        intro removed returned
        obtain ⟨rfl, sent, told⟩ := shown removed returned
        rw [sents_append, told_append, sent, told]
        have reached : answer.count ≠ 0 := fun zero => none (same.trans zero)
        exact ⟨w, rfl, made, ⟨answer, came, (decide_eq_true reached).symm⟩, rfl,
          List.forall_mem_singleton.mpr farewell⟩

theorem shows_removeRow (resource : Resource) :
    Shows m d (m.removeRow resource)
      (Bringing (WritesAway d fun f => f = m.deletion d resource.key)) := by
  refine Shows.mono (shows_counted (.inl ⟨resource, rfl⟩) acts_deletion
    (shows_farewell quiet (.deleted resource))) ?_
  rintro outcome xs news shown removed returned
  obtain ⟨w, sent, made, rest⟩ := shown removed returned
  exact ⟨w, sent, deleteSql_one made, rest⟩

theorem shows_trashRow (resource : Resource) :
    Shows m d (m.trashRow resource)
      (Bringing (WritesAway d fun f => ∃ now, f = m.trashing d now resource.key)) := by
  refine shows_of_bind (fun _ _ => nofun) fun now _ => ?_
  refine Shows.mono (shows_counted (.inr ⟨resource, rfl⟩) (acts_update nofun)
    (shows_farewell quiet (.trashed resource))) ?_
  rintro outcome xs news shown removed returned
  obtain ⟨w, sent, made, rest⟩ := shown removed returned
  exact ⟨w, sent, ⟨now, updateSql_one made⟩, rest⟩

theorem shows_destroyRow (resource : Resource) :
    Shows m d (m.destroyRow resource) (Bringing (WritesAway d (m.Destroys d resource.key))) := by
  unfold destroyRow Destroys
  split
  · exact shows_trashRow quiet resource
  · exact shows_removeRow quiet resource

omit quiet in
/-- Only a row that is not there is no failure. -/
theorem shows_missing (failure : Failure) : Shows m d (match failure.category with
      | .absent => pure none
      | _ => Session.fail failure : Session (Option Resource)) fun outcome xs news =>
    (xs = [] ∧ news = []) ∧ ∀ found, outcome = .ok found → found = none ∧ ¬ failure.Other := by
  split
  · rename_i absent
    refine shows_pure ⟨⟨rfl, rfl⟩, ?_⟩
    rintro _ ⟨⟩
    exact ⟨rfl, not_not_intro absent⟩
  · exact shows_of ⟨⟨rfl, rfl⟩, nofun⟩

/-- What is looked for by a key is read once, whether it is there or not. -/
theorem shows_ifExists {key : Value} {find : Session Resource} (looks : m.Looks d key find) :
    Shows m d (ifExists find) (Bringing fun found xs news => news = [] ∧ ∃ mode plan x, xs = [x] ∧
      m.keyPlan key mode = .ok plan ∧ plan.fetchSql d = .ok x.statement ∧
      ∀ resource, found = some resource → ∃ data, (x.answer d >>= m.handedOut plan) = .ok data ∧
        resource = ⟨m.schema.name, m.schema.primaryKey, data⟩) := by
  refine Shows.bind (Shows.outcomeOf (Shows.map (looks fun mode =>
    shows_resource quiet (fun failure other => ?_) fun plan x compiled asked => ?_)))
  · refine Shows.mono (shows_missing failure) ?_
    rintro outcome xs news ⟨-, missing⟩ found returned
    exact absurd other (missing found returned).2
  · cases read : x.answer d >>= m.handedOut plan with
    | error failure =>
      refine Shows.mono (shows_missing failure) ?_
      rintro outcome xs news ⟨⟨rfl, rfl⟩, missing⟩ found returned
      refine ⟨rfl, mode, plan, x, rfl, compiled, asked, fun resource there => ?_⟩
      rw [(missing found returned).1] at there
      cases there
    | ok data =>
      refine shows_pure ?_
      rintro _ ⟨⟩
      refine ⟨rfl, mode, plan, x, rfl, compiled, asked, ?_⟩
      rintro _ ⟨⟩
      exact ⟨data, read, rfl⟩

theorem shows_removing {removes : Value → Fragment → Prop} {key : Value} {find : Session Resource}
    {remove : Resource → Session Bool} (looks : m.Looks d key find)
    (removal : ∀ resource, Shows m d (remove resource) (Bringing (WritesAway d (removes resource.key)))) :
    Shows m d (m.removing find remove) (Bringing (m.Removes d removes key)) := by
  refine Shows.bind (Shows.mono (shows_ifExists quiet looks) fun outcome xs news found => ?_)
  cases outcome with
  | error failure => exact nofun
  | ok resource =>
    obtain ⟨rfl, mode, plan, x, rfl, compiled, asked, there⟩ := found resource rfl
    cases resource with
    | none =>
      refine shows_pure ?_
      rintro _ ⟨⟩
      exact ⟨⟨key, x, none⟩, rfl, ⟨mode, plan, compiled, asked, nofun⟩, rfl, rfl, rfl,
        List.forall_mem_nil _⟩
    | some resource =>
      obtain ⟨data, handed, rfl⟩ := there resource rfl
      refine shows_after (hushed.notify quiet.steps _ _ _) (fun _ => nofun) fun _ => ?_
      refine Shows.mono (removal _) fun outcome xs news wrote => ?_
      rintro removed returned
      obtain ⟨w, rfl, made, ⟨answer, came, reached⟩, told⟩ := wrote removed returned
      refine ⟨⟨key, x, some w⟩, rfl, ⟨mode, plan, compiled, asked, ?_⟩, rfl, ?_, told⟩
      · rintro _ ⟨⟩
        exact ⟨data, handed, made⟩
      · rw [reached, Visit.removed]
        simp only [Option.any_some, came]
        rfl

theorem shows_delete (key : Value) :
    Shows m d (m.delete key) (Bringing (m.Removes d (m.Destroys d) key)) :=
  shows_tracked quiet (shows_removing quiet (looks_visible key) (shows_destroyRow quiet))

theorem shows_hardDelete (key : Value) :
    Shows m d (m.hardDelete key) (Bringing (m.Removes d (fun key f => f = m.deletion d key) key)) :=
  shows_tracked quiet (shows_removing quiet (looks_resource key .include_) (shows_removeRow quiet))

/-! ## All of them -/

omit quiet

/-- Removals one by one: a visit for each key in order, of which as many removed a row as are counted
and told of. -/
theorem shows_removeEach {removes : Value → Fragment → Prop} {remove : Value → Session Bool}
    (each : ∀ key, Shows m d (remove key) (Bringing (m.Removes d removes key))) (keys : List Value) :
    Shows m d (removeEach remove keys) (Bringing fun n xs news => ∃ visits : List Visit,
      visits.map (·.key) = keys ∧ (∀ visit ∈ visits, m.Visits d removes visit) ∧
      xs = visits.flatMap Visit.exchanges ∧ n = visits.countP (Visit.removed d) ∧
      news.length = n ∧ ∀ told ∈ news, Farewell told) := by
  induction keys with
  | nil =>
    refine shows_pure ?_
    rintro _ ⟨⟩
    exact ⟨[], rfl, List.forall_mem_nil _, rfl, rfl, rfl, List.forall_mem_nil _⟩
  | cons key rest ih =>
    refine Shows.bind (Shows.mono (each key) fun outcome xs news first => ?_)
    cases outcome with
    | error failure => exact nofun
    | ok removed =>
      obtain ⟨visit, rfl, visited, rfl, here, told, farewells⟩ := first removed rfl
      refine Shows.bind (Shows.mono ih fun outcome ys more others => ?_)
      cases outcome with
      | error failure => exact nofun
      | ok n =>
        obtain ⟨visits, keys, all, rfl, count, later, rest_farewells⟩ := others n rfl
        refine shows_pure ?_
        rintro _ ⟨⟩
        refine ⟨visit :: visits, congrArg (visit.key :: ·) keys, List.forall_mem_cons.mpr ⟨visited, all⟩,
          ?_, ?_, ?_, ?_⟩
        · simp
        · rw [List.countP_cons, ← here, ← count]
          cases removed <;> rfl
        · rw [List.append_nil, List.length_append, told, later]
          cases removed <;> simp [Nat.add_comm]
        · rw [List.append_nil]
          exact List.forall_mem_append.mpr ⟨farewells, rest_farewells⟩

/-- The keys are listed by one selection. -/
theorem shows_keysBefore (name : String) (before : Value) :
    Shows m d (m.keysBefore name before) (Bringing fun keys xs news =>
      news = [] ∧ ∃ x : Exchange, xs = [x] ∧ x.statement.Selects ∧ (x.answer d >>= fun answer =>
        answer.rows.mapM fun row => Session.columnValue row m.schema.primaryKey) = .ok keys) := by
  unfold keysBefore Model.rows rowsOf narrowed Session.fetch Session.select
  simp only [bind_assoc, pure_bind]
  refine shows_dialect_bind (shows_of_bind (fun _ _ => nofun) fun s _ => ?_)
  refine shows_of_bind (fun _ _ => nofun) fun s _ => ?_
  refine shows_of_bind (fun _ _ => nofun) fun limit _ => ?_
  refine shows_of_bind (fun _ _ => nofun) fun s _ => ?_
  refine shows_of_bind (fun _ _ => nofun) fun f made => ?_
  refine Shows.bind (shows_execute (fun _ _ => nofun) fun reply => ?_)
  cases came : (Exchange.mk f reply).answer d with
  | error failure => exact nofun
  | ok answer =>
    refine shows_of fun keys listed => ?_
    refine ⟨rfl, ⟨f, reply⟩, rfl, Select.selects_of_toSql made, ?_⟩
    rw [came, ok_bind]
    exact listed

/-- Clearing away that returned: the keys were listed by one selection, each of them was visited once,
in order, and as many rows were removed as were counted and told of. -/
structure ClearedAway (m : Model) (d : Dialect) (removes : Value → Fragment → Prop) (n : Nat)
    (xs : List Exchange) (news : List News) (x : Exchange) (visits : List Visit) : Prop where
  sent : xs = x :: visits.flatMap Visit.exchanges
  selects : x.statement.Selects
  listed : (x.answer d >>= fun answer =>
    answer.rows.mapM fun row => Session.columnValue row m.schema.primaryKey) =
      .ok (visits.map (·.key))
  visited : ∀ visit ∈ visits, m.Visits d removes visit
  unseen : ∀ visit ∈ visits, ∀ answer, visit.fetch.answer d = .ok answer → answer.rows = [] →
    visit.write = none
  counted : n = visits.countP (Visit.removed d)
  announced : news.length = n
  farewells : ∀ told ∈ news, Farewell told

theorem shows_clearing (quiet : m.Quiet) {removes : Value → Fragment → Prop}
    {remove : Value → Session Bool} (name : String) (before : Value) (message : Nat → String)
    (each : ∀ key, Shows m d (remove key) (Bringing (m.Removes d removes key))) :
    Shows m d (m.tracked do
      let keys ← m.keysBefore name before
      let removed ← removeEach remove keys
      Session.log .info (message removed)
      pure removed) (Bringing fun n xs news => ∃ x visits, m.ClearedAway d removes n xs news x visits) := by
  refine shows_tracked quiet (Shows.bind (Shows.mono (shows_keysBefore name before) ?_))
  intro outcome xs news listed
  cases outcome with
  | error failure => exact nofun
  | ok keys =>
    obtain ⟨rfl, x, rfl, selects, listed⟩ := listed keys rfl
    refine Shows.bind (Shows.mono (shows_removeEach each _) fun outcome ys more removed => ?_)
    cases outcome with
    | error failure => exact nofun
    | ok n =>
      obtain ⟨visits, rfl, visited, rfl, count, told, farewells⟩ := removed n rfl
      refine shows_log_bind (hushed.info (message n)) (shows_pure ?_)
      rintro _ ⟨⟩
      rw [List.append_nil, List.append_nil, List.nil_append]
      exact ⟨x, visits, rfl, selects, listed, visited, fun visit member answer answered none =>
        (visited visit member).unwritten answered none, count, told, farewells⟩

end

end Model

/-- A purge or a pruning that returns has counted what it removed.  Its exchanges are the selection of
the keys and then one visit for each key in order; what it returns is the number of visits whose write
reached a row, and the number of the events it emitted, all of them about rows that are gone. -/
theorem Model.clearing_counts_removals {m : Model} (quiet : m.Quiet) (before : Value)
    (s : SessionState) :
    let d := s.database.dialect
    (∀ n, (m.purgeTrashed before s).outcome = .ok n → ∃ deeds x visits,
      let ran := m.purgeTrashed before s
      m.Did s deeds ran.entries ran.state ∧
      statements ran.entries = (sents deeds).map (·.statement) ∧
      m.ClearedAway d (fun key f => f = m.deletion d key) n (sents deeds) (told deeds) x visits) ∧
    ∀ n, (m.prune before s).outcome = .ok n → ∃ deeds x visits,
      let ran := m.prune before s
      m.Did s deeds ran.entries ran.state ∧
      statements ran.entries = (sents deeds).map (·.statement) ∧
      m.ClearedAway d (m.Destroys d) n (sents deeds) (told deeds) x visits := by
  intro d
  have purges := shows_clearing (d := d) quiet m.schema.deletedAtColumn before
    (fun purged => s!"Purged {purged} trashed " ++ m.schema.name.text ++ " row(s)")
    (shows_hardDelete quiet)
  have prunes := shows_clearing (d := d) quiet m.schema.pruneColumn before
    (fun pruned => s!"Pruned {pruned} " ++ m.schema.name.text ++ " row(s)")
    (shows_delete quiet)
  refine ⟨fun n returned => ?_, fun n returned => ?_⟩
  · obtain ⟨-, deeds, did, shown⟩ := purges s rfl
    obtain ⟨x, visits, cleared⟩ := shown n returned
    exact ⟨deeds, x, visits, did, did.statements_eq quiet, cleared⟩
  · obtain ⟨-, deeds, did, shown⟩ := prunes s rfl
    obtain ⟨x, visits, cleared⟩ := shown n returned
    exact ⟨deeds, x, visits, did, did.statements_eq quiet, cleared⟩

namespace Sample

/-- Two trashed folders are listed, one of them twice: it is deleted at its first visit, its second
deletion reaches no row, and the other one is gone when it is visited. -/
def purgingState : SessionState :=
  let work : Record := [("id", .int 1), ("name", .str "work"), ("parent_id", .null)]
  pageState [rowsReply [[("id", .int 1)], [("id", .int 2)], [("id", .int 1)]],
    rowsReply [work], writtenReply 1, rowsReply [], rowsReply [work], .answered .empty]

theorem purged_folders_counted :
    folderModel.Quiet ∧ (folderModel.purgeTrashed .null purgingState).outcome = .ok 1 ∧
    ∃ deeds x visits,
      let ran := folderModel.purgeTrashed .null purgingState
      folderModel.Did purgingState deeds ran.entries ran.state ∧
      statements ran.entries = (sents deeds).map (·.statement) ∧
      folderModel.ClearedAway .sqlite (fun key f => f = folderModel.deletion .sqlite key) 1 (sents deeds)
        (told deeds) x visits := by
  have counted : (folderModel.purgeTrashed .null purgingState).outcome.toOption = some 1 := by
    decide +kernel
  have returned : (folderModel.purgeTrashed .null purgingState).outcome = .ok 1 := by
    cases came : (folderModel.purgeTrashed .null purgingState).outcome with
    | error failure =>
      rw [came] at counted
      cases counted
    | ok n =>
      rw [came] at counted
      cases counted
      rfl
  exact ⟨folder_quiet, returned,
    (Model.clearing_counts_removals folder_quiet .null purgingState).1 1 returned⟩

end Sample

end Curator
