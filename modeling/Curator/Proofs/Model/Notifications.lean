import Curator.Proofs.Event.Announced
import Curator.Proofs.Model.Pages
import Curator.Proofs.Model.Parts
/-!
# Events follow committed writes

An operation emits an event only behind the committed write that the event is about, with nothing but
reading in between, and only after all hooks behind this write have returned.
-/

set_option autoImplicit false

namespace Curator

open Sql Outcome Session

namespace Model

variable {m : Model} {d : Dialect} (quiet : m.Quiet)

/-- Deeds of a write: one statement, or none if the work failed before.  Where the work returns, `P`
holds of its result and the exchange. -/
def WritesOnce {α : Type} (P : α → Exchange → Prop) (outcome : Except Failure α)
    (deeds : List Deed) : Prop :=
  (deeds = [] ∧ ∀ a, outcome ≠ .ok a) ∨
    ∃ x, deeds = [.sent x] ∧ ∀ a, outcome = .ok a → P a x

/-- Deeds of a write that returns a number of rows: it was answered with this number. -/
abbrev WritesRows (d : Dialect) (wrote : Fragment → Prop) : Except Failure Int → List Deed → Prop :=
  WritesOnce fun n x => wrote x.statement ∧ ∃ answer, x.answer d = .ok answer ∧ n = answer.count

theorem acts_counting {work : Session Int} (wrote : Fragment → Prop)
    (judged : ∀ {Q : Except Failure Int → List Exchange → Prop},
      (∀ failure, Q (.error failure) []) →
      (∀ f, wrote f → ∀ reply, Q ((Exchange.mk f reply).answer d >>= fun a => .ok a.count)
        [⟨f, reply⟩]) →
      Acts m d work fun outcome deeds => ∃ xs, deeds = List.map Deed.sent xs ∧ Q outcome xs) :
    Acts m d work (WritesRows d wrote) := by
  refine (judged (Q := fun outcome xs => (xs = [] ∧ ∀ n, outcome ≠ .ok n) ∨ ∃ x, xs = [x] ∧
    ∀ n, outcome = .ok n → wrote x.statement ∧ ∃ answer, x.answer d = .ok answer ∧
      n = answer.count) ?_ ?_).mono ?_
  · exact fun failure => Or.inl ⟨rfl, nofun⟩
  · intro f made reply
    refine Or.inr ⟨_, rfl, fun n returned => ⟨made, ?_⟩⟩
    obtain ⟨answer, came, same⟩ := bind_ok returned
    cases same
    exact ⟨answer, came, rfl⟩
  · rintro outcome deeds ⟨xs, rfl, ⟨rfl, failed⟩ | ⟨x, rfl, holds⟩⟩
    · exact Or.inl ⟨rfl, failed⟩
    · exact Or.inr ⟨x, rfl, holds⟩

theorem acts_update {table : String} {values conditions : Record} (some_value : values ≠ []) :
    Acts m d (Session.update table values conditions)
      (WritesRows d fun f => updateSql d table values conditions = .ok f) :=
  acts_counting _ fun fails sends =>
    acts_judges.update (fun none => absurd none some_value) fails fun f _ made => sends f made

theorem acts_deletion {table : String} {conditions : Record} :
    Acts m d (Session.delete table conditions)
      (WritesRows d fun f => deleteSql d table conditions = .ok f) :=
  acts_counting _ fun fails sends => acts_judges.delete fails sends

include quiet

/-- Work that reads a row again behind a write and makes the news of it known. -/
theorem acts_announcing {key : Value} (news : Resource → News)
    {next : Resource → Session Resource}
    (goes : ∀ resource, Acts m d (next resource) fun _ deeds =>
      Concludes (news resource) (news resource).hooks deeds) :
    Acts m d (m.resource key .include_ >>= next) fun _ deeds =>
      ∃ resource, Concludes (news resource) (news resource).hooks deeds := by
  have fetched : Acts m d (m.resource key .include_) (Only Deed.Calm) :=
    calmly.resource quiet.steps key .include_
  refine acts_calm_bind fetched (fun deeds calm => ?_) fun resource deeds calm => ?_
  · exact ⟨⟨m.schema.name, m.schema.primaryKey, []⟩, Or.inl calm⟩
  · exact (goes resource).mono fun _ _ concludes => ⟨resource, concludes.behind_calm calm⟩

/-! ### Creating and updating -/

theorem acts_concludedNew (row : Record) :
    Acts m d (m.concludedNew row) fun _ deeds =>
      ∃ resource, Concludes (.created resource) (News.created resource).hooks deeds := by
  refine acts_calm_bind (calmly.writtenKey m row) (fun deeds calm => ?_) fun key deeds calm => ?_
  · exact ⟨⟨m.schema.name, m.schema.primaryKey, []⟩, Or.inl calm⟩
  · refine Acts.mono (acts_announcing quiet News.created fun resource => ?_)
      fun _ _ ⟨resource, concludes⟩ => ⟨resource, concludes.behind_calm calm⟩
    refine acts_notify_bind quiet (acts_notify_bind quiet ?_)
    exact acts_concluding (calmly.info _) fun _ => acts_emit_last (.created resource)

theorem acts_concludedChange (key : Value) (existing : Resource) (values : Record) :
    Acts m d (m.concludedChange key existing values) fun _ deeds =>
      ∃ resource, Concludes (.updated resource existing values)
        (News.updated resource existing values).hooks deeds := by
  refine acts_announcing quiet (fun resource => .updated resource existing values)
    fun resource => ?_
  refine acts_notify_bind quiet (acts_notify_bind quiet ?_)
  exact acts_concluding (calmly.info _) fun _ =>
    acts_emit_last (.updated resource existing values)

/-- What is told of a row that is gone. -/
theorem acts_farewell (message : String) (news : News) {point : HookPoint} {record : Record}
    (hooks : news.hooks = [(point, record, none)]) :
    Acts m d (do
      Session.log .info message
      m.notify point record none
      Session.emit news.event news.payload
      pure true) fun _ deeds => Concludes news news.hooks deeds := by
  rw [hooks]
  refine acts_concluding (calmly.info _) fun _ => ?_
  exact acts_notify_bind quiet (acts_emit_last news)

theorem acts_removing {S : List Deed → Prop} (absorbs : Absorbs S) {found : Session Resource}
    {remove : Resource → Session Bool} (finds : Acts m d found (Only Deed.Calm))
    (removes : ∀ resource, Acts m d (remove resource) fun _ deeds => S deeds) :
    Acts m d (m.removing found remove) fun _ deeds => S deeds := by
  have tries : Acts m d (ifExists found) (Only Deed.Calm) := by
    refine calmly.rescue (calmly.map finds some) fun failure => ?_
    split
    · exact calmly.pure _
    · exact calmly.fail _
  refine absorbs.acts_bind tries fun resource => ?_
  cases resource with
  | none => exact acts_pure (absorbs.calm (List.forall_mem_nil _))
  | some resource =>
    exact absorbs.acts_bind (calmly.notify quiet.steps _ _ _) fun _ => removes resource

omit quiet in
/-- A property of deeds that two runs hand on to both together holds of all removals in a row. -/
theorem acts_removeEach {S : List Deed → Prop} (nothing : S [])
    (joins : ∀ {deeds more}, S deeds → S more → S (deeds ++ more)) {remove : Value → Session Bool}
    (removes : ∀ key, Acts m d (remove key) fun _ deeds => S deeds) (keys : List Value) :
    Acts m d (removeEach remove keys) fun _ deeds => S deeds := by
  -- each removal has written before it emits, whatever the ones before it did
  induction keys with
  | nil => exact acts_pure nothing
  | cons key rest ih =>
    refine Acts.bind ((removes key).mono fun outcome deeds held => ?_)
    cases outcome with
    | error failure => exact held
    | ok removed =>
      refine Acts.bind (ih.mono fun outcome more others => ?_)
      have both : S (deeds ++ more) := joins held others
      cases outcome with
      | error failure => exact both
      | ok n =>
        refine acts_pure ?_
        rw [List.append_nil]
        exact both

theorem acts_clearing {S : List Deed → Prop} (absorbs : Absorbs S)
    (joins : ∀ {deeds more}, S deeds → S more → S (deeds ++ more)) {keys : Session (List Value)}
    {remove : Value → Session Bool} (message : Nat → String)
    (listed : Acts m d keys (Only Deed.Calm))
    (removes : ∀ key, Acts m d (remove key) fun _ deeds => S deeds) :
    Acts m d (m.tracked do
      let keys ← keys
      let removed ← removeEach remove keys
      Session.log .info (message removed)
      pure removed) fun _ deeds => S deeds := by
  refine absorbs.acts_tracked quiet (absorbs.acts_bind listed fun keys => ?_)
  have each := acts_removeEach (absorbs.calm (List.forall_mem_nil _)) joins removes keys
  refine Acts.bind (each.mono fun outcome deeds held => ?_)
  cases outcome with
  | error failure => exact held
  | ok n =>
    have logged : Acts m d (do Session.log .info (message n); pure n) (Only Deed.Calm) :=
      calmly.bind (calmly.info _) fun _ => calmly.pure n
    exact logged.mono fun _ _ calm => absorbs.before held calm

/-! ### Calls -/

/-- An upsert does the deeds of the create that it marks. -/
theorem acts_upserting {S : List Deed → Prop} (absorbs : Absorbs S) {fields : Record}
    (creates : Acts m d (m.create fields) fun _ deeds => S deeds) :
    Acts m d (m.upsert fields) fun _ deeds => S deeds := by
  refine absorbs.acts_tracked quiet ?_
  have rescued : Acts m d (Session.rescue (m.create fields) fun failure =>
      Session.fail (upsertFailure failure)) fun _ deeds => S deeds := by
    refine Acts.bind (Acts.outcomeOf (creates.mono fun outcome deeds held => ?_))
    cases outcome with
    | error failure =>
      refine acts_fail ?_
      rw [List.append_nil]
      exact held
    | ok resource =>
      refine acts_pure ?_
      rw [List.append_nil]
      exact held
  refine Acts.bind (acts_unseen fun s => ⟨.ok s.model, _, _, ?_, rfl⟩)
  exact Acts.bind (acts_unseen fun s => ⟨.ok (), _, _, rescued, rfl⟩)

end Model

namespace Sample

/-- A page is read and then deleted, while a listener waits for deleted pages. -/
def deletingState : SessionState :=
  let home : Record := [("id", .int 1), ("slug", .str "home"), ("parent_id", .null)]
  { pageState [rowsReply [home], writtenReply 1] with
    bus := EventBus.empty.subscribe "resource.delete" "index" 0 [] }

def deletion : Ran Answer := (pageModel []).call [] (.delete (.int 1)) deletingState

end Sample

end Curator
