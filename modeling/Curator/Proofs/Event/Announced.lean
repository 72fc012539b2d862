import Curator.Proofs.Event.Deeds
/-!
# Announced events

When an event stands in its place among deeds: behind the committed write that it is about, with nothing
but calm deeds since, and with all hooks behind this write returned.
-/

set_option autoImplicit false

namespace Curator

open Sql Outcome Session

/-! ## Writes and news -/

namespace News

/-- The runs of hooks that come between a write and the news of it. -/
def hooks : News → List (HookPoint × Record × Option Record)
  | created resource => [(.afterCreate, resource.data, none), (.afterWrite, resource.data, none)]
  | updated resource existing _ =>
    [(.afterUpdate, resource.data, some existing.data), (.afterWrite, resource.data, none)]
  | deleted resource => [(.afterDelete, resource.data, none)]
  | trashed resource => [(.afterTrash, resource.data, none)]
  | restored resource => [(.afterRestore, resource.data, none)]

/-- Whether a write that reaches no row is none to tell of. -/
def counts : News → Bool
  | created _ | updated .. => false
  | _ => true

/-- The statement of the write that news are about. -/
def WrittenBy (m : Model) (d : Dialect) (f : Fragment) : News → Prop
  | created _ => ∃ row onConflict,
    insertion d m.schema.table row onConflict (some m.schema.primaryKey) = .ok f
  | updated _ _ values => values ≠ [] ∧ ∃ key,
    updateSql d m.schema.table values [(m.schema.primaryKey, key)] = .ok f
  | deleted resource => deleteSql d m.schema.table [(m.schema.primaryKey, resource.key)] = .ok f
  | trashed resource => ∃ now, updateSql d m.schema.table
    [(m.schema.deletedAtColumn, .str now)] [(m.schema.primaryKey, resource.key)] = .ok f
  | restored _ => ∃ key, updateSql d m.schema.table [(m.schema.deletedAtColumn, .null)]
    [(m.schema.primaryKey, key)] = .ok f

/-- An exchange is the committed write that news are about. -/
def Committed (m : Model) (d : Dialect) (news : News) (x : Exchange) : Prop :=
  news.WrittenBy m d x.statement ∧ ∃ answer, x.answer d = .ok answer ∧
    (news.counts = true → answer.count ≠ 0)

/-- The hooks behind a write have all returned. -/
def Heard (news : News) (deeds : List Deed) : Prop :=
  ∀ point record previous, (point, record, previous) ∈ news.hooks →
    Deed.notified point record previous true ∈ deeds

/-- The write that news are about has been committed, its hooks have returned since, and nothing else
has been written or emitted since. -/
def Follows (m : Model) (d : Dialect) (before : List Deed) (news : News) : Prop :=
  ∃ earlier x since, before = earlier ++ .sent x :: since ∧ news.Committed m d x ∧
    (∀ deed ∈ since, deed.Calm) ∧ news.Heard since

/-- An update had no values to write: nothing has been written or emitted at all, and the hooks have
returned all the same. -/
def Unwritten (before : List Deed) (news : News) : Prop :=
  (∃ resource existing, news = .updated resource existing []) ∧ (∀ deed ∈ before, deed.Calm) ∧
    news.Heard before

end News

/-- Before every event that is emitted, the deeds are as `P` says. -/
def Announced (P : List Deed → News → Prop) (deeds : List Deed) : Prop :=
  ∀ before news after, deeds = before ++ .emitted news :: after → P before news

/-- Every event follows a write of its own. -/
abbrev Model.Strict (m : Model) (d : Dialect) : List Deed → Prop :=
  Announced (News.Follows m d)

/-- Every event follows a write of its own, but for that of an update without values. -/
abbrev Model.Orderly (m : Model) (d : Dialect) : List Deed → Prop :=
  Announced fun before news => news.Follows m d before ∨ news.Unwritten before

section

variable {m : Model} {d : Dialect} {P : List Deed → News → Prop} {deeds more since : List Deed}
  {news : News} {x : Exchange}

theorem split_append {deed : Deed} {before after : List Deed}
    (split : deeds ++ more = before ++ deed :: after) :
    (∃ rest, before = deeds ++ rest ∧ more = rest ++ deed :: after) ∨
      ∃ rest, deeds = before ++ deed :: rest ∧ after = rest ++ more := by
  rcases List.append_eq_append_iff.mp split with ⟨rest, early, late⟩ | ⟨rest, early, late⟩
  · exact Or.inl ⟨rest, early, late⟩
  · cases rest with
    | nil =>
      rw [List.append_nil] at early
      refine Or.inl ⟨[], ?_, late.symm⟩
      rw [early, List.append_nil]
    | cons first others =>
      obtain ⟨rfl, rfl⟩ := List.cons.inj late
      exact Or.inr ⟨others, early, rfl⟩

theorem announced_of_mute (mute : ∀ deed ∈ deeds, ¬ deed.Emits) : Announced P deeds := by
  intro before news after split
  have member : Deed.emitted news ∈ deeds := by
    rw [split]
    exact List.mem_append_right before List.mem_cons_self
  exact absurd trivial (mute _ member)

theorem mute_of_calm (calm : ∀ deed ∈ deeds, deed.Calm) : ∀ deed ∈ deeds, ¬ deed.Emits :=
  fun deed member => (calm deed member).emits_nothing

theorem Announced.append (first : Announced P deeds) (second : Announced P more)
    (extends_ : ∀ before news, P before news → P (deeds ++ before) news) :
    Announced P (deeds ++ more) := by
  intro before news after split
  rcases split_append split with ⟨rest, rfl, late⟩ | ⟨rest, early, _⟩
  · exact extends_ rest news (second rest news after late)
  · exact first before news rest early

/-- An event at the end of deeds is announced if it is so at this place. -/
theorem announced_at_end (mute : ∀ deed ∈ deeds, ¬ deed.Emits) (holds : P deeds news) :
    Announced P (deeds ++ [.emitted news]) := by
  intro before other after split
  rcases split_append split with ⟨rest, rfl, late⟩ | ⟨rest, early, _⟩
  · cases rest with
    | nil =>
      cases (List.cons.inj late).1
      rw [List.append_nil]
      exact holds
    | cons first others => exact nomatch (List.append_eq_nil_iff.mp (List.cons.inj late).2.symm).2
  · exact announced_of_mute mute before other rest early

/-- A property of deeds to which calm deeds make no difference. -/
structure Absorbs (S : List Deed → Prop) : Prop where
  calm : ∀ {deeds}, (∀ deed ∈ deeds, Deed.Calm deed) → S deeds
  behind : ∀ {deeds more}, S more → (∀ deed ∈ deeds, Deed.Calm deed) → S (deeds ++ more)
  before : ∀ {deeds more}, S deeds → (∀ deed ∈ more, Deed.Calm deed) → S (deeds ++ more)

theorem News.Follows.extend (follows : news.Follows m d more) (deeds : List Deed) :
    news.Follows m d (deeds ++ more) := by
  obtain ⟨earlier, x, since, rfl, committed, calm, heard⟩ := follows
  exact ⟨deeds ++ earlier, x, since, (List.append_assoc _ _ _).symm, committed, calm, heard⟩

theorem Model.Strict.append (first : m.Strict d deeds) (second : m.Strict d more) :
    m.Strict d (deeds ++ more) :=
  Announced.append first second fun _ _ follows => follows.extend deeds

end

/-! ## Behind a write -/

/-- Deeds behind a write that make its news known in time: they are calm and end in the event, if they
come to it, and the given runs of hooks return before. -/
def Concludes (news : News) (runs : List (HookPoint × Record × Option Record))
    (deeds : List Deed) : Prop :=
  (∀ deed ∈ deeds, deed.Calm) ∨ ∃ since, deeds = since ++ [.emitted news] ∧
    (∀ deed ∈ since, deed.Calm) ∧ ∀ point record previous, (point, record, previous) ∈ runs →
      Deed.notified point record previous true ∈ since

section

variable {m : Model} {d : Dialect} {news : News} {deeds more before : List Deed} {x : Exchange}
  {runs : List (HookPoint × Record × Option Record)} {α β : Type}

theorem Concludes.behind_calm (concludes : Concludes news runs more)
    (calm : ∀ deed ∈ deeds, deed.Calm) : Concludes news runs (deeds ++ more) := by
  rcases concludes with all | ⟨since, rfl, still, heard⟩
  · exact Or.inl (List.forall_mem_append.mpr ⟨calm, all⟩)
  · refine Or.inr ⟨deeds ++ since, (List.append_assoc _ _ _).symm, ?_, ?_⟩
    · exact List.forall_mem_append.mpr ⟨calm, still⟩
    · intro point record previous run
      exact List.mem_append_right deeds (heard point record previous run)

theorem Concludes.notified {point : HookPoint} {record : Record} {previous : Option Record}
    (concludes : Concludes news runs more) :
    Concludes news ((point, record, previous) :: runs)
      (.notified point record previous true :: more) := by
  rcases concludes with all | ⟨since, rfl, still, heard⟩
  · exact Or.inl (List.forall_mem_cons.mpr ⟨trivial, all⟩)
  · refine Or.inr ⟨.notified point record previous true :: since, rfl, ?_, ?_⟩
    · exact List.forall_mem_cons.mpr ⟨trivial, still⟩
    · intro other row old run
      rcases List.mem_cons.mp run with same | later
      · cases same
        exact List.mem_cons_self
      · exact List.mem_cons_of_mem _ (heard other row old later)

theorem Concludes.emission : Concludes news [] [.emitted news] :=
  Or.inr ⟨[], rfl, List.forall_mem_nil _, nofun⟩

theorem Concludes.strict (concludes : Concludes news news.hooks deeds)
    (committed : news.Committed m d x) : m.Strict d (.sent x :: deeds) := by
  rcases concludes with all | ⟨since, rfl, calm, heard⟩
  · exact announced_of_mute (List.forall_mem_cons.mpr ⟨id, mute_of_calm all⟩)
  · have mute : ∀ deed ∈ Deed.sent x :: since, ¬ deed.Emits :=
      List.forall_mem_cons.mpr ⟨id, mute_of_calm calm⟩
    exact announced_at_end mute ⟨[], x, since, rfl, committed, calm, heard⟩

theorem Concludes.unwritten {resource existing : Resource}
    (concludes : Concludes (.updated resource existing []) (News.updated resource existing []).hooks
      deeds) : m.Orderly d deeds := by
  rcases concludes with all | ⟨since, rfl, calm, heard⟩
  · exact announced_of_mute (mute_of_calm all)
  · exact announced_at_end (mute_of_calm calm) (Or.inr ⟨⟨resource, existing, rfl⟩, calm, heard⟩)

/-! ## Parts of operations -/

/-- Calm work before other work.  What holds of all calm deeds, and of the deeds of the other work with
calm ones in front, holds of both together. -/
theorem acts_calm_bind {first : Session α} {next : α → Session β} {S : List Deed → Prop}
    (calmly : Acts m d first (Only Deed.Calm))
    (stops : ∀ deeds : List Deed, (∀ deed ∈ deeds, deed.Calm) → S deeds)
    (goes : ∀ a deeds, (∀ deed ∈ deeds, Deed.Calm deed) →
      Acts m d (next a) fun _ more => S (deeds ++ more)) :
    Acts m d (first >>= next) fun _ deeds => S deeds := by
  refine Acts.bind (calmly.mono fun outcome deeds calm => ?_)
  cases outcome with
  | error failure => exact stops deeds calm
  | ok a => exact goes a deeds calm

theorem acts_concluding {first : Session α} {next : α → Session β}
    (calmly : Acts m d first (Only Deed.Calm))
    (goes : ∀ a, Acts m d (next a) fun _ more => Concludes news runs more) :
    Acts m d (first >>= next) fun _ deeds => Concludes news runs deeds :=
  acts_calm_bind calmly (fun _ => Or.inl) fun a _ calm =>
    (goes a).mono fun _ _ concludes => concludes.behind_calm calm

theorem acts_notify_bind (quiet : m.Quiet) {point : HookPoint} {record : Record}
    {previous : Option Record} {next : Unit → Session β}
    (goes : Acts m d (next ()) fun _ more => Concludes news runs more) :
    Acts m d (m.notify point record previous >>= next) fun _ deeds =>
      Concludes news ((point, record, previous) :: runs) deeds := by
  refine Acts.bind (acts_notify quiet fun outcome => ?_)
  cases outcome with
  | error failure => exact Or.inl (List.forall_mem_singleton.mpr trivial)
  | ok u => exact goes.mono fun _ _ concludes => concludes.notified

theorem acts_emit_last (news : News) {result : α} :
    Acts m d (do emit news.event news.payload; pure result) fun _ deeds => Concludes news [] deeds := by
  refine Acts.bind (acts_emit news fun outcome => ?_)
  cases outcome with
  | error failure => exact .emission
  | ok u => exact acts_pure .emission

/-- Work as an operation: it is judged as it is within another one, and with the hooks around it
otherwise. -/
theorem acts_outermost {work : Session α} {Q : Except Failure α → List Deed → Prop}
    (within : Acts m d work Q)
    (whole : Acts m d (do
      m.notify .begin [] none
      let result ← work
      m.notify .complete [] none
      pure result) Q) : Acts m d (m.tracked work) Q := by
  intro s speaks
  cases begun : s.model.begun with
  | true =>
    rw [Model.tracked, Model.outermost_begun begun]
    exact within s speaks
  | false =>
    obtain ⟨left, deeds, did, held⟩ := whole (s.inside true) speaks
    simp only [Model.tracked, outermost, begun, Bool.false_eq_true, if_false]
    refine ⟨left, deeds, ?_, held⟩
    have began := Model.Did.unseen s.database.lastId { s.model with begun := true } did
    have ended : ∀ {t : SessionState} {entries : List Entry}, m.Did s deeds entries t →
        m.Did s deeds entries { t with model := .idle } := by
      intro t entries did
      have idle := did.append (.unseen t.database.lastId ModelState.idle (.nothing _))
      rw [List.append_nil, List.append_nil] at idle
      exact idle
    exact ended began

section

variable {S : List Deed → Prop} (absorbs : Absorbs S)

include absorbs

theorem Absorbs.acts_bind {first : Session α} {next : α → Session β}
    (calmly : Acts m d first (Only Deed.Calm)) (goes : ∀ a, Acts m d (next a) fun _ deeds => S deeds) :
    Acts m d (first >>= next) fun _ deeds => S deeds :=
  acts_calm_bind calmly (fun _ => absorbs.calm) fun a _ calm =>
    (goes a).mono fun _ _ held => absorbs.behind held calm

theorem Absorbs.acts_tracked (quiet : m.Quiet) {work : Session α}
    (acts : Acts m d work fun _ deeds => S deeds) :
    Acts m d (m.tracked work) fun _ deeds => S deeds := by
  have notified : ∀ point, Acts m d (m.notify point [] none) (Only Deed.Calm) :=
    fun point => calmly.notify quiet.steps point [] none
  have whole : Acts m d (do
      m.notify .begin [] none
      let result ← work
      m.notify .complete [] none
      pure result) fun _ deeds => S deeds := by
    refine absorbs.acts_bind (notified .begin) fun _ => ?_
    refine Acts.bind (acts.mono fun outcome deeds held => ?_)
    cases outcome with
    | error failure => exact held
    | ok a =>
      have completes : Acts m d (do m.notify .complete [] none; pure a) (Only Deed.Calm) :=
        calmly.bind (notified .complete) fun _ => calmly.pure a
      exact completes.mono fun _ _ calm => absorbs.before held calm
  exact acts_outermost acts whole

end

end

/-!
## Deeds of one kind

Runs all of whose deeds are of one kind: which statements they send, whatever has been sent, said and
heard before, and which events they emit.
-/

/-! ### Statements of deeds -/

/-- If hooks ask for no operations, the statements in the journal are those among the deeds. -/
theorem Model.Did.sends {m : Model} (quiet : m.Quiet) {s t : SessionState} {deeds : List Deed}
    {entries : List Entry} (did : m.Did s deeds entries t) {f : Fragment}
    (member : f ∈ statements entries) : ∃ x, .sent x ∈ deeds ∧ x.statement = f := by
  induction did with
  | nothing s => cases member
  | unseen lastId model _ ih => exact ih member
  | @deed s _ _ _ deed fits _ ih =>
    rw [statements_append] at member
    rcases List.mem_append.mp member with own | others
    · cases deed with
      | sent x =>
        obtain ⟨script, connected, _⟩ := fits
        obtain ⟨recorded, _, _⟩ := ran_returning (execute x.statement) () s
        simp only [Deed.work, recorded, execute_connected connected] at own
        exact ⟨x, List.mem_cons_self, (List.mem_singleton.mp own).symm⟩
      | notified point record previous returned =>
        have unsent : Unsent (m.notify point record previous) :=
          unsent_announces.notify quiet.steps point record previous
        rw [Deed.work, unsent s] at own
        cases own
      | emitted news =>
        have unsent : Unsent (emit news.event news.payload) := unsent_announces.emit _ _
        rw [Deed.work, unsent s] at own
        cases own
      | said entry =>
        have unsent : Unsent (record entry) := unsent_record fits.unsent
        rw [Deed.work, unsent s] at own
        cases own
    · obtain ⟨x, inside, same⟩ := ih others
      exact ⟨x, List.mem_cons_of_mem deed inside, same⟩

/-! ### Runs that do deeds of one kind -/

variable {m : Model} {d : Dialect} {P : Deed → Prop} {news : News}

theorem only_absorbs (calm : ∀ deed : Deed, deed.Calm → P deed) :
    Absorbs fun deeds => ∀ deed ∈ deeds, P deed where
  calm all deed member := calm deed (all deed member)
  behind later before := List.forall_mem_append.mpr ⟨fun deed member => calm deed (before deed member),
    later⟩
  before first after := List.forall_mem_append.mpr ⟨first, fun deed member =>
    calm deed (after deed member)⟩

theorem Concludes.only {runs : List (HookPoint × Record × Option Record)} {deeds : List Deed}
    (concludes : Concludes news runs deeds) (calm : ∀ deed : Deed, deed.Calm → P deed)
    (told : P (.emitted news)) : ∀ deed ∈ deeds, P deed := by
  rcases concludes with all | ⟨since, rfl, still, _⟩
  · exact fun deed member => calm deed (all deed member)
  · exact List.forall_mem_append.mpr
      ⟨fun deed member => calm deed (still deed member), List.forall_mem_singleton.mpr told⟩

namespace Session

/-- Work that sends at most one statement, which is of the kind if it is made. -/
theorem acts_sending {α : Type} {work : Session α} {make : Except Failure Fragment}
    (judged : ∀ {Q : Except Failure α → List Exchange → Prop},
      (∀ outcome, Q outcome []) →
      (∀ f, make = .ok f → ∀ reply outcome, Q outcome [⟨f, reply⟩]) →
      Acts m d work fun outcome deeds => ∃ xs, deeds = List.map Deed.sent xs ∧ Q outcome xs)
    (sends : ∀ x : Exchange, make = .ok x.statement → P (.sent x)) :
    Acts m d work (Only P) := by
  refine (judged (Q := fun _ xs => ∀ x ∈ xs, P (.sent x)) (fun _ => nofun) ?_).mono ?_
  · exact fun f made reply _ => List.forall_mem_singleton.mpr (sends ⟨f, reply⟩ made)
  · rintro outcome deeds ⟨xs, rfl, all⟩
    exact List.forall_mem_map.mpr all

theorem acts_insert_only {table : String} {row : Record} {onConflict : OnConflict}
    {returning : Option String} (sends : ∀ x : Exchange,
      insertion d table row onConflict returning = .ok x.statement → P (.sent x)) :
    Acts m d (insert table row onConflict returning) (Only P) :=
  acts_sending (fun fails goes => acts_judges.insert (fun _ => fails _)
    fun f _ made reply outcome _ => goes f made reply outcome) sends

theorem acts_update_only {table : String} {fields filter : Record} (sends : ∀ x : Exchange,
      updateSql d table fields filter = .ok x.statement → P (.sent x)) :
    Acts m d (update table fields filter) (Only P) :=
  acts_sending (fun fails goes => acts_judges.update (fun _ => fails _) (fun _ => fails _)
    fun f _ made reply => goes f made reply _) sends

theorem acts_delete_only {table : String} {filter : Record} (sends : ∀ x : Exchange,
      deleteSql d table filter = .ok x.statement → P (.sent x)) :
    Acts m d (delete table filter) (Only P) :=
  acts_sending (fun fails goes => acts_judges.delete (fun _ => fails _)
    fun f made reply => goes f made reply _) sends

end Session

end Curator
