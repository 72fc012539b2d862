import Curator.Proofs.Database.Table
import Curator.Proofs.Lifecycle.Calls
import Curator.Proofs.Mapping
import Curator.Proofs.Model.Pages
import Curator.Proofs.Model.Phases
/-!
# Creating without overwriting

A create that is not part of an upsert inserts its row plainly, and only after it has counted the rows
that already have its unique values, as long as the hooks never ask the model for an upsert.
-/

set_option autoImplicit false

namespace Curator

open Sql Outcome Session

namespace Model

/-- An exchange of a step that a hook of the model asks for. -/
def FromHooks (m : Model) (d : Dialect) (x : Exchange) : Prop :=
  ∃ point, ∃ step ∈ m.asked point, ∃ s script, s.Open d script ∧ x ∈ (m.perform step s).sent script

/-- The values with which a create goes into its checks for unique values. -/
def newValues (m : Model) (fields : Record) : Except Failure Record := do
  let mutated ← TransformTable.standard.transformed fields m.schema.mutators
  pure (Mapping.ofPairs (withDefaults m.schema mutated))

/-- A plain insert into the model's table, and before it a count that found nothing for every unique
constraint none of whose columns is null. -/
def InsertsUntaken (m : Model) (d : Dialect) (fields : Record) (checks : List Exchange)
    (f : Fragment) : Prop :=
  (∃ row tail, f = insertText d m.schema.table row tail ∧
    (tail = "" ∨ tail = " RETURNING " ++ quoted m.schema.primaryKey)) ∧
  ∃ values, m.newValues fields = .ok values ∧ ∀ unique ∈ m.schema.unique,
    (∀ name ∈ unique.columns, ((values.value? name).getD .null).isNull = false) →
      ∃ n ≤ 0, Counted d checks m.schema.table (m.uniqueTests values .null unique.columns) n

/-- The exchanges of a create: those before its checks, its checks, those between them and its insert,
the insert, and those after it.  But for the insert they are selections and exchanges of hooks. -/
def Creates (m : Model) (d : Dialect) (fields : Record) (returned : Bool) (xs : List Exchange) :
    Prop :=
  ∃ begun checks readied after, ∃ write : Option Exchange,
    xs = begun ++ (checks ++ (readied ++ (write.toList ++ after))) ∧
    (∀ x ∈ begun ++ (readied ++ after), x.statement.Selects ∨ m.FromHooks d x) ∧
    (∀ x ∈ checks, x.statement.Selects) ∧
    (∀ x ∈ write, m.InsertsUntaken d fields checks x.statement) ∧
    (returned = true → write.isSome = true)

variable {m : Model} {d : Dialect} {fields : Record}

/-! ## One create -/

theorem Untaken.inserts (declared : m.schema.Declared) {mutated row : Record}
    {checks : List Exchange} {f : Fragment}
    (mutates : TransformTable.standard.transformed fields m.schema.mutators = .ok mutated)
    (untaken : m.Untaken d (withDefaults m.schema mutated) [] .null checks)
    (made : insertion d m.schema.table row .fail (some m.schema.primaryKey) = .ok f) :
    m.InsertsUntaken d fields checks f := by
  obtain ⟨tail, returning, text, _⟩ := insertion_ok made
  refine ⟨⟨row, tail, text, ?_⟩, Mapping.ofPairs (withDefaults m.schema mutated), ?_, ?_⟩
  · rcases returning with none | ⟨column, same, asked⟩
    · exact Or.inl none
    · cases same
      exact Or.inr asked
  · simp only [newValues, mutates, ok_bind]
    rfl
  · intro unique member given
    obtain ⟨first, inside⟩ := List.exists_mem_of_ne_nil _ (declared.unique_columns unique member)
    have written : (withDefaults m.schema mutated).has first = true := by
      have held := given first inside
      cases found : (Mapping.ofPairs (withDefaults m.schema mutated)).value? first with
      | none =>
        rw [found] at held
        cases held
      | some value =>
        rcases Mapping.value?_of_overlay found with before | among
        · cases before
        · exact among
    exact untaken unique member (isConcerned_of_given ⟨first, inside, written⟩ given)

/-- What a model sends besides its writes. -/
abbrev Besides (m : Model) (d : Dialect) (x : Exchange) : Prop :=
  x.statement.Selects ∨ m.FromHooks d x

section

variable (steps : ∀ point, ∀ step ∈ m.asked point, Tells d (m.perform step) fun _ _ => True)

include steps

theorem tells_steps :
    ∀ point, ∀ step ∈ m.asked point, Tells d (m.perform step) (Every (m.Besides d)) := by
  intro point step asked s script opened
  refine ⟨(steps point step asked s script opened).1, fun x member => Or.inr ?_⟩
  exact ⟨point, step, asked, s, script, opened, member⟩

theorem tells_createRow (declared : m.schema.Declared) (fields : Record) :
    Tells d (m.createRow fields) fun outcome xs => m.Creates d fields outcome.isOk xs := by
  have besides := tells_steps steps
  rw [createRow_eq]
  have checked := (checkedNew_reads selecting fields).and (tells_checkedNew (m := m) (d := d) fields)
  refine Tells.bind (checked.mono fun outcome checks checked => ?_)
  cases outcome with
  | error failure => exact ⟨[], checks, [], [], none, by simp, nofun, checked.1, nofun, nofun⟩
  | ok values =>
    obtain ⟨⟨mutated, mutates, rfl⟩, untaken, _⟩ := checked.2 values rfl
    refine Tells.bind ((readiedNew_closed closed_every besides _).mono fun outcome readied hooks => ?_)
    -- a create that ends before its insert has sent nothing after it
    have between : ∀ x ∈ readied ++ [], m.Besides d x := by
      rw [List.append_nil]
      exact hooks
    cases outcome with
    | error failure =>
      exact ⟨[], checks, readied, [], none, by simp, between, checked.1, nofun, nofun⟩
    | ok row =>
      refine tells_log_bind (Tells.bind (tells_insertRow (fun failure => ?_)
        fun x _ made outcome => ?_))
      · exact ⟨[], checks, readied, [], none, by simp, between, checked.1, nofun, nofun⟩
      · have plain : ∀ y ∈ some x, m.InsertsUntaken d fields checks y.statement := by
          intro y same
          cases same
          exact untaken.inserts declared mutates made
        cases outcome with
        | error failure =>
          exact ⟨[], checks, readied, [], some x, by simp, between, checked.1, plain, nofun⟩
        | ok u =>
          have reads := reads_every (d := d) (P := m.Besides d) fun _ selects => Or.inl selects
          refine (concludedNew_reads reads announces_every besides row).mono fun outcome after last => ?_
          have around : ∀ x ∈ readied ++ after, m.Besides d x :=
            List.forall_mem_append.mpr ⟨hooks, last⟩
          exact ⟨[], checks, readied, after, some x, by simp, around, checked.1, plain, fun _ => rfl⟩

omit steps in
/-- What is sent around a create. -/
theorem Creates.surround {returned ended : Bool} {xs before after : List Exchange}
    (creates : m.Creates d fields returned xs) (besides : ∀ x ∈ before ++ after, m.Besides d x)
    (only : ended = true → returned = true) :
    m.Creates d fields ended (before ++ (xs ++ after)) := by
  obtain ⟨begun, checks, readied, last, write, rfl, others, selects, plain, wrote⟩ := creates
  refine ⟨before ++ begun, checks, readied, last ++ after, write, ?_, ?_, selects, plain,
    fun came => wrote (only came)⟩
  · simp only [List.append_assoc]
  · obtain ⟨first, final⟩ := List.forall_mem_append.mp besides
    obtain ⟨middle, rest⟩ := List.forall_mem_append.mp others
    obtain ⟨ready, ends⟩ := List.forall_mem_append.mp rest
    simp only [List.forall_mem_append]
    exact ⟨⟨first, middle⟩, ready, ends, final⟩

omit steps in
theorem every_between {P : Exchange → Prop} {α : Type} {outcome : Except Failure α}
    {before xs after : List Exchange} (around : ∀ x ∈ before ++ after, P x)
    (only : Every P outcome xs) {ended : Except Failure α} :
    Every P ended (before ++ (xs ++ after)) := by
  obtain ⟨first, last⟩ := List.forall_mem_append.mp around
  exact List.forall_mem_append.mpr ⟨first, List.forall_mem_append.mpr ⟨only, last⟩⟩

omit steps in
/-- A create that was not come to. -/
theorem creates_none {xs : List Exchange} (besides : ∀ x ∈ xs, m.Besides d x) :
    m.Creates d fields false xs :=
  ⟨xs, [], [], [], none, by simp, by simpa using besides, nofun, nofun, nofun⟩

theorem tells_create (declared : m.schema.Declared) (fields : Record) :
    Tells d (m.create fields) fun outcome xs => m.Creates d fields outcome.isOk xs := by
  have besides := tells_steps steps
  have notified := fun point => closed_every.notify besides point [] none
  refine tells_tracked (notified .begin) (notified .complete) (tells_createRow steps declared fields)
    (fun _ _ only => creates_none only) ?_ ?_
  · exact fun _ _ _ _ around creates => creates.surround around id
  · exact fun _ _ _ _ _ around creates => creates.surround around fun _ => rfl

theorem tells_replicate (declared : m.schema.Declared) (key : Value) (overrides : Record) :
    Tells d (m.replicate key overrides) fun outcome xs =>
      ∃ copied, m.Creates d (Mapping.overlay copied overrides) outcome.isOk xs := by
  have besides := tells_steps steps
  have reads : Reads fun work => Tells d work (Every (m.Besides d)) :=
    reads_every fun _ selects => Or.inl selects
  have notified := fun point => reads.notify besides point [] none
  have found : Tells d (m.tracked (m.readRow key [])) (Every (m.Besides d)) := by
    refine tells_tracked (notified .begin) (notified .complete) (reads.readRow besides key [])
      (fun _ _ only => only) ?_ ?_
    · exact fun _ _ _ _ around only => every_between around only
    · exact fun _ _ _ _ _ around only => every_between around only
  have copies : Tells d (do
      Session.of (m.schema.checkWrite .create overrides)
      let existing ← m.tracked (m.readRow key [])
      let copied := existing.filter fun entry => m.schema.isWritable entry.1
      m.create (Mapping.overlay copied overrides)) fun outcome xs =>
        ∃ copied, m.Creates d (Mapping.overlay copied overrides) outcome.isOk xs := by
    refine tells_of_bind (fun _ _ => ⟨[], creates_none nofun⟩) fun _ _ => ?_
    refine Tells.bind (found.mono fun outcome read only => ?_)
    cases outcome with
    | error failure => exact ⟨[], creates_none only⟩
    | ok existing =>
      let copied : Record := existing.filter fun entry => m.schema.isWritable entry.1
      refine (tells_create steps declared _).mono fun outcome xs creates => ⟨copied, ?_⟩
      have around : ∀ x ∈ read ++ [], m.Besides d x := by
        rw [List.append_nil]
        exact only
      have sent := creates.surround around id
      rw [List.append_nil] at sent
      exact sent
  refine tells_tracked (notified .begin) (notified .complete) copies
    (fun _ _ only => ⟨[], creates_none only⟩) ?_ ?_
  · rintro outcome begun xs completed around ⟨copied, creates⟩
    exact ⟨copied, creates.surround around id⟩
  · rintro a failure begun xs completed around ⟨copied, creates⟩
    exact ⟨copied, creates.surround around fun _ => rfl⟩

end

/-! ## Whole runs -/

/-- An upsert that is called from outside leaves an idle model. -/
theorem upsert_idle (m : Model) (questions : List CollectionCall) {c : Call} {s : SessionState}
    (upserts : c.upserts = true) (outside : s.model.begun = false) :
    ((m.call questions c) s).state.model = .idle := by
  cases c with
  | upsert fields =>
    unfold Model.call
    rw [map_state]
    exact tracked_leaves_idle outside
  | _ => cases upserts

end Model

open Model

/-- Creates never overwrite, as long as the hooks of a model never ask it for an upsert.  A call, an
upsert from outside included, leaves the model outside of an upsert, as does every step that a hook
asks for; and where a create starts outside of an upsert, be it called from outside, by a hook or by a
replicate, its insert is a plain one that follows its own counts for the unique constraints. -/
theorem Engine.creates_never_overwrite {m : Model} (declared : m.schema.Declared)
    (never : m.NeverUpserts) (engine : Engine) (depth : Nat) {d : Dialect} {s : SessionState}
    {script : List Reply} (opened : s.Open d script) :
    let model : Model := { m with perform := engine.performWithin depth m }
    (∀ questions c, (c.upserts = true → s.model.begun = false) →
      let ran := model.call questions c s
      ran.state.Open d (script.drop (statements ran.entries).length)) ∧
    (∀ point, ∀ step ∈ model.asked point,
      let ran := model.perform step s
      ran.state.Open d (script.drop (statements ran.entries).length)) ∧
    (∀ fields, model.Creates d fields (model.create fields s).outcome.isOk
      ((model.create fields s).sent script)) ∧
    ∀ key overrides, ∃ copied, model.Creates d (Mapping.overlay copied overrides)
      (model.replicate key overrides s).outcome.isOk ((model.replicate key overrides s).sent script) := by
  intro model
  have keeps : ∀ point, ∀ step ∈ model.asked point, Keeps ModelState.Plain (model.perform step) :=
    fun point step asked => never.keeps_plain engine depth (never point step asked)
  have steps : ∀ point, ∀ step ∈ model.asked point, Tells d (model.perform step) fun _ _ => True :=
    fun point step asked => (keeps point step asked).tells
  refine ⟨fun questions c outside => ?_, fun point step asked => ?_, fun fields => ?_,
    fun key overrides => ?_⟩
  -- an upsert from outside leaves an idle model, and every other call keeps a plain state plain
  · have connected : Keeps (fun _ => True) (model.call questions c) :=
      (keeps_upholds ModelState.any_kind fun _ step _ => engine.keeps_connection depth m step).call
        questions fun _ => keeps_marking
    have left := connected s
    refine ⟨left.dialect.trans opened.dialect, ?_, ?_⟩
    · rw [left.pending, opened.pending]
      rfl
    · cases upserts : c.upserts with
      | true => rw [model.upsert_idle questions upserts (outside upserts)]; rfl
      | false =>
        have plain : Keeps ModelState.Plain (model.call questions c) := by
          refine (keeps_upholds ModelState.plain_kind keeps).call questions fun impossible => ?_
          rw [upserts] at impossible
          cases impossible
        exact (plain s).model opened.upserting
  · exact (steps point step asked s script opened).1
  · exact (tells_create steps declared fields s script opened).2
  · exact (tells_replicate steps declared key overrides s script opened).2

namespace Sample

/-- A hook for the begin of an operation that makes a call of its own. -/
def calling (c : Call) : HookTable :=
  [("touch_home", ⟨"touch_home", [⟨none, c, []⟩], none, [], none⟩)]

/-- The model of pages without a way to perform the steps of its hooks. -/
def barePages (hooks : HookTable) : Model :=
  { pageModel hooks with perform := fun _ => Session.fail Session.endless }

theorem pageModel_eq (hooks : HookTable) :
    pageModel hooks = { barePages hooks with
      perform := (pageEngine hooks).performWithin Session.greatestDepth (barePages hooks) } := rfl

/-- The page of the hook is free, written and read, and then the page of the create. -/
def homeReplies : List Reply :=
  [countReply 0, writtenReply 1,
    rowsReply [[("id", .int 1), ("slug", .str "home"), ("parent_id", .null)]],
    countReply 0, writtenReply 2,
    rowsReply [[("id", .int 2), ("slug", .str "about"), ("parent_id", .null)]]]

def aboutCreation : Ran Resource :=
  (pageModel (calling (.create [("slug", .str "home")]))).create [("slug", .str "About")]
    (pageState homeReplies)

theorem home_never_upserts :
    (barePages (calling (.create [("slug", .str "home")]))).NeverUpserts := by
  intro point step asked _
  cases point
  case begin =>
    have only : step = ⟨none, .create [("slug", .str "home")], []⟩ := List.mem_singleton.mp asked
    rw [only]
    rfl
  all_goals cases asked

/-- A hook creates a page while another is created: the insert of the outer create is plain and
follows a count of its own. -/
theorem about_created_untaken : aboutCreation.outcome.isOk = true ∧
    ∃ before checks readied after x, aboutCreation.sent homeReplies =
      before ++ (checks ++ (readied ++ ([x] ++ after))) ∧
      (pageModel (calling (.create [("slug", .str "home")]))).InsertsUntaken .sqlite
        [("slug", .str "About")] checks x.statement := by
  have opened : (pageState homeReplies).Open .sqlite homeReplies := ⟨rfl, rfl, rfl⟩
  have returned : aboutCreation.outcome.isOk = true := by decide +kernel
  obtain ⟨_, _, creates, _⟩ :=
    Engine.creates_never_overwrite page_declared home_never_upserts (pageEngine _)
      Session.greatestDepth opened
  have created := creates [("slug", .str "About")]
  rw [← pageModel_eq] at created
  obtain ⟨before, checks, readied, after, write, same, _, _, inserts, wrote⟩ := created
  obtain ⟨x, rfl⟩ := Option.isSome_iff_exists.mp (wrote returned)
  exact ⟨returned, before, checks, readied, after, x, same, inserts x rfl⟩

/-- The page of the hook is written, found and read; then the parent of the page of the create is
counted, and this page is written, found and read. -/
def overwriteReplies : List Reply :=
  [writtenReply 1, rowsReply [[("id", .int 1)]],
    rowsReply [[("id", .int 1), ("slug", .str "home"), ("parent_id", .null)]],
    countReply 1, writtenReply 1, rowsReply [[("id", .int 1)]],
    rowsReply [[("id", .int 1), ("slug", .str "home"), ("parent_id", .int 3)]]]

def overwriting : Ran Resource :=
  (pageModel (calling (.upsert [("slug", .str "home")]))).create
    [("slug", .str "Home"), ("parent_id", .int 3)] (pageState overwriteReplies)

/-- A hook that upserts a page at the begin of a create makes an upsert of the create itself: its
insert overwrites the page with its slug, and no page was counted that has this slug. -/
theorem hook_upsert_makes_create_overwrite : overwriting.outcome.isOk = true ∧
    (statements overwriting.entries)[4]?.toList =
      [⟨"INSERT INTO \"pages\" (\"slug\", \"parent_id\") VALUES (?, ?) ON CONFLICT (\"slug\") " ++
        "DO UPDATE SET \"parent_id\" = excluded.\"parent_id\"", [.str "home", .int 3]⟩] ∧
    ∀ f ∈ statements overwriting.entries,
      f.sql ≠ "SELECT COUNT(*) AS \"aggregate\" FROM \"pages\" WHERE \"pages\".\"slug\" = ?" := by
  refine ⟨by decide +kernel, ?_, by decide +kernel⟩
  exact statements_known [(_, [.inl "home", .inr 3])] (by decide +kernel)

end Sample

end Curator
