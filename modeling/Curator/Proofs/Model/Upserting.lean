import Curator.Proofs.Event.Deeds
import Curator.Proofs.Model.Uniqueness
import Curator.Proofs.Model.WrittenKey
/-!
# The row an upsert reports

On a model without hooks an upsert checks its row, inserts it over the one it conflicts with, finds out
the key of the row that was written, and reads, announces and returns the row with this key.
-/

set_option autoImplicit false

namespace Curator

open Sql Outcome Session

namespace Session

theorem ran_rescued {α : Type} (report : Failure → Failure) (work : Session α) (s : SessionState) :
    let ran := (rescue work fun failure => fail (report failure)) s
    ran.entries = (work s).entries ∧ ∀ a, ran.outcome = .ok a → (work s).outcome = .ok a := by
  simp only [rescue, andThen, outcomeOf]
  cases (work s).outcome with
  | error failure =>
    refine ⟨List.append_nil _, fun a same => ?_⟩
    cases same
  | ok a => exact ⟨List.append_nil _, fun b same => same⟩

end Session

namespace Model

variable {m : Model} {d : Dialect} {lastId : Value} {values row : Record} {s : SessionState}
  {script : List Reply}

/-! ## The parts of an upsert -/

/-- The row that a write inserts. -/
def writtenRow (m : Model) (fields : Record) : Except Failure Record := do
  let mutated ← TransformTable.standard.transformed fields m.schema.mutators
  m.settledNew (withDefaults m.schema mutated)

/-- What comes before the insert. -/
def readyRow (m : Model) (fields : Record) : Session Record := do
  let values ← m.checkedNew fields
  let values ← m.readiedNew values
  Session.log .debug ("Creating " ++ m.schema.name.text ++ ": " ++ m.redacted values)
  pure values

/-- The row that was written, read again by its key. -/
def writtenResource (m : Model) (values : Record) : Session Resource := do
  let key ← m.writtenKey values
  m.resource key .include_

/-- What is told of a new row. -/
def announceNew (m : Model) (resource : Resource) : Session Resource := do
  Session.log .info ("Created " ++ m.schema.name.text ++ " " ++ resource.key.text)
  Session.emit "resource.create" [.resource resource]
  pure resource

theorem createRow_of_bare (bare : m.schema.hooks = []) (fields : Record) :
    m.createRow fields = (do
      let values ← m.readyRow fields
      m.insertRow values
      let resource ← m.writtenResource values
      m.announceNew resource) := by
  rw [createRow_eq]
  simp only [concludedNew, readyRow, writtenResource, announceNew, notify_of_bare bare, bind_assoc,
    pure_bind]

theorem browses_readyRow (bare : m.schema.hooks = []) (fields : Record) :
    Browses d lastId (m.readyRow fields) fun outcome xs =>
      (∀ x ∈ xs, x.statement.Selects) ∧
      ∀ row, outcome = .ok row → m.writtenRow fields = .ok row := by
  have checks : Browses d lastId (m.checkedNew fields) fun outcome xs =>
      (∀ x ∈ xs, x.statement.Selects) ∧ ∀ values, outcome = .ok values → ∃ mutated,
        TransformTable.standard.transformed fields m.schema.mutators = .ok mutated ∧
        values = withDefaults m.schema mutated := by
    refine browses_upserting_bind ?_
    refine browses_judges.of_bind (fun _ _ => ⟨nofun, nofun⟩) fun _ _ => ?_
    refine browses_judges.of_bind (fun _ _ => ⟨nofun, nofun⟩) fun mutated mutates => ?_
    refine Browses.bind ((browsing.checkRelated m _ _ _).mono fun outcome xs selects => ?_)
    cases outcome with
    | error failure => exact ⟨selects, nofun⟩
    | ok u =>
      refine browses_upserting_bind (browses_judges.of ?_)
      rw [List.append_nil]
      refine ⟨selects, fun values same => ⟨mutated, (prepared_ok mutates).2, ?_⟩⟩
      cases same
      rfl
  refine Browses.bind (checks.mono fun outcome xs told => ?_)
  obtain ⟨selects, made⟩ := told
  cases outcome with
  | error failure => exact ⟨selects, nofun⟩
  | ok values =>
    obtain ⟨mutated, mutates, rfl⟩ := made values rfl
    have readied : m.readiedNew (withDefaults m.schema mutated) =
        Session.of (m.settledNew (withDefaults m.schema mutated)) := by
      simp only [readiedNew, settledNew, atPoint_of_bare bare, hooked_of_bare bare, pure_bind,
        bind_pure, withJson_defined, ok_bind]
      cases m.jsonFields (withDefaults m.schema mutated) NullableJson.define with
      | error failure => rfl
      | ok defined => rfl
    simp only [readied]
    refine browses_judges.of_bind (fun _ _ => ?_) fun row settled => ?_
    · rw [List.append_nil]
      exact ⟨selects, nofun⟩
    · refine browses_log_bind (browses_judges.of ?_)
      rw [List.append_nil]
      refine ⟨selects, fun other same => ?_⟩
      cases same
      rw [writtenRow, mutates, ok_bind]
      exact settled

theorem browses_writtenResource (bare : m.schema.hooks = [])
    (keyless : (Row.ofRecord values m.schema.primaryKey).isNull = true) :
    Browses d lastId (m.writtenResource values) fun outcome xs =>
      (∀ x ∈ xs, m.conflictLookup d values = .ok x.statement ∨ ∃ key plan,
        m.Leads d values lastId xs key ∧ m.keyPlan key .include_ = .ok plan ∧
          plan.fetchSql d = .ok x.statement) ∧
      ∀ resource, outcome = .ok resource → ∃ key data, m.Leads d values lastId xs key ∧
        resource = ⟨m.schema.name, m.schema.primaryKey, data⟩ ∧
        m.HandedOut d xs key .include_ data := by
  refine Browses.bind ((browses_writtenKey keyless).mono fun outcome xs told => ?_)
  obtain ⟨asked, leads⟩ := told
  cases outcome with
  | error failure => exact ⟨fun x member => Or.inl (asked x member), nofun⟩
  | ok key =>
    refine (browses_resource bare key .include_).mono fun outcome ys told => ?_
    obtain ⟨fetched, handedOut⟩ := told
    have led : m.Leads d values lastId (xs ++ ys) key :=
      (leads key rfl).mono (List.subset_append_left xs ys)
    refine ⟨fun x member => ?_, fun resource came => ?_⟩
    · rcases List.mem_append.mp member with early | late
      · exact Or.inl (asked x early)
      · obtain ⟨plan, compiled, made⟩ := fetched x late
        exact Or.inr ⟨key, plan, led, compiled, made⟩
    · obtain ⟨data, same, plan, compiled, x, member, made, handed⟩ := handedOut resource came
      exact ⟨key, data, led, same, plan, compiled, x, List.mem_append_right _ member, made, handed⟩

/-- The insert within an upsert: it is not sent at all, or it is sent, and where it returns the
database has told a key. -/
theorem insertRow_within (row : Record) (within : s.Upserting d lastId script) :
    (statements (m.insertRow row s).entries = [] ∧ ∃ failure,
      (m.insertRow row s).outcome = .error failure) ∨
    ∃ f, statements (m.insertRow row s).entries = [f] ∧
      insertion d m.schema.table row (.overwrite m.schema.upsertConflict)
        (some m.schema.primaryKey) = .ok f ∧
      ∀ u, (m.insertRow row s).outcome = .ok u → ∃ answer key,
        (Exchange.mk f script.head?).answer d = .ok answer ∧
        reported d (some m.schema.primaryKey) answer = .ok key ∧
        (m.insertRow row s).state.Upserting d key script.tail := by
  have start : m.insertRow row s = (do
      let _ ← Session.insert m.schema.table row (.overwrite m.schema.upsertConflict)
        (some m.schema.primaryKey)
      pure () : Session Unit) s := by
    unfold insertRow
    rw [ran_on (a := true) (congrArg Except.ok within.upserting)]
    rfl
  rw [start]
  by_cases given : row = []
  · rw [given]
    exact Or.inl ⟨rfl, _, rfl⟩
  rw [insert_eq given]
  simp only [bind_assoc, pure_bind]
  rw [dialect_bind_at, within.dialect]
  cases made : insertion d m.schema.table row (.overwrite m.schema.upsertConflict)
      (some m.schema.primaryKey) with
  | error failure => exact Or.inl ⟨rfl, failure, rfl⟩
  | ok f =>
    have next : (Session.of (.ok f) : Session Fragment) = pure f := rfl
    rw [next, pure_bind]
    let t := { s with database := { s.database with pending := some script.tail } }
    have sent : execute f s = ⟨(Exchange.mk f script.head?).answer d, t,
        [.logged .debug (statementMessage f), .statement f.sql f.params
          ((Exchange.mk f script.head?).answer d).isOk]⟩ := by
      rw [execute_connected within.pending, within.dialect]
    refine Or.inr ⟨f, ?_⟩
    cases came : (Exchange.mk f script.head?).answer d with
    | error failure =>
      rw [ran_failed (by rw [sent, came]), sent]
      exact ⟨rfl, rfl, nofun⟩
    | ok answer =>
      rw [ran_on (by rw [sent, came]), sent]
      cases told : reported d (some m.schema.primaryKey) answer with
      | error failure =>
        exact ⟨rfl, rfl, nofun⟩
      | ok key =>
        refine ⟨rfl, rfl, fun _ _ => ⟨answer, key, rfl, told, ?_⟩⟩
        exact ⟨within.dialect, rfl, rfl, within.upserting⟩

/-! ## What an upsert reports -/

/-- A run that announced nothing and returned nothing. -/
def Ended (ran : Ran Resource) : Prop :=
  (∀ entry ∈ ran.entries, ¬ entry.OfEmission) ∧ ∀ returned, ran.outcome ≠ .ok returned

/-- What a run does about the row with a key once it has written a row: besides looking for the key it
asks for no other row, and what it announces and returns was handed out of the answer for this row. -/
def Reports (m : Model) (d : Dialect) (values : Record) (key : Value) (ran : Ran Resource)
    (behind : List Exchange) : Prop :=
  (∀ y ∈ behind, m.conflictLookup d values = .ok y.statement ∨
    ∃ plan, m.keyPlan key .include_ = .ok plan ∧ plan.fetchSql d = .ok y.statement) ∧
  (Ended ran ∨ ∃ data quiet t,
    let resource : Resource := ⟨m.schema.name, m.schema.primaryKey, data⟩
    m.HandedOut d behind key .include_ data ∧
    ran.entries = quiet ++ (Session.emit "resource.create" [.resource resource] t).entries ∧
    (∀ entry ∈ quiet, ¬ entry.OfEmission) ∧
    ∀ returned, ran.outcome = .ok returned → returned = resource)

theorem Ended.after {ran : Ran Resource} {before : List Entry} (ended : Ended ran)
    (quiet : ∀ entry ∈ before, ¬ entry.OfEmission) :
    Ended ⟨ran.outcome, ran.state, before ++ ran.entries⟩ :=
  ⟨List.forall_mem_append.mpr ⟨quiet, ended.1⟩, ended.2⟩

theorem Reports.after {key : Value} {ran : Ran Resource} {behind : List Exchange}
    {before : List Entry} (reports : m.Reports d values key ran behind)
    (quiet : ∀ entry ∈ before, ¬ entry.OfEmission) :
    m.Reports d values key ⟨ran.outcome, ran.state, before ++ ran.entries⟩ behind := by
  refine ⟨reports.1, reports.2.imp (fun ended => ended.after quiet) ?_⟩
  rintro ⟨data, silent, t, handed, entries, unheard, returns⟩
  refine ⟨data, before ++ silent, t, handed, ?_, ?_, returns⟩
  · rw [List.append_assoc, ← entries]
  · exact List.forall_mem_append.mpr ⟨quiet, unheard⟩

theorem announceNew_ran (resource : Resource) (s : SessionState) :
    let ran := m.announceNew resource s
    statements ran.entries = [] ∧
    (∃ message, ran.entries =
      [.logged .info message] ++ (Session.emit "resource.create" [.resource resource] s).entries) ∧
    ∀ returned, ran.outcome = .ok returned → returned = resource := by
  have unsent : Unsent (m.announceNew resource) :=
    unsent_announces.bind (unsent_announces.info _) fun _ =>
      unsent_announces.bind (unsent_announces.emit _ _) fun _ => unsent_announces.pure resource
  refine ⟨unsent s, ?_⟩
  obtain ⟨entries, _, returns⟩ := ran_returning
    (Session.emit "resource.create" [.resource resource]) resource s
  unfold announceNew
  rw [ran_on (a := ()) rfl]
  exact ⟨⟨_, congrArg (_ :: ·) entries⟩, returns⟩

theorem unannounced_info (message : String) : ¬ (Entry.logged .info message).OfEmission := by
  rintro (⟨_, _, same⟩ | ⟨_, _, same⟩)
  · cases same
  · cases same

/-- Announcing sends nothing, so all that is sent behind the insert is sent for the resource. -/
theorem announced_sent :
    ((m.writtenResource values >>= m.announceNew) s).sent script =
      (m.writtenResource values s).sent script := by
  unfold Ran.sent
  cases came : (m.writtenResource values s).outcome with
  | error failure => rw [ran_failed came]
  | ok resource => rw [ran_on came, statements_append, (announceNew_ran resource _).1, List.append_nil]

/-- What follows the insert: whatever key it comes by is the one it reports. -/
theorem reports_key (bare : m.schema.hooks = []) (within : s.Upserting d lastId script)
    (keyless : (Row.ofRecord values m.schema.primaryKey).isNull = true) {key : Value}
    (only : ∀ found, m.Leads d values lastId
      (((m.writtenResource values >>= m.announceNew) s).sent script) found → found = key) :
    m.Reports d values key ((m.writtenResource values >>= m.announceNew) s)
      (((m.writtenResource values >>= m.announceNew) s).sent script) := by
  rw [announced_sent] at only ⊢
  have browses : Browses d lastId (m.writtenResource values) _ :=
    browses_writtenResource bare keyless
  obtain ⟨_, asked, read⟩ := browses s script within
  have silent : Unannounced (m.writtenResource values) :=
    unannounced_writes.bind (unannounced_writes.reads.writtenKey m values) fun key =>
      unannounced_writes.reads.resource (quiet_of_bare bare).steps key .include_
  refine ⟨fun y member => ?_, ?_⟩
  · rcases asked y member with lookup | ⟨found, plan, led, compiled, made⟩
    · exact Or.inl lookup
    · rw [only found led] at compiled
      exact Or.inr ⟨plan, compiled, made⟩
  · cases came : (m.writtenResource values s).outcome with
    | error failure =>
      rw [ran_failed came]
      exact Or.inl ⟨silent s, nofun⟩
    | ok resource =>
      obtain ⟨found, data, led, rfl, handed⟩ := read resource came
      obtain ⟨_, ⟨message, entries⟩, returns⟩ := announceNew_ran (m := m)
        ⟨m.schema.name, m.schema.primaryKey, data⟩ (m.writtenResource values s).state
      rw [ran_on came]
      rw [only found led] at handed
      refine Or.inr ⟨data, (m.writtenResource values s).entries ++ [.logged .info message],
        (m.writtenResource values s).state, handed, ?_, ?_, returns⟩
      · rw [List.append_assoc, ← entries]
      · exact List.forall_mem_append.mpr
          ⟨silent s, List.forall_mem_singleton.mpr (unannounced_info message)⟩

/-- A run that wrote a row and then reported it: what was sent before the insert and behind it, and that
the run reports the key it must have come by. -/
def Upserted (m : Model) (d : Dialect) (fields : Record) (ran : Ran Resource) (script : List Reply) :
    Prop :=
  ∃ row before x behind, m.writtenRow fields = .ok row ∧
    ran.sent script = before ++ x :: behind ∧ (∀ y ∈ before ++ behind, y.statement.Selects) ∧
    insertion d m.schema.table row (.overwrite m.schema.upsertConflict)
      (some m.schema.primaryKey) = .ok x.statement ∧
    ((Row.ofRecord row m.schema.primaryKey).isNull = true → ∀ answer, x.answer d = .ok answer → ∀ key,
      (∀ lastId found, reported d (some m.schema.primaryKey) answer = .ok lastId →
        m.Leads d row lastId behind found → found = key) → m.Reports d row key ran behind)

theorem inserted_within (bare : m.schema.hooks = []) (within : s.Upserting d lastId script)
    (row : Record) :
    let ran := (m.insertRow row >>= fun _ => m.writtenResource row >>= m.announceNew) s
    (ran.sent script = [] ∧ Ended ran) ∨ ∃ x behind, ran.sent script = x :: behind ∧
      (∀ y ∈ behind, y.statement.Selects) ∧
      insertion d m.schema.table row (.overwrite m.schema.upsertConflict)
        (some m.schema.primaryKey) = .ok x.statement ∧
      ((Row.ofRecord row m.schema.primaryKey).isNull = true → ∀ answer, x.answer d = .ok answer →
        ∀ key, (∀ lastId found, reported d (some m.schema.primaryKey) answer = .ok lastId →
          m.Leads d row lastId behind found → found = key) → m.Reports d row key ran behind) := by
  intro ran
  have own : Unannounced (m.insertRow row) := unannounced_writes.insertRow m row
  simp only [ran]
  rcases insertRow_within row within with ⟨unsent, failure, failed⟩ | ⟨f, sent, made, told⟩
  · rw [ran_failed failed]
    refine Or.inl ⟨?_, own s, nofun⟩
    rw [Ran.sent, unsent]
    rfl
  · right
    cases wrote : (m.insertRow row s).outcome with
    | error failure =>
      rw [ran_failed wrote]
      refine ⟨⟨f, script.head?⟩, [], ?_, List.forall_mem_nil _, made, ?_⟩
      · rw [Ran.sent, sent]
        rfl
      · exact fun _ _ _ _ _ => ⟨List.forall_mem_nil _, Or.inl ⟨own s, nofun⟩⟩
    | ok u =>
      -- from here on the last key is the one the database told
      obtain ⟨answer, key, came, tells, next⟩ := told u wrote
      rw [ran_on wrote]
      let rest := (m.writtenResource row >>= m.announceNew) (m.insertRow row s).state
      refine ⟨⟨f, script.head?⟩, rest.sent script.tail, ?_, ?_, made, ?_⟩
      · simp only [Ran.sent, statements_append, sent]
        rfl
      · have reading : Browses d key (m.writtenResource row) SelectsOnly :=
          browsing.bind (browsing.writtenKey m row) fun key =>
            browsing.resource (quiet_of_bare bare).steps key .include_
        simp only [rest, announced_sent]
        exact (reading _ _ next).2
      · intro keyless other again found only
        rw [came] at again
        cases again
        have reports := reports_key bare next keyless fun found led => only key found tells led
        exact reports.after (own s)

theorem createRow_within (bare : m.schema.hooks = []) (within : s.Upserting d lastId script)
    (fields : Record) :
    let ran := m.createRow fields s
    ((∀ y ∈ ran.sent script, y.statement.Selects) ∧ Ended ran) ∨ m.Upserted d fields ran script := by
  intro ran
  have browses : Browses d lastId (m.readyRow fields) _ := browses_readyRow bare fields
  obtain ⟨left, selects, settled⟩ := browses s script within
  have silent : Unannounced (m.readyRow fields) :=
    unannounced_writes.bind (checkedNew_reads unannounced_writes.reads fields) fun _ =>
      unannounced_writes.bind (readiedNew_closed unannounced_writes.toClosed (quiet_of_bare bare).steps _)
        fun _ => unannounced_writes.bind (unannounced_writes.debug (by simp)) fun _ =>
          unannounced_writes.pure _
  simp only [ran, createRow_of_bare bare]
  cases ready : (m.readyRow fields s).outcome with
  | error failure =>
    rw [ran_failed ready]
    exact Or.inl ⟨selects, silent s, nofun⟩
  | ok row =>
    rw [ran_on ready]
    rcases inserted_within bare left row with ⟨unsent, ended⟩ |
      ⟨x, behind, sent, reading, made, reports⟩
    · refine Or.inl ⟨?_, ended.after (silent s)⟩
      rw [Ran.sent] at unsent ⊢
      rw [statements_append, exchanges_append, unsent, List.append_nil]
      exact selects
    · refine Or.inr ⟨row, (m.readyRow fields s).sent script, x, behind, settled row ready, ?_,
        List.forall_mem_append.mpr ⟨selects, reading⟩, made, ?_⟩
      · rw [← sent, Ran.sent, statements_append, exchanges_append]
        rfl
      · intro keyless answer came key only
        exact (reports keyless answer came key only).after (silent s)

/-- An upsert is a create in a state of its own, whose failures it reports in its own way. -/
theorem upsert_of_bare (bare : m.schema.hooks = []) (fields : Record) (s : SessionState) :
    let within : SessionState := { s with model := ⟨true, s.model.trashed, true⟩ }
    (m.upsert fields s).entries = (m.createRow fields within).entries ∧
      ∀ returned, (m.upsert fields s).outcome = .ok returned →
        (m.createRow fields within).outcome = .ok returned := by
  intro within
  obtain ⟨outcome, entries⟩ := tracked_of_bare bare (do
    let state ← Session.model
    Session.setModel { state with upserting := true }
    Session.rescue (m.create fields) fun failure => Session.fail (upsertFailure failure)) s
  obtain ⟨told, returned⟩ := ran_rescued upsertFailure (m.create fields) within
  obtain ⟨created, made⟩ := tracked_of_bare bare (m.createRow fields) within
  refine ⟨entries.trans (told.trans made), fun resource came => ?_⟩
  rw [Model.upsert, outcome] at came
  exact created.symm.trans (returned resource came)

/-- An upsert reports the row it wrote.  On a model without hooks and an open connection it either ends
before its insert, having sent nothing but selections, or it inserts its row over the one this
conflicts with.  Suppose the row has no key of its own, the database answers the insert, lets no two
rows agree on the conflict columns, takes no null for equal to another, and looks for keys truly.  Then
all that the upsert asks for, announces and returns behind the insert is about the key of the row that
was written, unless null is given for a conflict column and a row had these values before. -/
theorem upsert_reports_written_row (bare : m.schema.hooks = []) (connected : s.database.pending = some script)
    (fields : Record) :
    let d := s.database.dialect
    let key := m.schema.primaryKey
    let conflict := m.schema.upsertConflict
    let ran := m.upsert fields s
    ((∀ y ∈ ran.sent script, y.statement.Selects) ∧ Ended ran) ∨
    ∃ row before x behind, m.writtenRow fields = .ok row ∧
      ran.sent script = before ++ x :: behind ∧ (∀ y ∈ before ++ behind, y.statement.Selects) ∧
      insertion d m.schema.table row (.overwrite conflict) (some key) = .ok x.statement ∧
      ∀ (j : Judge) (rows after : List Row) (written : Row) (answer : Answered),
        (Row.ofRecord row key).isNull = true → x.answer d = .ok answer → j.Apart conflict rows →
        j.Settles key conflict rows row (reported d (some key) answer) after written →
        (∀ y ∈ behind, j.Finds d m.schema.table key after y) →
        ((∀ column ∈ conflict, row.has column = true) →
          (∀ column ∈ conflict, (Row.ofRecord row column).isNull = false) ∨
            ∀ old ∈ rows, ¬ j.Matches conflict row old) →
        m.Reports d row (written key) ran behind := by
  intro d key conflict ran
  obtain ⟨entries, returns⟩ := upsert_of_bare bare fields s
  have within : SessionState.Upserting { s with model := ⟨true, s.model.trashed, true⟩ } d
      s.database.lastId script := ⟨rfl, connected, rfl, rfl⟩
  have same : ran.sent script = (m.createRow fields
      { s with model := ⟨true, s.model.trashed, true⟩ }).sent script := by
    simp only [ran, Ran.sent, entries]
  rw [same]
  rcases createRow_within bare within fields with ⟨selects, unheard, unreturned⟩ | upserted
  · refine Or.inl ⟨selects, ?_, fun resource came => unreturned resource (returns resource came)⟩
    simp only [ran, entries]
    exact unheard
  · obtain ⟨row, before, x, behind, settled, sent, selects, made, reports⟩ := upserted
    refine Or.inr ⟨row, before, x, behind, settled, sent, selects, made, ?_⟩
    intro j rows after written answer keyless came apart settles finds clear
    obtain ⟨asked, told⟩ := reports keyless answer came (written key) fun lastId found tells led => by
      rw [tells] at settles
      exact led.written keyless apart settles finds clear
    refine ⟨asked, told.imp ?_ ?_⟩
    · rintro ⟨unheard, unreturned⟩
      refine ⟨?_, fun resource came => unreturned resource (returns resource came)⟩
      simp only [ran, entries]
      exact unheard
    · rintro ⟨data, quiet, t, handed, written, unheard, own⟩
      refine ⟨data, quiet, t, handed, ?_, unheard, fun resource came => own resource (returns resource came)⟩
      simp only [ran, entries]
      exact written

end Model

namespace Sample

/-- Pages whose values are written as they are given. -/
def plainSchema : Schema := { slugSchema with mutators := [] }

def plainModel : Model :=
  { slugModel with engine := ⟨⟨.standard, [⟨plainSchema, none⟩]⟩, [], default⟩, schema := plainSchema }

/-- A page is inserted with the key 7, and then the page with another key is found and read. -/
def unnamedReplies (found : Int) : List Reply :=
  [writtenReply 7, rowsReply [[("id", .int found)]],
    rowsReply [[("id", .int found), ("slug", .null), ("parent_id", .null)]]]

def unnamedUpsert (found : Int) : Ran Resource :=
  plainModel.upsert [("slug", .null)] (pageState (unnamedReplies found))

def unnamedPage (key : Int) : Row := Row.ofRecord [("id", .int key), ("slug", .null)]

theorem unnamed_row : plainModel.writtenRow [("slug", .null)] = .ok [("slug", .null)] := rfl

def unnamed : Fragment := ⟨"\"pages\".\"slug\" IS NULL", []⟩

/-- What is read of a page besides its key. -/
def pageColumns : String :=
  " \"pages\".\"slug\" AS \"slug\", \"pages\".\"parent_id\" AS \"parent_id\" FROM \"pages\" " ++
    "WHERE \"pages\".\"id\" = ? ORDER BY \"pages\".\"id\" ASC"

/-- What an upsert of a page without a slug sends: its insert, the look-up and the page it found. -/
structure SendsUnnamed (found : Int) (x lookup reread : Exchange) : Prop where
  sent : (unnamedUpsert found).sent (unnamedReplies found) = [x, lookup, reread]
  inserts : x.statement.Inserts
  told : x.answer .sqlite = .ok ⟨[], 1, .int 7⟩
  looks : lookup.statement = keyText "pages" "id" unnamed
  finds : lookup.answer .sqlite = .ok ⟨[[("id", .int found)]], 0, .null⟩
  rereads : reread.statement.sql = "SELECT \"pages\".\"id\" AS \"id\"," ++ pageColumns
  key : reread.statement.params.map scalar? = [some (.inr found)]

theorem unnamed_sent (found : Int) (known : (statements (unnamedUpsert found).entries).map
      (fun f => (f.sql, f.params.map scalar?)) =
      [("INSERT INTO " ++ "\"pages\" (\"slug\") VALUES (?) ON CONFLICT (\"slug\") DO NOTHING", [none]),
        ("SELECT \"pages\".\"id\" AS \"id\" FROM \"pages\" WHERE \"pages\".\"slug\" IS NULL LIMIT 1",
          []), ("SELECT \"pages\".\"id\" AS \"id\"," ++ pageColumns, [some (.inr found)])]) :
    ∃ x lookup reread, SendsUnnamed found x lookup reread := by
  obtain ⟨f, rest, same, first, known⟩ := List.map_eq_cons_iff.mp known
  obtain ⟨g, others, rfl, second, known⟩ := List.map_eq_cons_iff.mp known
  obtain ⟨h, none, rfl, third, known⟩ := List.map_eq_cons_iff.mp known
  cases List.map_eq_nil_iff.mp known
  obtain ⟨sql, params⟩ := g
  obtain ⟨text, empty⟩ := Prod.mk.inj second
  cases text
  cases List.map_eq_nil_iff.mp empty
  refine ⟨⟨f, some (writtenReply 7)⟩, ⟨_, some (rowsReply [[("id", .int found)]])⟩,
    ⟨h, (unnamedReplies found).getLast?⟩, ?_, ⟨_, (Prod.mk.inj first).1⟩, rfl, rfl, rfl,
    (Prod.mk.inj third).1, (Prod.mk.inj third).2⟩
  rw [Ran.sent, same]
  rfl

/-- A page without a slug is new to any table. -/
theorem unnamed_settles (rows : List Row) :
    scalarJudge.Settles "id" ["slug"] rows [("slug", .null)]
      (reported .sqlite (some "id") ⟨[], 1, .int 7⟩) (rows ++ [unnamedPage 7]) (unnamedPage 7) := by
  refine .added (fun old _ agree => ?_) (fun column other => ?_) rfl
  · have given := agree.given "slug" List.mem_cons_self
    cases given
  · simp only [unnamedPage, Row.ofRecord, Mapping.value?_cons, if_neg other]

section

variable {key : Int} {x lookup reread : Exchange}

/-- The statement goes on with another column where a look-up has its table. -/
theorem SendsUnnamed.apart (sends : SendsUnnamed key x lookup reread) (f : Fragment) :
    reread.statement ≠ keyText "pages" "id" f := by
  intro same
  have columns : (keyText "pages" "id" f).sql =
      "SELECT \"pages\".\"id\" AS \"id\" " ++ ("FROM \"pages\"" ++ conditioned f ++ " LIMIT 1") := by
    have opening : "SELECT " ++ (quoted "pages" ++ "." ++ quoted "id" ++ " AS " ++ quoted "id") ++
      " FROM " ++ quoted "pages" = "SELECT \"pages\".\"id\" AS \"id\" " ++ "FROM \"pages\"" := rfl
    simp only [← String.append_assoc, keyText] at opening ⊢
    rw [opening]
  exact begun_apart sends.rereads ((congrArg Fragment.sql same).trans columns) (by decide) (by decide)

theorem SendsUnnamed.found (sends : SendsUnnamed key x lookup reread) {rows : List Row}
    (member : unnamedPage key ∈ rows)
    (holds : scalarJudge.holds .sqlite "pages" unnamed (unnamedPage key) = true) :
    ∀ y ∈ [lookup, reread], scalarJudge.Finds .sqlite "pages" "id" rows y := by
  refine List.forall_mem_cons.mpr ⟨?_, List.forall_mem_singleton.mpr ?_⟩
  · exact Judge.finds_of_key sends.looks sends.finds rfl member holds rfl
  · exact Judge.finds_of_other sends.apart

end

/-- Where no page was without a slug, the page that was inserted is reported. -/
theorem unnamed_page_reported : (unnamedUpsert 7).outcome.isOk = true ∧ ∃ x behind,
    (unnamedUpsert 7).sent (unnamedReplies 7) = x :: behind ∧
      plainModel.Reports .sqlite [("slug", .null)] (.int 7) (unnamedUpsert 7) behind := by
  have returned : (unnamedUpsert 7).outcome.isOk = true := by decide +kernel
  obtain ⟨x, lookup, reread, sends⟩ := unnamed_sent 7 (by decide +kernel)
  refine ⟨returned, x, [lookup, reread], sends.sent, ?_⟩
  rcases Model.upsert_reports_written_row (m := plainModel) (s := pageState (unnamedReplies 7)) rfl rfl
      [("slug", .null)] with ⟨_, _, unreturned⟩ | ⟨row, before, y, behind, settled, sent, selects, made, reports⟩
  · obtain ⟨resource, came⟩ := ok_of_isOk returned
    exact absurd came (unreturned resource)
  · cases settled.symm.trans unnamed_row
    obtain ⟨rfl, rfl⟩ : y = x ∧ behind = [lookup, reread] := by
      cases before with
      | nil => exact List.cons.inj (sent.symm.trans sends.sent)
      | cons first others =>
        -- the insert is sent first, so nothing was selected before it
        obtain ⟨same, _⟩ := List.cons.inj (sent.symm.trans sends.sent)
        have selected := selects first (by simp)
        rw [same] at selected
        exact absurd selected sends.inserts.not_selects
    refine reports scalarJudge [homePage] [homePage, unnamedPage 7] (unnamedPage 7) _ rfl sends.told
      (List.pairwise_singleton _ _) (unnamed_settles [homePage]) (sends.found (by simp) (by decide +kernel))
      fun _ => Or.inr ?_
    intro old member matched
    rw [List.mem_singleton.mp member] at matched
    rcases matched "slug" List.mem_cons_self with ⟨_, null⟩ | same
    · cases null
    · cases same

/-- Where a page was without a slug before, this page is read and returned in place of the one that was
inserted. -/
theorem older_unnamed_page_reported : (unnamedUpsert 1).outcome.isOk = true ∧ ∃ x behind answer,
    (unnamedUpsert 1).sent (unnamedReplies 1) = x :: behind ∧ x.answer .sqlite = .ok answer ∧
    scalarJudge.Apart ["slug"] [unnamedPage 1] ∧
    scalarJudge.Settles "id" ["slug"] [unnamedPage 1] [("slug", .null)]
      (reported .sqlite (some "id") answer) [unnamedPage 1, unnamedPage 7] (unnamedPage 7) ∧
    (∀ y ∈ behind, scalarJudge.Finds .sqlite "pages" "id" [unnamedPage 1, unnamedPage 7] y) ∧
    ¬ plainModel.Reports .sqlite [("slug", .null)] (unnamedPage 7 "id") (unnamedUpsert 1) behind := by
  obtain ⟨x, lookup, reread, sends⟩ := unnamed_sent 1 (by decide +kernel)
  refine ⟨by decide +kernel, x, [lookup, reread], _, sends.sent, sends.told, List.pairwise_singleton _ _,
    unnamed_settles [unnamedPage 1], sends.found (by simp) (by decide +kernel), ?_⟩
  rintro ⟨asked, _⟩
  rcases asked reread (by simp) with looked | ⟨plan, compiled, made⟩
  · obtain ⟨condition, _, text⟩ := keyRow_ok looked
    exact sends.apart condition text
  · have own : ((plainModel.keyPlan (.int 7) .include_ >>= fun plan => plan.fetchSql .sqlite).toOption.map
        fun f => f.params.map scalar?) = some [some (.inr 7)] := by decide +kernel
    have same : plainModel.keyPlan (.int 7) .include_ = .ok plan := compiled
    rw [same, ok_bind, made] at own
    cases (Option.some.inj own).symm.trans sends.key

end Sample

end Curator
