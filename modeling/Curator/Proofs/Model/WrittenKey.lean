import Curator.Model.Write
import Curator.Proofs.Lifecycle.Closed
import Curator.Proofs.Model.Conflict
import Curator.Proofs.Model.Phases
/-!
# The key of the row that was written

After the insert of an upsert the model comes by a key and reads the row with this key.  The key is
looked for by the conflict columns of the row, and where nothing is found it is the one that the
database reported.
-/

set_option autoImplicit false

/-!
## Reading within an upsert

Work that only reads while an upsert is under way.  Beside its outcome and its exchanges it is told of
the key that the database reported last, which reading leaves as it was.
-/

namespace Curator

open Sql

/-- An open connection with a script still to come, within an upsert, after the database reported a
key. -/
structure SessionState.Upserting (s : SessionState) (d : Dialect) (lastId : Value)
    (script : List Reply) : Prop where
  dialect : s.database.dialect = d
  pending : s.database.pending = some script
  lastId : s.database.lastId = lastId
  upserting : s.model.upserting = true

/-- What reading comes to within an upsert: its outcome and its exchanges stand in a relation, and
only the script has moved on. -/
def Session.Browses {α : Type} (d : Dialect) (lastId : Value) (work : Session α)
    (Q : Except Failure α → List Exchange → Prop) : Prop :=
  ∀ s script, s.Upserting d lastId script →
    (work s).state.Upserting d lastId (script.drop (statements (work s).entries).length) ∧
      Q (work s).outcome ((work s).sent script)

namespace Session

variable {α β : Type} {d : Dialect} {lastId : Value} {Q : Except Failure α → List Exchange → Prop}
  {R : Except Failure β → List Exchange → Prop} {P : Exchange → Prop}

theorem Browses.mono {Q' : Except Failure α → List Exchange → Prop} {work : Session α}
    (browses : Browses d lastId work Q) (weaker : ∀ outcome xs, Q outcome xs → Q' outcome xs) :
    Browses d lastId work Q' := by
  intro s script within
  have told := browses s script within
  exact ⟨told.1, weaker _ _ told.2⟩

theorem Browses.bind {first : Session α} {next : α → Session β}
    (browses : Browses d lastId first fun outcome xs =>
      match outcome with
      | .error failure => R (.error failure) xs
      | .ok a => Browses d lastId (next a) fun outcome ys => R outcome (xs ++ ys)) :
    Browses d lastId (first >>= next) R := by
  intro s script within
  obtain ⟨left, told⟩ := browses s script within
  simp only [Ran.sent, Bind.bind, andThen] at told ⊢
  cases came : (first s).outcome with
  | error failure =>
    rw [came] at told
    exact ⟨left, told⟩
  | ok a =>
    rw [came] at told
    obtain ⟨ends, told⟩ := told _ _ left
    simp only [statements_append, List.length_append, exchanges_append]
    rw [List.drop_drop] at ends
    exact ⟨ends, told⟩

theorem browses_execute {f : Fragment} {Q : Except Failure Answered → List Exchange → Prop}
    (holds : ∀ reply, Q ((Exchange.mk f reply).answer d) [⟨f, reply⟩]) :
    Browses d lastId (execute f) Q := by
  intro s script within
  have answered := holds script.head?
  rw [execute_connected within.pending, within.dialect]
  refine ⟨⟨within.dialect, ?_, within.lastId, within.upserting⟩, answered⟩
  exact congrArg some (List.drop_one (l := script)).symm

theorem browses_judges : Judges d (Browses d lastId) where
  of holds := fun _ _ within => ⟨within, holds⟩
  bind := Browses.bind
  dialect := by
    intro Q holds s script within
    refine ⟨within, ?_⟩
    change Q (.ok s.database.dialect) []
    rw [within.dialect]
    exact holds
  execute _ holds := browses_execute holds

theorem browses_record {entry : Entry} {Q : Except Failure Unit → List Exchange → Prop}
    (unsent : entry.statement? = none) (holds : Q (.ok ()) []) :
    Browses d lastId (record entry) Q := by
  intro s script within
  have nothing : statements [entry] = [] := by simp [statements, unsent]
  simp only [Ran.sent, record, nothing]
  exact ⟨within, holds⟩

theorem browses_log_bind {level : LogLevel} {message : String} {next : Unit → Session β}
    (goes : Browses d lastId (next ()) R) : Browses d lastId (log level message >>= next) R :=
  Browses.bind (browses_record rfl goes)

theorem browses_lastId_bind {next : Value → Session β} (goes : Browses d lastId (next lastId) R) :
    Browses d lastId (Session.lastId >>= next) R := by
  have read : Browses d lastId Session.lastId fun outcome xs => outcome = .ok lastId ∧ xs = [] :=
    fun s script within => ⟨within, congrArg Except.ok within.lastId, rfl⟩
  refine Browses.bind (read.mono fun outcome xs told => ?_)
  obtain ⟨rfl, rfl⟩ := told
  exact goes

theorem browses_upserting_bind {next : Bool → Session β} (goes : Browses d lastId (next true) R) :
    Browses d lastId (Model.upserting >>= next) R := by
  have read : Browses d lastId Model.upserting fun outcome xs => outcome = .ok true ∧ xs = [] :=
    fun s script within => ⟨within, congrArg Except.ok within.upserting, rfl⟩
  refine Browses.bind (read.mono fun outcome xs told => ?_)
  obtain ⟨rfl, rfl⟩ := told
  exact goes

/-- Selections are a case of reading. -/
theorem browsing : Reads fun work => Browses d lastId work SelectsOnly where
  of _ := browses_judges.of (every_nil _)
  bind := by
    intro α β first next head tail
    refine Browses.bind (head.mono fun outcome xs before => ?_)
    cases outcome with
    | error failure => exact before
    | ok a => exact (tail a).mono fun outcome ys after => List.forall_mem_append.mpr ⟨before, after⟩
  outcomeOf held := fun s script within => held s script within
  record entry remark := browses_record remark.unsent (every_nil _)
  looked := fun _ _ within => ⟨within, every_nil _⟩
  select f selects := browses_execute fun reply x member => by
    rw [List.mem_singleton.mp member]
    exact selects

end Session

open Outcome Session

namespace Model

variable {m : Model} {d : Dialect} {lastId : Value} {values row : Record} {s : SessionState}
  {script : List Reply}

/-! ## The key of the row that was written -/

/-- The statement that looks for the key of the row with the conflict values of a record. -/
def conflictLookup (m : Model) (d : Dialect) (values : Record) : Except Failure Fragment :=
  keyRow d m.schema.table m.schema.primaryKey (valueTests values m.schema.upsertConflict)

theorem narrowedTo_eq (m : Model) (values : Record) (names : List String) (selection : Select) :
    m.narrowedTo values names selection =
      Session.of ((valueTests values names).foldlM (fun s (name, operator, operand) =>
        s.where_ .and ⟨name, some m.schema.table, []⟩ operator operand) selection) := by
  induction names generalizing selection with
  | nil => rfl
  | cons name rest ih =>
    simp only [narrowedTo, narrowed, ih, valueTests, List.map_cons, List.foldlM_cons, of_bind]
    rfl

theorem conflictKey?_eq (m : Model) (values : Record) :
    m.conflictKey? values =
      if m.schema.upsertConflict.all values.has then do
        let d ← dialect
        let f ← Session.of (m.conflictLookup d values)
        let answer ← execute f
        Session.of (foundKey answer.rows m.schema.primaryKey)
      else pure none := by
  unfold conflictKey?
  simp only
  split
  · simp only [rows, rowsOf, narrowedTo_eq, fetch, select, conflictLookup, keyRow, of_bind, bind_assoc,
      pure_bind]
    refine bind_congr fun d => bind_congr fun _ => bind_congr fun _ => bind_congr fun _ => ?_
    refine bind_congr fun f => bind_congr fun answer => ?_
    cases answer.rows with
    | nil => rfl
    | cons record rest =>
      simp only [foundKey, of_bind]
      rfl
  · rfl

/-- How a key is come by after an insert: the look-up found it, or the database told it and there was
nothing to look for or nothing was found. -/
inductive Leads (m : Model) (d : Dialect) (values : Record) (lastId : Value) (xs : List Exchange) :
    Value → Prop where
  | found {key : Value} (complete : ∀ column ∈ m.schema.upsertConflict, values.has column = true)
      (x : Exchange) (member : x ∈ xs) (asked : m.conflictLookup d values = .ok x.statement)
      (answer : Answered) (came : x.answer d = .ok answer)
      (first : foundKey answer.rows m.schema.primaryKey = .ok (some key)) :
      Leads m d values lastId xs key
  | unfound (x : Exchange) (member : x ∈ xs)
      (asked : m.conflictLookup d values = .ok x.statement) (answer : Answered)
      (came : x.answer d = .ok answer)
      (none : foundKey answer.rows m.schema.primaryKey = .ok none) :
      Leads m d values lastId xs lastId
  | unasked (column : String) (member : column ∈ m.schema.upsertConflict)
      (missing : values.has column = false) : Leads m d values lastId xs lastId

theorem Leads.mono {xs ys : List Exchange} {key : Value} (leads : m.Leads d values lastId xs key)
    (sub : xs ⊆ ys) : m.Leads d values lastId ys key := by
  cases leads with
  | found complete x member asked answer came first =>
    exact .found complete x (sub member) asked answer came first
  | unfound x member asked answer came none => exact .unfound x (sub member) asked answer came none
  | unasked column member missing => exact .unasked column member missing

theorem browses_conflictKey :
    Browses d lastId (m.conflictKey? values) fun outcome xs =>
      (∀ x ∈ xs, m.conflictLookup d values = .ok x.statement) ∧
      ∀ found, outcome = .ok found → m.Leads d values lastId xs (found.getD lastId) := by
  rw [conflictKey?_eq]
  split
  · rename_i complete
    refine browses_judges.asking (fun failure => ⟨nofun, nofun⟩) (fun x asked failure came => ?_)
      fun x asked answer came => browses_judges.of ⟨List.forall_mem_singleton.mpr asked, ?_⟩
    · exact ⟨List.forall_mem_singleton.mpr asked, nofun⟩
    · intro found first
      cases found with
      | none => exact .unfound x List.mem_cons_self asked answer came first
      | some key =>
        exact .found (List.all_eq_true.mp complete) x List.mem_cons_self asked answer came first
  · rename_i lacking
    refine browses_judges.of ⟨nofun, fun found same => ?_⟩
    cases same
    obtain ⟨column, member, missing⟩ := List.all_eq_false.mp (Bool.eq_false_iff.mpr lacking)
    exact .unasked column member (Bool.eq_false_iff.mpr missing)

/-- The key of a row written without a key of its own. -/
theorem browses_writtenKey (keyless : (Row.ofRecord values m.schema.primaryKey).isNull = true) :
    Browses d lastId (m.writtenKey values) fun outcome xs =>
      (∀ x ∈ xs, m.conflictLookup d values = .ok x.statement) ∧
      ∀ key, outcome = .ok key → m.Leads d values lastId xs key := by
  have given : ((values.value? m.schema.primaryKey).getD .null).isNull = true := keyless
  unfold writtenKey
  simp only [given, if_true]
  refine browses_upserting_bind ?_
  simp only [if_true]
  refine Browses.bind (browses_conflictKey.mono fun outcome xs told => ?_)
  obtain ⟨asked, leads⟩ := told
  cases outcome with
  | error failure => exact ⟨asked, nofun⟩
  | ok found =>
    have led := leads found rfl
    cases found with
    | some key =>
      refine browses_judges.of ?_
      rw [List.append_nil]
      refine ⟨asked, fun other same => ?_⟩
      cases same
      exact led
    | none =>
      refine browses_lastId_bind ?_
      split
      · refine browses_judges.of ?_
        rw [List.append_nil]
        exact ⟨asked, nofun⟩
      · refine browses_judges.of ?_
        rw [List.append_nil]
        refine ⟨asked, fun other same => ?_⟩
        cases same
        exact led

/-- On a database that serves the table truly the key is that of the row which was written, unless
nulls were looked for and a row had them before. -/
theorem Leads.written {j : Judge} {rows after : List Row} {written : Row} {xs : List Exchange}
    {key : Value} (leads : m.Leads d values lastId xs key)
    (keyless : (Row.ofRecord values m.schema.primaryKey).isNull = true)
    (apart : j.Apart m.schema.upsertConflict rows)
    (settles : j.Settles m.schema.primaryKey m.schema.upsertConflict rows values (.ok lastId) after
      written)
    (finds : ∀ x ∈ xs, j.Finds d m.schema.table m.schema.primaryKey after x)
    (clear : (∀ column ∈ m.schema.upsertConflict, values.has column = true) →
      (∀ column ∈ m.schema.upsertConflict, (Row.ofRecord values column).isNull = false) ∨
        ∀ old ∈ rows, ¬ j.Matches m.schema.upsertConflict values old) :
    key = written m.schema.primaryKey := by
  cases leads with
  | found complete x member asked answer came first =>
    obtain ⟨condition, asks, text⟩ := keyRow_ok asked
    rcases finds x member condition answer text came with ⟨none, _⟩ | ⟨record, rest, some, found⟩
    · rw [none] at first
      cases first
    · obtain ⟨row, inside, holds, own⟩ := found
      have same := settles.only apart (clear complete) inside (Judge.holds_values asks |>.mp holds)
      simp only [some, foundKey, columnValue, own, ok_bind] at first
      cases pure_ok first
      rw [same]
  | unfound x member asked answer came none =>
    obtain ⟨condition, asks, text⟩ := keyRow_ok asked
    rcases finds x member condition answer text came with ⟨_, nothing⟩ | ⟨record, rest, some, _⟩
    · refine Except.ok.inj (settles.told_of_none keyless fun row inside matched => ?_)
      have holds := (Judge.holds_values asks).mpr matched
      rw [nothing row inside] at holds
      cases holds
    · simp only [some, foundKey] at none
      obtain ⟨_, _, impossible⟩ := bind_ok none
      cases impossible
  | unasked column member missing => exact Except.ok.inj (settles.told_of_missing member missing)

/-! ## Reading the row again -/

theorem resource_of_bare (bare : m.schema.hooks = []) (key : Value) (mode : TrashedMode) :
    m.resource key mode = (do
      let plan ← Session.of (m.keyPlan key mode)
      Session.log .debug (planMessage plan)
      let d ← dialect
      let f ← Session.of (plan.fetchSql d)
      let answer ← execute f
      let data ← Session.of (m.handedOut plan answer)
      pure ⟨m.schema.name, m.schema.primaryKey, data⟩) := by
  simp only [Model.resource, fetchRow, planFor, planRows, Plan.fetchSql, fetch, select, of_bind,
    bind_assoc, pure_bind]
  refine bind_congr fun plan => bind_congr fun _ => bind_congr fun d => bind_congr fun _ => ?_
  refine bind_congr fun f => bind_congr fun answer => ?_
  unfold handedOut
  cases answer.rows with
  | nil => rfl
  | cons record rest =>
    simp only [shown, atPoint_of_bare bare, hooked_of_bare bare, of_bind, bind_assoc]
    rfl

theorem browses_resource (bare : m.schema.hooks = []) (key : Value) (mode : TrashedMode) :
    Browses d lastId (m.resource key mode) fun outcome xs =>
      (∀ x ∈ xs, ∃ plan, m.keyPlan key mode = .ok plan ∧ plan.fetchSql d = .ok x.statement) ∧
      ∀ resource, outcome = .ok resource → ∃ data,
        resource = ⟨m.schema.name, m.schema.primaryKey, data⟩ ∧ m.HandedOut d xs key mode data := by
  rw [resource_of_bare bare]
  refine browses_judges.of_bind (fun _ _ => ⟨nofun, nofun⟩) fun plan compiled => browses_log_bind ?_
  refine browses_judges.asking (fun _ => ⟨nofun, nofun⟩) (fun x asked failure came => ?_)
    fun x asked answer came => ?_
  · exact ⟨List.forall_mem_singleton.mpr ⟨plan, compiled, asked⟩, nofun⟩
  · refine browses_judges.of_bind (fun _ _ => ?_) fun data handed => browses_judges.of ?_
    · exact ⟨List.forall_mem_singleton.mpr ⟨plan, compiled, asked⟩, nofun⟩
    · refine ⟨List.forall_mem_singleton.mpr ⟨plan, compiled, asked⟩, fun resource same => ?_⟩
      cases same
      refine ⟨data, rfl, plan, compiled, x, List.mem_cons_self, asked, ?_⟩
      rw [came, ok_bind]
      exact handed

end Model

end Curator
