import Curator.Proofs.Hook.Touched
import Curator.Proofs.Lifecycle.Parallel
/-!
# How the updates of hooks compound

Running hooks is one loop, whatever the hooks are: those of a table or any work that reads the record
and returns updates.  The record and the merged updates stay in step throughout, so the merged ones
laid over the first record give the last one.
-/

set_option autoImplicit false

namespace Curator

open Session

/-! ## Laying over in two steps -/

namespace Mapping

variable {α : Type}

theorem mem_keys_put_iff {m : Mapping α} {key other : String} {value : α} :
    other ∈ (m.put key value).keys ↔ other = key ∨ other ∈ m.keys := by
  refine ⟨mem_keys_put, fun there => ?_⟩
  have found : (m.put key value).has other =
      (if other = key then some value else m.value? other).isSome :=
    congrArg Option.isSome (value?_put m key other value)
  rw [← has_iff_mem_keys, found]
  split
  · rfl
  · rename_i different
    exact has_of_mem_keys (there.resolve_left different)

/-- A key that is there keeps its place, so what is put under another may come before or after. -/
theorem put_comm {m : Mapping α} {key other : String} (there : key ∈ m.keys) (apart : other ≠ key)
    (value last : α) : (m.put other last).put key value = (m.put key value).put other last := by
  induction m with
  | nil => cases there
  | cons entry rest ih =>
    obtain ⟨k, v⟩ := entry
    by_cases own : k = key
    · subst own
      simp [put, Ne.symm apart]
    · have later : key ∈ keys rest := (List.mem_cons.mp there).resolve_left (Ne.symm own)
      by_cases same : k = other
      · subst same
        simp [put, own]
      · simp [put, own, same, ih later]

theorem overlay_put_of_not_mem {m updates : Mapping α} {key : String} (there : key ∈ m.keys)
    (absent : key ∉ updates.keys) (value : α) :
    (m.overlay updates).put key value = (m.put key value).overlay updates := by
  induction updates generalizing m with
  | nil => rfl
  | cons entry rest ih =>
    obtain ⟨k, v⟩ := entry
    obtain ⟨apart, others⟩ := List.ne_and_not_mem_of_not_mem_cons absent
    have still : key ∈ (m.put k v).keys := mem_keys_put_iff.mpr (Or.inr there)
    calc ((m.put k v).overlay rest).put key value
        = ((m.put k v).put key value).overlay rest := ih still others
      _ = ((m.put key value).put k v).overlay rest := by rw [put_comm there (Ne.symm apart)]

theorem overlay_put {updates : Mapping α} (distinct : updates.keys.Nodup) (m : Mapping α)
    (key : String) (value : α) : m.overlay (updates.put key value) = (m.overlay updates).put key value := by
  induction updates generalizing m with
  | nil => rfl
  | cons entry rest ih =>
    obtain ⟨k, v⟩ := entry
    obtain ⟨absent, others⟩ := List.nodup_cons.mp distinct
    by_cases same : k = key
    · subst same
      have laid : m.overlay (put k value ((k, v) :: rest)) = (m.put k value).overlay rest := by
        simp only [put, if_true]
        rfl
      calc m.overlay (put k value ((k, v) :: rest))
          = ((m.put k v).put k value).overlay rest := by rw [laid, put_put]
        _ = ((m.put k v).overlay rest).put k value :=
            (overlay_put_of_not_mem (mem_keys_put_iff.mpr (Or.inl rfl)) absent value).symm
    · simp only [put, if_neg same]
      exact ih others (m.put k v)

/-- Laying over what was itself laid over is laying over twice. -/
theorem overlay_overlay {updates : Mapping α} (distinct : updates.keys.Nodup) (m more : Mapping α) :
    m.overlay (updates.overlay more) = (m.overlay updates).overlay more := by
  induction more generalizing updates with
  | nil => rfl
  | cons entry rest ih =>
    calc m.overlay ((updates.put entry.1 entry.2).overlay rest)
        = (m.overlay (updates.put entry.1 entry.2)).overlay rest :=
          ih (nodup_put distinct entry.1 entry.2)
      _ = ((m.overlay updates).put entry.1 entry.2).overlay rest := by
          rw [overlay_put distinct]

theorem put_ne_nil (m : Mapping α) (key : String) (value : α) : m.put key value ≠ [] := by
  intro empty
  have member : key ∈ (m.put key value).keys := mem_keys_put_iff.mpr (Or.inl rfl)
  rw [empty] at member
  cases member

theorem overlay_eq_nil {m updates : Mapping α} : m.overlay updates = [] ↔ m = [] ∧ updates = [] := by
  induction updates generalizing m with
  | nil => simp [overlay]
  | cons entry rest ih =>
    have step : m.overlay (entry :: rest) = (m.put entry.1 entry.2).overlay rest := rfl
    rw [step, ih]
    simp [put_ne_nil]

end Mapping

/-! ## One loop for all hooks -/

/-- A call of a hook that has ended: the record it leaves, with what it returns or fails with. -/
structure Hook.Called where
  record : Record
  returned : Except Failure (Option HookResult)

namespace Hook

/-- What a call contributes at a point: its updates, or the failure that ends the run of hooks. -/
def Called.judged (point : String) (called : Called) : Except Failure Record :=
  match called.returned with
  | .error failure => .error failure
  | .ok none => .ok []
  | .ok (some result) =>
    if result.abort.truthy then .error (.field (.aborted point result.abort.text))
    else .ok result.update

/-- A call of a hook of a table. -/
def call (perform : Step → Session Answer) (context : HookContext) (hook : Hook)
    (record : Record) : Session Called := do
  Session.record (.hookRan hook.label context record)
  performCalls perform hook.calls
  match hook.failure with
  | some (category, words) => pure ⟨record, .error (.reported category words)⟩
  | none => pure ⟨record.overlay hook.assignments, .ok hook.result⟩

/-- What a name in a schema stands for, if it is registered; see `HookTable.declared?`. -/
def found? {α : Type} (registry : Mapping α) : Value → Except Failure (Option α)
  | .str name => .ok (registry.value? name)
  | .list _ => .error (.fault .type "unhashable type: 'list'")
  | .dict _ => .error (.fault .type "unhashable type: 'dict'")
  | _ => .ok none

/-- Runs the named hooks of any registry in order, where `call` calls one on a record. -/
def runEach {α : Type} (call : α → Record → Session Called) (registry : Mapping α)
    (context : HookContext) : List Value → Record → Record → Session HookRun
  | [], record, updates => pure ⟨record, .ok updates⟩
  | name :: rest, record, updates =>
    match found? registry name with
    | .error failure => pure ⟨record, .error failure⟩
    | .ok none => do
      Session.log .warning (skippedMessage name)
      runEach call registry context rest record updates
    | .ok (some hook) => do
      Session.log .debug (runningMessage context name)
      let called ← call hook record
      match called.judged context.point with
      | .error failure => pure ⟨called.record, .error failure⟩
      | .ok more =>
        runEach call registry context rest (called.record.overlay more) (updates.overlay more)

theorem found?_eq_declared? (table : HookTable) (name : Value) :
    found? table name = table.declared? name := by
  cases name <;> rfl

theorem run_eq_call (perform : Step → Session Answer) (context : HookContext) (hook : Hook)
    (record : Record) : hook.run perform context record = (do
      let called ← call perform context hook record
      pure (match called.judged context.point with
        | .error failure => ⟨called.record, .error failure⟩
        | .ok more => ⟨called.record.overlay more, .ok more⟩)) := by
  unfold Hook.run Hook.call
  simp only [bind_assoc]
  refine bind_congr fun _ => bind_congr fun _ => ?_
  cases hook.failure with
  | some cause => rfl
  | none =>
    cases result : hook.result with
    | none => rfl
    | some given =>
      simp only [pure_bind, Called.judged]
      split
      · rfl
      · rfl

/-- Running the hooks of a table is that loop. -/
theorem runAll_eq_runEach (perform : Step → Session Answer) (table : HookTable)
    (context : HookContext) (names : List Value) (record updates : Record) :
    runAll perform table context names record updates =
      runEach (call perform context) table context names record updates := by
  induction names generalizing record updates with
  | nil => rfl
  | cons name rest ih =>
    unfold runAll runEach
    rw [found?_eq_declared?]
    rcases table.declared? name with failure | _ | hook
    · rfl
    · exact bind_congr fun _ => ih record updates
    · refine bind_congr fun _ => ?_
      rw [run_eq_call, bind_assoc]
      refine bind_congr fun called => ?_
      rw [pure_bind]
      cases called.judged context.point with
      | error failure => rfl
      | ok more => exact ih _ _

/-! ## Hooks that only read -/

/-- A hook that reads its context and the record there and changes neither.  It may do work of any
kind, and it returns updates or a reason to give up, or nothing, or fails. -/
abbrev Reader := HookContext → Record → Session (Option HookResult)

/-- A call of a reader. -/
def Reader.call (context : HookContext) (reader : Reader) (record : Record) : Session Called := do
  let returned ← Session.outcomeOf (reader context record)
  pure ⟨record, returned⟩

/-- Runs the named readers of a registry in order on a record. -/
def runReaders (registry : Mapping Reader) (context : HookContext) (names : List String)
    (record updates : Record) : Session HookRun :=
  runEach (Reader.call context) registry context (names.map .str) record updates

/-- A call of a reader that was made: the record it was given and what it came to. -/
structure Turn where
  name : String
  given : Record
  ran : Ran (Option HookResult)

namespace Turn

/-- The updates that were returned. -/
def updates (turn : Turn) : Record :=
  match turn.ran.outcome with
  | .ok (some result) => result.update
  | _ => []

/-- The failure with which a call ends the run of hooks: its own, or the refusal that it asks for. -/
def ending? (point : String) (turn : Turn) : Option Failure :=
  match turn.ran.outcome with
  | .error failure => some failure
  | .ok none => none
  | .ok (some result) =>
    if result.abort.truthy then some (.field (.aborted point result.abort.text)) else none

/-- A record with the updates of some calls laid over it in order. -/
def compounded (record : Record) (turns : List Turn) : Record :=
  turns.foldl (fun record turn => record.overlay turn.updates) record

/-- The state that the last of some calls left. -/
def stateAfter (s : SessionState) (turns : List Turn) : SessionState :=
  turns.foldl (fun _ turn => turn.ran.state) s

theorem judged (point : String) (turn : Turn) :
    Called.judged point ⟨turn.given, turn.ran.outcome⟩ =
      match turn.ending? point with
      | some failure => .error failure
      | none => .ok turn.updates := by
  unfold Called.judged ending? updates
  simp only
  rcases turn.ran.outcome with failure | _ | result
  · rfl
  · rfl
  · simp only
    cases result.abort.truthy <;> rfl

/-- The merged updates are in step with the record. -/
theorem overlay_compounded {updates : Record} (distinct : updates.keys.Nodup) (record : Record)
    (turns : List Turn) :
    record.overlay (compounded updates turns) = compounded (record.overlay updates) turns := by
  induction turns generalizing updates with
  | nil => rfl
  | cons turn later ih =>
    calc record.overlay (compounded (updates.overlay turn.updates) later)
        = compounded (record.overlay (updates.overlay turn.updates)) later :=
          ih (Mapping.nodup_overlay distinct turn.updates)
      _ = compounded ((record.overlay updates).overlay turn.updates) later := by
          rw [Mapping.overlay_overlay distinct]

theorem compounded_eq_nil {updates : Record} {turns : List Turn} :
    compounded updates turns = [] ↔ updates = [] ∧ ∀ turn ∈ turns, turn.updates = [] := by
  induction turns generalizing updates with
  | nil => simp [compounded]
  | cons turn later ih =>
    have step : compounded updates (turn :: later) = compounded (updates.overlay turn.updates) later :=
      rfl
    rw [step, ih, Mapping.overlay_eq_nil, List.forall_mem_cons, and_assoc]

end Turn

/-! ## Runs of readers -/

/-- Some of the first registered names of a list are called, in its order, each on what the calls
before it left; all of them but the last let the run go on. -/
structure Calls (registry : Mapping Reader) (context : HookContext) (names : List String)
    (record : Record) (s : SessionState) (turns : List Turn) : Prop where
  inOrder : turns.map (·.name) <+: names.filter registry.has
  onLeft : ∀ before turn later, turns = before ++ turn :: later →
    turn.given = Turn.compounded record before ∧
      ∃ reader, registry.value? turn.name = some reader ∧
        turn.ran = reader context turn.given (Turn.stateAfter s before)
  goOn : ∀ before turn later, turns = before ++ turn :: later → later ≠ [] →
    turn.ending? context.point = none

/-- What a run of readers leaves besides messages is what its calls left. -/
structure Calls.Leave (turns : List Turn) (s : SessionState) (ran : Ran HookRun) : Prop where
  state : ran.state = Turn.stateAfter s turns
  entries : ran.entries.filter (·.message?.isNone) =
    turns.flatMap fun turn => turn.ran.entries.filter (·.message?.isNone)

variable {registry : Mapping Reader} {context : HookContext} {name : String} {names : List String}
  {record updates : Record} {s : SessionState} {turns : List Turn}

/-- The call of a reader on a record in a state. -/
def Reader.turn (reader : Reader) (context : HookContext) (name : String) (record : Record)
    (s : SessionState) : Turn :=
  ⟨name, record, reader context record s⟩

theorem Calls.none : Calls registry context names record s [] :=
  ⟨List.nil_prefix, by simp, by simp⟩

theorem Calls.skip (calls : Calls registry context names record s turns)
    (absent : registry.value? name = .none) : Calls registry context (name :: names) record s turns := by
  have unregistered : registry.has name = false := congrArg Option.isSome absent
  refine { calls with inOrder := ?_ }
  rw [List.filter_cons, unregistered]
  exact calls.inOrder

/-- One call, then those of the rest on what it left, if it lets them go on. -/
theorem Calls.call {reader : Reader} (found : registry.value? name = some reader)
    (calls : let turn := reader.turn context name record s
      Calls registry context names (record.overlay turn.updates) turn.ran.state turns)
    (on : turns ≠ [] → (reader.turn context name record s).ending? context.point = .none) :
    Calls registry context (name :: names) record s
      (reader.turn context name record s :: turns) := by
  have registered : registry.has name = true := congrArg Option.isSome found
  refine ⟨?_, fun before turn later split => ?_, fun before turn later split => ?_⟩
  · rw [List.filter_cons, registered]
    exact (List.cons_prefix_cons).mpr ⟨rfl, calls.inOrder⟩
  · cases before with
    | nil =>
      cases split
      exact ⟨rfl, reader, found, rfl⟩
    | cons first before =>
      cases split
      exact calls.onLeft before turn later rfl
  · cases before with
    | nil =>
      cases split
      exact on
    | cons first before =>
      cases split
      exact calls.goOn before turn later rfl

/-- How a run of readers ends: with the failure of its last call, or with all the updates when each
registered name was called. -/
def Ends (registry : Mapping Reader) (context : HookContext) (names : List String)
    (record updates : Record) (turns : List Turn) (outcome : Except Failure HookRun) : Prop :=
  (∃ before last failure, turns = before ++ [last] ∧ last.ending? context.point = some failure ∧
    outcome = .ok ⟨Turn.compounded record before, .error failure⟩) ∨
  ((∀ turn ∈ turns, turn.ending? context.point = .none) ∧
    turns.map (·.name) = names.filter registry.has ∧
    outcome = .ok ⟨Turn.compounded record turns, .ok (Turn.compounded updates turns)⟩)

theorem runReaders_skip (absent : registry.value? name = .none) :
    runReaders registry context (name :: names) record updates s =
      let rest := runReaders registry context names record updates s
      ⟨rest.outcome, rest.state, .logged .warning (skippedMessage (.str name)) :: rest.entries⟩ := by
  unfold runReaders
  rw [List.map_cons, runEach]
  simp only [found?, absent]
  rfl

theorem Reader.call_bind {β : Type} (reader : Reader) (name : String)
    (next : Called → Session β) :
    (reader.call context record >>= next) s =
      let turn := reader.turn context name record s
      let after := next ⟨turn.given, turn.ran.outcome⟩ turn.ran.state
      ⟨after.outcome, after.state, turn.ran.entries ++ after.entries⟩ := by
  unfold Reader.call Reader.turn
  rw [bind_assoc]
  rfl

theorem runReaders_call {reader : Reader} (found : registry.value? name = some reader) :
    runReaders registry context (name :: names) record updates s =
      let turn := reader.turn context name record s
      let after := match turn.ending? context.point with
        | some failure => (⟨.ok ⟨record, .error failure⟩, turn.ran.state, []⟩ : Ran HookRun)
        | none => runReaders registry context names (record.overlay turn.updates)
            (updates.overlay turn.updates) turn.ran.state
      ⟨after.outcome, after.state, .logged .debug (runningMessage context (.str name)) ::
        (turn.ran.entries ++ after.entries)⟩ := by
  unfold runReaders
  rw [List.map_cons, runEach]
  simp only [found?, found]
  rw [log, record_bind, Reader.call_bind reader name]
  simp only [Turn.judged]
  cases (reader.turn context name record s).ending? context.point <;> rfl

theorem Ends.skip {outcome : Except Failure HookRun}
    (ends : Ends registry context names record updates turns outcome)
    (absent : registry.value? name = .none) :
    Ends registry context (name :: names) record updates turns outcome := by
  have unregistered : registry.has name = false := congrArg Option.isSome absent
  unfold Ends
  rw [List.filter_cons, unregistered]
  exact ends

/-- A run goes on behind a call that lets it go on, and ends as the rest ends. -/
theorem Ends.call {reader : Reader} {outcome : Except Failure HookRun}
    (found : registry.value? name = some reader)
    (on : (reader.turn context name record s).ending? context.point = .none)
    (ends : let turn := reader.turn context name record s
      Ends registry context names (record.overlay turn.updates) (updates.overlay turn.updates) turns
        outcome) :
    Ends registry context (name :: names) record updates
      (reader.turn context name record s :: turns) outcome := by
  have registered : registry.has name = true := congrArg Option.isSome found
  rcases ends with ⟨before, last, failure, split, ended, came⟩ | ⟨allOn, all, came⟩
  · refine Or.inl ⟨reader.turn context name record s :: before, last, failure, ?_, ended, came⟩
    rw [split, List.cons_append]
  · refine Or.inr ⟨List.forall_mem_cons.mpr ⟨on, allOn⟩, ?_, came⟩
    rw [List.filter_cons_of_pos registered, List.map_cons, all]
    rfl

theorem runReaders_calls (registry : Mapping Reader) (context : HookContext) (names : List String)
    (record updates : Record) (s : SessionState) : ∃ turns,
      Calls registry context names record s turns ∧
        Calls.Leave turns s (runReaders registry context names record updates s) ∧
        Ends registry context names record updates turns
          (runReaders registry context names record updates s).outcome := by
  induction names generalizing record updates s with
  | nil => exact ⟨[], .none, ⟨rfl, rfl⟩, Or.inr ⟨by simp, rfl, rfl⟩⟩
  | cons name rest ih =>
    cases found : registry.value? name with
    | none =>
      obtain ⟨turns, calls, leave, ends⟩ := ih record updates s
      rw [runReaders_skip found]
      exact ⟨turns, calls.skip found, ⟨leave.state, leave.entries⟩, ends.skip found⟩
    | some reader =>
      rw [runReaders_call found]
      let turn := reader.turn context name record s
      cases ending : turn.ending? context.point with
      | some failure =>
        simp only [turn] at ending
        simp only [ending, List.append_nil]
        refine ⟨[turn], Calls.none.call found (absurd rfl), ⟨rfl, ?_⟩,
          Or.inl ⟨[], turn, failure, rfl, ending, rfl⟩⟩
        exact (List.append_nil _).symm
      | none =>
        obtain ⟨turns, calls, leave, ends⟩ :=
          ih (record.overlay turn.updates) (updates.overlay turn.updates) turn.ran.state
        simp only [turn] at ending
        simp only [ending]
        refine ⟨turn :: turns, calls.call found fun _ => ending, ⟨leave.state, ?_⟩,
          Ends.call found ending ends⟩
        exact (List.filter_append _ _).trans (congrArg (_ ++ ·) leave.entries)

/-! ## Hooks of a table that only read -/

/-- A hook of a table as a reader, for one that sets no fields of the record. -/
def reader (perform : Step → Session Answer) (hook : Hook) : Reader := fun context record => do
  Session.record (.hookRan hook.label context record)
  performCalls perform hook.calls
  match hook.failure with
  | some (category, words) => fail (.reported category words)
  | none => pure hook.result

/-- The hooks of a table as readers. -/
def readers (perform : Step → Session Answer) (table : HookTable) : Mapping Reader :=
  table.map fun (name, hook) => (name, hook.reader perform)

theorem performCalls_returns (perform : Step → Session Answer) (steps : List Step)
    (s : SessionState) : (performCalls perform steps s).outcome = .ok () := by
  induction steps generalizing s with
  | nil => rfl
  | cons step rest ih =>
    unfold performCalls
    exact ih _

/-- The outcome of work that begins with a part that always returns. -/
theorem outcomeOf_after {α : Type} {first : Session Unit}
    (returns : ∀ s, (first s).outcome = .ok ()) (next : Session α) :
    outcomeOf (do first; next) = (do first; outcomeOf next) := by
  funext s
  have ran : (first >>= fun _ => next) s = _ := ran_on (returns s)
  have seen : (first >>= fun _ => outcomeOf next) s = _ := ran_on (returns s)
  rw [seen]
  simp only [outcomeOf]
  rw [ran]

theorem call_eq_reader {hook : Hook} (reads : hook.assignments = [])
    (perform : Step → Session Answer) (context : HookContext) (record : Record) :
    hook.call perform context record = Reader.call context (hook.reader perform) record := by
  unfold Hook.call reader Reader.call
  rw [outcomeOf_after fun _ => rfl, outcomeOf_after (performCalls_returns perform hook.calls)]
  simp only [bind_assoc]
  refine bind_congr fun _ => bind_congr fun _ => ?_
  rw [reads]
  cases hook.failure with
  | some cause => rfl
  | none => rfl

theorem value?_readers (perform : Step → Session Answer) (table : HookTable) (name : String) :
    (readers perform table).value? name = (table.value? name).map (Hook.reader perform) := by
  induction table with
  | nil => rfl
  | cons entry rest ih =>
    obtain ⟨other, hook⟩ := entry
    have step : readers perform ((other, hook) :: rest) =
        (other, hook.reader perform) :: readers perform rest := rfl
    rw [step, Mapping.value?_cons, Mapping.value?_cons, ih]
    split <;> rfl

/-- Running hooks of a table that set no fields is running readers. -/
theorem runAll_eq_runReaders {table : HookTable} (reads : ∀ entry ∈ table, entry.2.assignments = [])
    (perform : Step → Session Answer) (context : HookContext) (names : List String)
    (record updates : Record) :
    runAll perform table context (names.map .str) record updates =
      runReaders (readers perform table) context names record updates := by
  rw [runAll_eq_runEach]
  unfold runReaders
  induction names generalizing record updates with
  | nil => rfl
  | cons name rest ih =>
    rw [List.map_cons, runEach, runEach]
    simp only [found?, value?_readers]
    cases found : table.value? name with
    | none => exact bind_congr fun _ => ih record updates
    | some hook =>
      refine bind_congr fun _ => ?_
      rw [call_eq_reader (reads _ (Mapping.mem_of_value? found))]
      refine bind_congr fun called => ?_
      cases called.judged context.point with
      | error failure => rfl
      | ok more => exact ih _ _

end Hook

/-! ## The law -/

/-- Merged updates as a result; where there are none there is no result. -/
def HookResult.merging : Record → Option HookResult
  | [] => none
  | updates => some ⟨updates, .null⟩

/-- What a run of hooks returns, or the failure that ended it. -/
def HookRun.returned (run : HookRun) : Except Failure (Option HookResult) :=
  run.updates.map HookResult.merging

theorem HookResult.merging_eq_none {updates : Record} : merging updates = none ↔ updates = [] := by
  cases updates <;> simp [merging]

theorem HookResult.update_of_merging {updates : Record} {merged : HookResult}
    (returned : merging updates = some merged) : merged.update = updates := by
  cases updates with
  | nil => cases returned
  | cons entry rest =>
    cases returned
    rfl

namespace Hook

/-- The hooks of a table that set no fields are run like readers, and readers that are run on a record
compound.  Those registered are called in the order of their names, each on the record as the updates
before it left it, until one ends the run with its failure, which is then what the run comes to.
Otherwise all are called, and what the run returns gives the last record when laid over the first. -/
theorem updates_compound :
    (∀ (perform : Step → Session Answer) (table : HookTable) (context : HookContext)
        (names : List String) (record : Record), (∀ entry ∈ table, entry.2.assignments = []) →
      runAll perform table context (names.map .str) record [] =
        runReaders (readers perform table) context names record []) ∧
    ∀ (registry : Mapping Reader) (context : HookContext) (names : List String) (record : Record)
        (s : SessionState), ∃ turns run,
      let ran := runReaders registry context names record [] s
      Calls registry context names record s turns ∧ Calls.Leave turns s ran ∧ ran.outcome = .ok run ∧
      ((∃ before last failure, turns = before ++ [last] ∧ last.ending? context.point = some failure ∧
          run.record = Turn.compounded record before ∧ run.returned = .error failure) ∨
        ((∀ turn ∈ turns, turn.ending? context.point = none) ∧
          turns.map (·.name) = names.filter registry.has ∧
          run.record = Turn.compounded record turns ∧
          ∃ result, run.returned = .ok result ∧
            (result = none ↔ ∀ turn ∈ turns, turn.updates = []) ∧
            ∀ merged, result = some merged → record.overlay merged.update = run.record)) := by
  refine ⟨fun perform table context names record reads =>
    runAll_eq_runReaders reads perform context names record [], ?_⟩
  intro registry context names record s
  obtain ⟨turns, calls, leave, ends⟩ := runReaders_calls registry context names record [] s
  rcases ends with ⟨before, last, failure, split, ended, came⟩ | ⟨on, all, came⟩
  · exact ⟨turns, _, calls, leave, came, Or.inl ⟨before, last, failure, split, ended, rfl, rfl⟩⟩
  · refine ⟨turns, _, calls, leave, came, Or.inr ⟨on, all, rfl, _, rfl, ?_, ?_⟩⟩
    · rw [HookResult.merging_eq_none, Turn.compounded_eq_nil, and_iff_right rfl]
    · intro merged returned
      rw [HookResult.update_of_merging returned]
      have distinct : (Mapping.keys ([] : Record)).Nodup := List.nodup_nil
      exact Turn.overlay_compounded distinct record turns

/-- Two hooks that return updates. -/
def titling : HookTable :=
  [("title", ⟨"title", [], none, [], some ⟨[("title", .str "Home")], .null⟩⟩),
    ("slug", ⟨"slug", [], none, [], some ⟨[("slug", .str "home")], .null⟩⟩)]

/-- A name that nobody registered is passed over, and a name that is given twice is called twice. -/
theorem titling_compounds :
    let perform := fun _ => Session.fail endless
    let context := HookContext.at (.str "page") "beforeCreate" [("title", .str "")] none
    let names := ["title", "stamp", "slug", "title"]
    (∀ entry ∈ titling, entry.2.assignments = []) ∧
    runAll perform titling context (names.map .str) [("title", .str "")] [] =
      runReaders (readers perform titling) context names [("title", .str "")] [] ∧
    (runAll perform titling context (names.map .str) [("title", .str "")] []
        ⟨.closed .sqlite "" [], .empty, .idle⟩).outcome =
      .ok ⟨[("title", .str "Home"), ("slug", .str "home")],
        .ok [("title", .str "Home"), ("slug", .str "home")]⟩ := by
  intro perform context names
  have reads : ∀ entry ∈ titling, entry.2.assignments = [] := by
    intro entry member
    rcases List.mem_cons.mp member with rfl | member
    · rfl
    · rw [List.mem_singleton.mp member]
  exact ⟨reads, updates_compound.1 perform titling context names [("title", .str "")] reads, rfl⟩

end Hook

end Curator
