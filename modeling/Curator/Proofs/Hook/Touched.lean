import Curator.Proofs.Hook.Quiet
import Curator.Proofs.Mapping
/-!
# What quiet hooks touch

Running hooks that ask for nothing is recording some entries and giving the record they leave, in
whatever state that is.  This record differs from the one they got in no column but those that they set
or update.
-/

set_option autoImplicit false

namespace Curator

open Session

/-! ## Mappings -/

namespace Mapping

variable {α : Type}

theorem value?_overlay_other {m updates : Mapping α} {key : String} (apart : key ∉ updates.keys) :
    (m.overlay updates).value? key = m.value? key := by
  induction updates generalizing m with
  | nil => rfl
  | cons entry rest ih =>
    rcases entry with ⟨k, v⟩
    obtain ⟨different, others⟩ := List.ne_and_not_mem_of_not_mem_cons apart
    have later : (m.overlay ((k, v) :: rest)) = (m.put k v).overlay rest := rfl
    rw [later, ih others, value?_put_other m v different]

theorem nodup_overlay {m : Mapping α} (distinct : m.keys.Nodup) (updates : Mapping α) :
    (m.overlay updates).keys.Nodup := by
  induction updates generalizing m with
  | nil => exact distinct
  | cons entry rest ih => exact ih (nodup_put distinct entry.1 entry.2)

/-- A key of a mapping has a value. -/
theorem value?_of_mem_keys {m : Mapping α} {key : String} (member : key ∈ m.keys) :
    ∃ v, m.value? key = some v :=
  Option.isSome_iff_exists.mp (has_of_mem_keys member)

end Mapping

/-! ## Entries that are recorded -/

/-- Records entries one after the other. -/
def Session.recordAll (entries : List Entry) : Session Unit :=
  fun s => ⟨.ok (), s, entries⟩

namespace Session

theorem recordAll_bind {α : Type} (first second : List Entry) (next : Unit → Session α) :
    (recordAll first >>= fun _ => recordAll second >>= next) =
      recordAll (first ++ second) >>= next := by
  funext s
  simp only [Bind.bind, andThen, recordAll, List.append_assoc]

theorem recordAll_of {α : Type} (entries : List Entry) (result : Except Failure α)
    (s : SessionState) : (recordAll entries >>= fun _ => of result) s = ⟨result, s, entries⟩ := by
  simp only [Bind.bind, andThen, recordAll, of, List.append_nil]

end Session

/-! ## Hooks -/

/-- A hook sets a column of the record, or updates it with what it returns. -/
def Hook.Touches (hook : Hook) (column : String) : Prop :=
  column ∈ hook.assignments.keys ∨ ∃ result, hook.result = some result ∧ column ∈ result.update.keys

namespace Hook

variable {table : HookTable} {context : HookContext} {perform : Step → Session Answer}

theorem run_quiet {hook : Hook} (quiet : hook.calls = []) (record : Record) :
    hook.run perform context record = (do
      recordAll [.hookRan hook.label context record]
      pure (hook.left context record)) := by
  rw [run_eq, quiet]
  rfl

/-- Running quiet hooks is recording that they run and giving what they leave. -/
theorem runAll_quiet (perform : Step → Session Answer) (context : HookContext)
    {names : List Value}
    (quiet : ∀ name ∈ names, ∀ hook, table.declared? name = .ok (some hook) → hook.calls = [])
    (record updates : Record) : ∃ entries,
      runAll perform table context names record updates = (do
        recordAll entries
        pure (leftByAll table context names record updates)) := by
  induction names generalizing record updates with
  | nil => exact ⟨[], rfl⟩
  | cons name rest ih =>
    have others := ih fun other member => quiet other (List.mem_cons_of_mem name member)
    unfold runAll leftByAll
    cases declared : table.declared? name with
    | error failure => exact ⟨[], rfl⟩
    | ok found =>
      cases found with
      | none =>
        obtain ⟨entries, same⟩ := others record updates
        simp only [same]
        exact ⟨_, recordAll_bind [_] entries _⟩
      | some hook =>
        simp only [run_quiet (quiet name List.mem_cons_self hook declared), bind_assoc, pure_bind]
        cases (hook.left context record).updates with
        | error failure => exact ⟨_, recordAll_bind [_] [_] _⟩
        | ok more =>
          obtain ⟨entries, same⟩ := others (hook.left context record).record (updates.overlay more)
          simp only [same]
          let ran : List Entry := [.logged .debug (runningMessage context name)] ++
            [.hookRan hook.label context record]
          exact ⟨ran ++ entries, (recordAll_bind [_] [_] _).trans (recordAll_bind ran entries _)⟩

theorem left_untouched {hook : Hook} {record : Record} {column : String}
    (untouched : ¬ hook.Touches column) :
    (hook.left context record).record.value? column = record.value? column := by
  obtain ⟨unset, kept⟩ := not_or.mp untouched
  have assigned : (record.overlay hook.assignments).value? column = record.value? column :=
    Mapping.value?_overlay_other unset
  unfold left
  split
  · rfl
  · simp only
    split
    · exact assigned
    · rename_i result returned
      split
      · exact assigned
      · have other : column ∉ result.update.keys := fun member => kept ⟨result, returned, member⟩
        exact (Mapping.value?_overlay_other other).trans assigned

theorem nodup_left {hook : Hook} {record : Record} (distinct : record.keys.Nodup) :
    (hook.left context record).record.keys.Nodup := by
  have assigned := Mapping.nodup_overlay distinct hook.assignments
  unfold left
  split
  · exact distinct
  · simp only
    split
    · exact assigned
    · split
      · exact assigned
      · exact Mapping.nodup_overlay assigned _

/-- What every hook keeps of a record is kept by all of them. -/
theorem leftByAll_invariant {names : List Value} {P : Record → Prop} {record updates : Record}
    (keeps : ∀ name ∈ names, ∀ hook, table.declared? name = .ok (some hook) → ∀ record, P record →
      P (hook.left context record).record) (start : P record) :
    P (leftByAll table context names record updates).record := by
  induction names generalizing record updates with
  | nil => exact start
  | cons name rest ih =>
    have others := fun {record updates} => @ih record updates fun other member =>
      keeps other (List.mem_cons_of_mem name member)
    unfold leftByAll
    split
    · exact start
    · exact others start
    · rename_i hook declared
      have left := keeps name List.mem_cons_self hook declared record start
      split
      · exact left
      · exact others left

end Hook

namespace Model

variable {m : Model} {point : HookPoint} {record result : Record} {previous : Option Record}

/-- A hook of a point sets or updates a column. -/
def Touches (m : Model) (point : HookPoint) (column : String) : Prop :=
  ∃ name ∈ m.schema.hookNames point.name, ∃ hook,
    m.engine.hooks.declared? name = .ok (some hook) ∧ hook.Touches column

theorem Quiet.atPoint_eq (quiet : m.Quiet) (point : HookPoint) (record : Record)
    (previous : Option Record) : ∃ entries, m.atPoint point record previous = (do
      recordAll entries
      Session.of (m.hooked point record previous)) := by
  unfold Model.atPoint hooked
  split
  · rename_i none
    rw [none]
    exact ⟨[], rfl⟩
  · obtain ⟨entries, same⟩ := Hook.runAll_quiet m.perform
      (.at m.schema.name point.name record previous) (quiet point) record []
    refine ⟨entries, ?_⟩
    simp only [same, bind_assoc, pure_bind]
    cases (Hook.leftByAll m.engine.hooks (.at m.schema.name point.name record previous)
      (m.schema.hookNames point.name) record []).updates <;> rfl

/-- Quiet hooks come to the same record in every state. -/
theorem Quiet.atPoint_outcome (quiet : m.Quiet) (point : HookPoint) (record : Record)
    (previous : Option Record) (s : SessionState) :
    (m.atPoint point record previous s).outcome = m.hooked point record previous := by
  obtain ⟨entries, same⟩ := quiet.atPoint_eq point record previous
  rw [same, recordAll_of]

theorem hooked_ok (ok : m.hooked point record previous = .ok result) :
    result = (Hook.leftByAll m.engine.hooks (.at m.schema.name point.name record previous)
      (m.schema.hookNames point.name) record []).record := by
  simp only [hooked] at ok
  cases ran : (Hook.leftByAll m.engine.hooks (.at m.schema.name point.name record previous)
      (m.schema.hookNames point.name) record []).updates with
  | error failure =>
    rw [ran] at ok
    cases ok
  | ok updates =>
    rw [ran] at ok
    cases ok
    rfl

/-- A column that no hook of a point touches is left as it was. -/
theorem hooked_untouched {column : String} (untouched : ¬ m.Touches point column)
    (ok : m.hooked point record previous = .ok result) :
    result.value? column = record.value? column := by
  rw [hooked_ok ok]
  refine Hook.leftByAll_invariant (P := fun r => r.value? column = record.value? column) ?_ rfl
  intro name listed hook declared other same
  have apart : ¬ hook.Touches column := fun touches => untouched ⟨name, listed, hook, declared, touches⟩
  exact (Hook.left_untouched apart).trans same

theorem nodup_hooked (distinct : record.keys.Nodup)
    (ok : m.hooked point record previous = .ok result) : result.keys.Nodup := by
  rw [hooked_ok ok]
  exact Hook.leftByAll_invariant (P := fun r => r.keys.Nodup)
    (fun _ _ _ _ _ distinct => Hook.nodup_left distinct) distinct

end Model

end Curator
