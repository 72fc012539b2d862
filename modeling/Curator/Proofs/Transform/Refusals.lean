import Curator.Proofs.Mapping
import Curator.Proofs.Text.Integers
import Curator.Transform.Registry
/-!
# Values that transforms refuse

A transform fails in one of two ways: it refuses its value, and the failure of the record then names the
field; or the value is a number beyond what integers and clocks are made of, and the fault of these
leaves the record as it is.
-/

set_option autoImplicit false

namespace Curator

open Outcome Calendar Number

/-! ## One value -/

/-- The numbers that a transform does not refuse and yet fails on: infinite ones as integers, and as
times the seconds that the clock does not count or that lie in no year it knows. -/
inductive Transform.Overruns : Transform → Value → FaultKind → Prop
  | infinite {t : Transform} (negative : Bool) (whole : t = .integer ∨ t = .timestamp) :
    Overruns t (.float (.infinite negative)) .overflow
  | infiniteText {s : String} {negative : Bool} (read : readFloat? s = some (.infinite negative)) :
    Overruns .integer (.str s) .overflow
  | clock {t : Transform} {n : Int} (dated : t = .date ∨ t = .datetime)
    (beyond : n < -9223372036854775808 ∨ 9223372036854775807 < n) : Overruns t (.int n) .overflow
  | years {t : Transform} {n : Int} (dated : t = .date ∨ t = .datetime)
    (counted : -9223372036854775808 ≤ n ∧ n ≤ 9223372036854775807)
    (beyond : n < -67768040609740800 ∨ 67768036191676799 < n) : Overruns t (.int n) .system

/-- How a transform may fail on a value: by refusing it, or by a fault of what the value overruns. -/
def Transform.FailsOn (t : Transform) (v : Value) (e : Failure) : Prop :=
  e.refusesValue = true ∨ ∃ kind, t.Overruns v kind ∧ e.category = .fault kind

theorem integerOfText_fails (s : String) : FailsOnly (integerOfText s) (·.refusesValue = true) := by
  intro e fails
  unfold integerOfText at fails
  split at fails
  · cases fails
  · cases fails
    rfl
  · cases fails
    rfl

theorem floatOfText_fails (s : String) : FailsOnly (floatOfText s) (·.refusesValue = true) := by
  intro e fails
  unfold floatOfText at fails
  split at fails
  · cases fails
  · cases fails
    rfl

theorem integerOfFloat_fails (x : Binary64) : FailsOnly (integerOfFloat x) fun e =>
    e.refusesValue = true ∨ ∃ negative, x = .infinite negative ∧ e.category = .fault .overflow := by
  intro e fails
  cases x with
  | nan =>
    cases fails
    exact .inl rfl
  | infinite negative =>
    cases fails
    exact .inr ⟨negative, rfl, rfl⟩
  | finite => cases fails

theorem Value.toInteger_fails (v : Value) : FailsOnly v.toInteger fun e => e.refusesValue = true ∨
    ∃ negative, v = .float (.infinite negative) ∧ e.category = .fault .overflow := by
  cases v with
  | bool | int => exact failsOnly_ok _
  | float x =>
    refine (integerOfFloat_fails x).mono fun e cause => cause.imp_right ?_
    rintro ⟨negative, rfl, overflow⟩
    exact ⟨negative, rfl, overflow⟩
  | str s => exact (integerOfText_fails s).mono fun e => .inl
  | bytes data =>
    intro e fails
    simp only [toInteger] at fails
    split at fails
    · cases fails
    · cases fails
      exact .inl rfl
  | _ => exact failsOnly_error (.inl rfl)

theorem Value.text?_refuses (v : Value) : FailsOnly v.text? (·.refusesValue = true) := by
  refine (Value.text?_fails v).mono ?_
  rintro _ ⟨rfl, _⟩
  rfl

namespace Transform

theorem momentAt_eq (n : Int) : momentAt n =
    if n < -9223372036854775808 ∨ 9223372036854775807 < n then .error (epochFailure .beyondClock)
    else if n < -67768040609740800 ∨ 67768036191676799 < n then .error (epochFailure .beyondYears)
    else match Moment.ofClockMicros? (n * microsPerSecond) (some 0) with
      | some moment => .ok moment
      | none => .error (epochFailure .beyondCalendar) := by
  have micros : Int.fdiv (n * microsPerSecond) microsPerSecond = n :=
    Int.mul_fdiv_cancel n (by decide)
  have power : Int.pow 2 63 = 9223372036854775808 := by decide
  have counted : n < -Int.pow 2 63 ∨ Int.pow 2 63 ≤ n ↔
      n < -9223372036854775808 ∨ 9223372036854775807 < n := by
    rw [power]
    omega
  simp only [momentAt, momentOfSeconds, momentOfMicros, micros, counted]
  by_cases clock : n < -9223372036854775808 ∨ 9223372036854775807 < n
  · simp only [if_pos clock]
  · by_cases years : n < -67768040609740800 ∨ 67768036191676799 < n
    · simp only [if_neg clock, if_pos years]
    · simp only [if_neg clock, if_neg years]
      cases Moment.ofClockMicros? (n * microsPerSecond) (some 0) <;> rfl

/-- A count of seconds is a moment, or it is refused, or it overruns the clock or its years. -/
theorem momentAt_fails {t : Transform} (dated : t = .date ∨ t = .datetime) (n : Int) :
    FailsOnly (momentAt n) (t.FailsOn (.int n)) := by
  rw [momentAt_eq]
  split
  · rename_i beyond
    exact failsOnly_error (.inr ⟨.overflow, .clock dated beyond, rfl⟩)
  · rename_i counted
    split
    · rename_i beyond
      exact failsOnly_error (.inr ⟨.system, .years dated (by omega) beyond, rfl⟩)
    · split
      · exact failsOnly_ok _
      · exact failsOnly_error (.inl rfl)

theorem epochSecondOf_fails (m : Moment) : FailsOnly (epochSecondOf m) (·.refusesValue = true) := by
  unfold epochSecondOf
  split
  · exact failsOnly_error rfl
  · exact failsOnly_ok _

theorem jsonFailure_refuses (fault : Json.WriteFault) : (jsonFailure fault).refusesValue = true := by
  cases fault <;> rfl

theorem text_fails (v : Value) : FailsOnly (do
    let text ← v.text?
    pure (.str text) : Except Failure Value) (·.refusesValue = true) :=
  v.text?_refuses.bind fun _ _ => failsOnly_pure _

theorem encodeJson_fails (v : Value) : FailsOnly (encodeJson v) (·.refusesValue = true) := by
  cases v with
  | list | dict =>
    simp only [encodeJson]
    split
    · exact failsOnly_ok _
    · exact failsOnly_error (jsonFailure_refuses _)
  | _ => exact text_fails _

theorem decodeJson_fails (v : Value) : FailsOnly (decodeJson v) (·.refusesValue = true) := by
  have read : ∀ s, FailsOnly (decodeJsonText v s) (·.refusesValue = true) := by
    intro s
    unfold decodeJsonText
    split
    · exact failsOnly_ok _
    · exact failsOnly_ok _
    · exact failsOnly_error rfl
  cases v with
  | str s => exact read s
  | bytes data =>
    simp only [decodeJson]
    split
    · exact read _
    · exact failsOnly_error rfl
  | _ => exact failsOnly_ok _

theorem uuidBytes_fails (s : String) : FailsOnly (uuidBytes s) (·.refusesValue = true) := by
  unfold uuidBytes
  split
  · exact failsOnly_ok _
  · exact failsOnly_error rfl
  · exact failsOnly_error rfl

theorem toInteger_fails (v : Value) : FailsOnly (toInteger v) (FailsOn .integer v) := by
  cases v with
  | str s =>
    simp only [toInteger]
    split
    · exact failsOnly_ok _
    · refine ((floatOfText_fails s).mono fun e => .inl).bind fun x read => ?_
      refine ((integerOfFloat_fails x).mono fun e cause => cause.imp_right ?_).bind fun n _ =>
        failsOnly_pure _
      rintro ⟨negative, rfl, overflow⟩
      refine ⟨.overflow, @Overruns.infiniteText s negative ?_, overflow⟩
      unfold floatOfText at read
      split at read
      · rename_i found
        cases read
        exact found
      · cases read
  | null => exact failsOnly_ok _
  | _ =>
    refine ((Value.toInteger_fails _).mono fun e cause => cause.imp_right ?_).bind fun n _ =>
      failsOnly_pure _
    rintro ⟨negative, same, overflow⟩
    exact ⟨.overflow, same ▸ .infinite negative (.inl rfl), overflow⟩

theorem toTimestamp_fails (v : Value) : FailsOnly (toTimestamp v) (FailsOn .timestamp v) := by
  cases v with
  | moment m => exact ((epochSecondOf_fails m).mono fun e => .inl).bind fun n _ => failsOnly_pure _
  | str s =>
    simp only [toTimestamp]
    split
    · exact failsOnly_ok _
    · exact ((integerOfText_fails s).mono fun e => .inl).bind fun n _ => failsOnly_pure _
  | _ =>
    refine ((Value.toInteger_fails _).mono fun e cause => cause.imp_right ?_).bind fun n _ =>
      failsOnly_pure _
    rintro ⟨negative, same, overflow⟩
    exact ⟨.overflow, same ▸ .infinite negative (.inr rfl), overflow⟩

theorem toDate_fails (v : Value) : FailsOnly (toDate v) (FailsOn .date v) := by
  cases v with
  | int n => exact (momentAt_fails (.inl rfl) n).bind fun m _ => failsOnly_pure _
  | date | moment => exact failsOnly_ok _
  | _ => exact (text_fails _).mono fun e => .inl

theorem toDatetime_fails (v : Value) : FailsOnly (toDatetime v) (FailsOn .datetime v) := by
  cases v with
  | int n => exact (momentAt_fails (.inr rfl) n).bind fun m _ => failsOnly_pure _
  | moment => exact failsOnly_ok _
  | _ => exact (text_fails _).mono fun e => .inl

/-- A transform that fails refuses its value, unless the value overruns it. -/
theorem apply_fails (t : Transform) (v : Value) : FailsOnly (t.apply v) (t.FailsOn v) := by
  cases t with
  | jsonEncode => exact (encodeJson_fails v).mono fun e => .inl
  | jsonDecode => exact (decodeJson_fails v).mono fun e => .inl
  | integer => exact toInteger_fails v
  | timestamp => exact toTimestamp_fails v
  | date => exact toDate_fails v
  | datetime => exact toDatetime_fails v
  | boolean => exact failsOnly_ok _
  | escapeString | slug =>
    cases v with
    | str => exact failsOnly_ok _
    | _ => exact (text_fails _).mono fun e => .inl
  | uuidToBin =>
    cases v with
    | str s => exact (uuidBytes_fails s).mono fun e => .inl
    | _ => exact failsOnly_ok _
  | nullify | censor | binToUuid | lowercase | uppercase | trim => cases v <;> exact failsOnly_ok _

/-- A value that overruns a transform makes it fail by a fault of that kind. -/
theorem Overruns.fails {t : Transform} {v : Value} {kind : FaultKind} (overruns : t.Overruns v kind) :
    ∃ e, t.apply v = .error e ∧ e.category = .fault kind := by
  cases overruns with
  | infinite negative whole =>
    refine ⟨.fault .overflow "cannot convert float infinity to integer", ?_, rfl⟩
    rcases whole with rfl | rfl <;> rfl
  | infiniteText read =>
    rename_i s negative
    have some_text : s ≠ "" := by
      rintro rfl
      cases read
    have infinite : floatOfText s = .ok (.infinite negative) := by rw [floatOfText, read]
    refine ⟨.fault .overflow "cannot convert float infinity to integer", ?_, rfl⟩
    rw [apply, toInteger, if_neg some_text, infinite]
    rfl
  | clock dated beyond =>
    rename_i n
    have fault : momentAt n = .error (epochFailure .beyondClock) := by
      rw [momentAt_eq, if_pos beyond]
    rcases dated with rfl | rfl
    · exact ⟨_, by rw [apply, toDate, fault]; rfl, rfl⟩
    · exact ⟨_, by rw [apply, toDatetime, fault]; rfl, rfl⟩
  | years dated counted beyond =>
    rename_i n
    have fault : momentAt n = .error (epochFailure .beyondYears) := by
      rw [momentAt_eq, if_neg (by omega), if_pos beyond]
    rcases dated with rfl | rfl
    · exact ⟨_, by rw [apply, toDate, fault]; rfl, rfl⟩
    · exact ⟨_, by rw [apply, toDatetime, fault]; rfl, rfl⟩

/-- A value that overruns a transform is not refused by it. -/
theorem Overruns.unrefused {t : Transform} {v : Value} {kind : FaultKind} {e : Failure}
    (overruns : t.Overruns v kind) (fails : t.apply v = .error e) : e.refusesValue = false := by
  obtain ⟨same, again, fault⟩ := overruns.fails
  cases fails.symm.trans again
  cases overruns <;> rw [Failure.refusesValue, fault]

end Transform

/-! ## The fields of a record -/

namespace TransformTable

variable {table : TransformTable} {record result : Record} {declarations done : Mapping Value}
  {field : String} {declaration v : Value} {t : Transform}

/-- A record in which declared transforms were applied: a field they are declared for holds what its
transform made of its value, and all other fields hold what they held. -/
structure Converted (table : TransformTable) (done : Mapping Value) (record result : Record) : Prop where
  keys : result.keys = record.keys
  changed : ∀ field declaration, (field, declaration) ∈ done → ∀ v, record.value? field = some v →
    ∃ t w, table.resolve declaration = .ok t ∧ t.apply v = .ok w ∧ result.value? field = some w
  kept : ∀ field, field ∉ done.keys → result.value? field = record.value? field

/-- The failure of a record whose field has a value that its transform did not take: it names the field,
unless the value overruns the transform. -/
def RefusedBy (t : Transform) (field : String) (v : Value) (failure : Failure) : Prop :=
  ∃ e, t.apply v = .error e ∧
    ((∀ kind, ¬ t.Overruns v kind) ∧ failure = .field (.transform field e.text) ∨
      ∃ kind, t.Overruns v kind ∧ failure = e ∧ e.category = .fault kind)

theorem applyTo_ok {w : Value} (ok : table.applyTo field declaration v = .ok w) :
    ∃ t, table.resolve declaration = .ok t ∧ t.apply v = .ok w := by
  obtain ⟨t, resolved, ok⟩ := bind_ok ok
  refine ⟨t, resolved, ?_⟩
  cases applied : t.apply v with
  | ok w =>
    simp only [applied] at ok
    exact ok
  | error e =>
    simp only [applied] at ok
    split at ok <;> cases ok

theorem applyTo_refused {failure : Failure} (resolved : table.resolve declaration = .ok t)
    (fails : table.applyTo field declaration v = .error failure) : RefusedBy t field v failure := by
  rw [applyTo, resolved, ok_bind] at fails
  cases applied : t.apply v with
  | ok w =>
    rw [applied] at fails
    cases fails
  | error e =>
    simp only [applied] at fails
    refine ⟨e, applied, ?_⟩
    rcases t.apply_fails v e applied with refuses | ⟨kind, overruns, fault⟩
    · rw [if_pos refuses] at fails
      refine .inl ⟨fun kind overruns => ?_, (Except.error.inj fails).symm⟩
      exact absurd refuses (by rw [overruns.unrefused applied]; exact Bool.false_ne_true)
    · rw [overruns.unrefused applied] at fails
      exact .inr ⟨kind, overruns, (Except.error.inj fails).symm, fault⟩

theorem Converted.refl (record : Record) : table.Converted [] record record :=
  ⟨rfl, nofun, fun _ _ => rfl⟩

theorem Converted.absent (missing : record.value? field = none)
    (behind : table.Converted done record result) :
    table.Converted ((field, declaration) :: done) record result where
  keys := behind.keys
  changed := by
    intro other declared member v held
    rcases List.mem_cons.mp member with same | later
    · cases same
      cases missing.symm.trans held
    · exact behind.changed other declared later v held
  kept := fun other undeclared => behind.kept other fun member =>
    undeclared (List.mem_cons_of_mem _ member)

theorem Converted.present {w : Value} (held : record.value? field = some v)
    (resolved : table.resolve declaration = .ok t) (converts : t.apply v = .ok w)
    (once : field ∉ done.keys) (behind : table.Converted done (record.put field w) result) :
    table.Converted ((field, declaration) :: done) record result where
  keys := behind.keys.trans (Mapping.keys_put (Mapping.mem_keys (Mapping.mem_of_value? held)) w)
  changed := by
    intro other declared member u found
    rcases List.mem_cons.mp member with same | later
    · cases same
      cases held.symm.trans found
      exact ⟨t, w, resolved, converts, by rw [behind.kept field once, Mapping.value?_put, if_pos rfl]⟩
    · refine behind.changed other declared later u ?_
      rw [Mapping.value?_put, if_neg, found]
      rintro rfl
      exact once (Mapping.mem_keys later)
  kept := by
    intro other undeclared
    obtain ⟨different, later⟩ := List.ne_and_not_mem_of_not_mem_cons undeclared
    rw [behind.kept other later, Mapping.value?_put, if_neg different]

/-- The ends that the transforms of a record can come to: all of them were applied, or those before the
first that does not take the value of its field. -/
inductive Ends (table : TransformTable) (record : Record) (declarations : Mapping Value) :
    Record × Option Failure → Prop
  | returned {result : Record} (converted : table.Converted declarations record result) :
    Ends table record declarations (result, none)
  | stopped {result : Record} {before behind : Mapping Value} {field : String}
    {declaration v : Value} {t : Transform} {failure : Failure}
    (order : declarations = before ++ (field, declaration) :: behind)
    (converted : table.Converted before record result)
    (resolved : table.resolve declaration = .ok t) (held : record.value? field = some v)
    (refused : RefusedBy t field v failure) : Ends table record declarations (result, some failure)

theorem Ends.absent {outcome : Record × Option Failure} (missing : record.value? field = none)
    (behind : table.Ends record declarations outcome) :
    table.Ends record ((field, declaration) :: declarations) outcome := by
  cases behind with
  | returned converted => exact .returned (converted.absent missing)
  | stopped order converted resolved held refused =>
    exact .stopped (congrArg _ order) (converted.absent missing) resolved held refused

theorem Ends.present {w : Value} {outcome : Record × Option Failure}
    (held : record.value? field = some v) (resolved : table.resolve declaration = .ok t)
    (converts : t.apply v = .ok w) (once : field ∉ declarations.keys)
    (behind : table.Ends (record.put field w) declarations outcome) :
    table.Ends record ((field, declaration) :: declarations) outcome := by
  cases behind with
  | returned converted => exact .returned (converted.present held resolved converts once)
  | @stopped result before behind other _ _ _ _ order converted named found refused =>
    have declared : declarations.keys = before.keys ++ other :: behind.keys := by
      rw [order, Mapping.keys, List.map_append]
      rfl
    rw [declared, List.mem_append, List.mem_cons, not_or, not_or] at once
    obtain ⟨sooner, different, _⟩ := once
    rw [Mapping.value?_put, if_neg (Ne.symm different)] at found
    exact .stopped (congrArg _ order) (converted.present held resolved converts sooner) named found
      refused

/-- Transforms stop at the first field whose value they do not take, and the failure names it unless the
value overruns the transform; the fields before it hold their new values and all others their own. -/
theorem transformAll_ends (distinct : declarations.keys.Nodup)
    (named : ∀ entry ∈ declarations, ∃ t, table.resolve entry.2 = .ok t) :
    table.Ends record declarations (table.transformAll record declarations) := by
  induction declarations generalizing record with
  | nil => exact .returned (.refl record)
  | cons entry rest ih =>
    obtain ⟨field, declaration⟩ := entry
    obtain ⟨t, resolved⟩ := named _ List.mem_cons_self
    obtain ⟨once, others⟩ := List.nodup_cons.mp distinct
    have later : ∀ record, table.Ends record rest (table.transformAll record rest) := fun record =>
      ih others fun entry member => named entry (List.mem_cons_of_mem _ member)
    cases held : record.value? field with
    | none =>
      simp only [transformAll, held]
      exact (later record).absent held
    | some v =>
      cases made : table.applyTo field declaration v with
      | ok w =>
        obtain ⟨_, again, converts⟩ := applyTo_ok made
        simp only [transformAll, held, made]
        exact (later _).present held again converts once
      | error failure =>
        simp only [transformAll, held, made]
        exact .stopped (List.nil_append _).symm (.refl record) resolved held
          (applyTo_refused resolved made)

end TransformTable

namespace Sample

/-- A name, a count and a code, to be trimmed, read as an integer and written in small letters. -/
def itemTransforms : Mapping Value :=
  [("name", .str "trim"), ("count", .str "integer"), ("code", .str "lowercase")]

def itemFields (count : Value) : Record :=
  [("code", .str "A"), ("count", count), ("name", .str " x ")]

/-- The name before a count that is no number is trimmed, and the code behind it stays as it is. -/
theorem item_count_refused : TransformTable.standard.Ends (itemFields (.str "x")) itemTransforms
    ([("code", .str "A"), ("count", .str "x"), ("name", .str "x")],
      some (.field (.transform "count" "could not convert string to float: 'x'"))) :=
  TransformTable.transformAll_ends (by decide)
    (by simp [itemTransforms, TransformTable.resolve, TransformTable.standard, Mapping.value?_cons])

/-- An infinite count ends in a fault that names no field. -/
theorem infinite_count_overruns :
    ∃ failure, (TransformTable.standard.transformAll (itemFields (.float (.infinite false)))
        itemTransforms).2 = some failure ∧ failure.category = .fault .overflow ∧
      ∀ words, failure ≠ .field (.transform "count" words) :=
  ⟨.fault .overflow "cannot convert float infinity to integer", rfl, rfl, nofun⟩

end Sample

end Curator
