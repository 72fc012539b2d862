import Curator.Proofs.Request.Tokens
import Curator.Request.Spec
/-!
# Reading raw requests

Whatever stands under the keys of a raw request, reading it gives a request or a refusal of one, but
for integers that are too long for text: nobody looks for them in lists of names, in JSON, nor in the
cursor.
-/

set_option autoImplicit false

namespace Curator.Spec

open Outcome

/-- Integers of a raw request that cannot be written as text, or were not read from it. -/
inductive Unread (raw : Record) : Failure → Prop where
  | names {key : String} {value : Value} (listed : key ∈ ["fields", "sort", "group"])
      (given : raw.value? key = some value) (long : value.isWritable = false) : Unread raw .digits
  | json {key text : String} (structured : key ∈ ["filter", "aggregate"])
      (given : raw.value? key = some (.str text)) (long : Json.read text = .error .tooLong) :
      Unread raw .digits

/-- A refused request, or one of those integers. -/
def Unreadable (raw : Record) (f : Failure) : Prop := f.category = .request ∨ Unread raw f

theorem areWritable_of {items : List Value} (writable : Value.areWritable items = true) :
    ∀ item ∈ items, item.isWritable = true := by
  induction items with
  | nil => exact nofun
  | cons first rest ih =>
    rw [Value.areWritable, Bool.and_eq_true] at writable
    exact List.forall_mem_cons.mpr ⟨writable.1, ih writable.2⟩

theorem readNames_fails (value : Value) :
    FailsOnly (readNames value) fun f => f = .digits ∧ value.isWritable = false := by
  unfold readNames
  refine FailsOnly.bind ?_ fun texts _ => failsOnly_pure _
  refine failsOnly_mapM fun item member => (Value.text?_fails item).mono fun f cause => ?_
  obtain ⟨rfl, long⟩ := cause
  refine ⟨rfl, ?_⟩
  cases value with
  | null => cases member
  | str s =>
    obtain ⟨piece, _, rfl⟩ := List.mem_map.mp member
    cases long
  | list items =>
    by_contra writable
    rw [Bool.not_eq_false, Value.isWritable] at writable
    rw [areWritable_of writable item member] at long
    cases long
  | _ =>
    cases List.mem_singleton.mp member
    exact long

theorem readStructure_fails (value : Value) : FailsOnly (readStructure value) fun f =>
    f = .digits ∧ ∃ text, value = .str text ∧ Json.read text = .error .tooLong := by
  intro f fails
  cases value with
  | str text =>
    rw [readStructure] at fails
    split at fails
    · cases fails
    · cases fails
    · cases fails
    · cases fails
    · rename_i long
      cases fails
      exact ⟨rfl, text, rfl, long⟩
  | _ => cases fails

/-! ## Refusals -/

theorem readInteger_fails (part : RequestPart) (value : Value) :
    FailsOnly (readInteger part value) fun f => f.category = .request := by
  intro f fails
  unfold readInteger at fails
  split at fails
  · cases fails
  · split at fails
    · cases fails
    · cases fails
      rfl
  · cases fails
    rfl

theorem readText_fails (part : RequestPart) (value : Value) :
    FailsOnly (readText part value) fun f => f.category = .request := by
  intro f fails
  unfold readText at fails
  split at fails
  · cases fails
  · cases fails
  · cases fails
    rfl

theorem readCursor_fails (value : Value) :
    FailsOnly (readCursor value) fun f => f.category = .request := by
  intro f fails
  unfold readCursor at fails
  split at fails
  · cases fails
  · cases fails
    rfl

theorem readLimit_fails (value : Value) :
    FailsOnly (readLimit value) fun f => f.category = .request := by
  unfold readLimit
  split
  · exact failsOnly_ok _
  · refine (readInteger_fails .limit value).bind fun limit _ => ?_
    split
    · exact failsOnly_error rfl
    · exact failsOnly_pure _

theorem readPaging_fails (raw : Record) :
    FailsOnly (readPaging raw) fun f => f.category = .request := by
  unfold readPaging
  split
  · exact failsOnly_ok _
  · refine (readInteger_fails .page _).bind fun page _ => ?_
    split
    · exact failsOnly_error rfl
    · exact failsOnly_pure _
  · exact (readCursor_fails _).bind fun _ _ => failsOnly_pure _
  · exact (readCursor_fails _).bind fun _ _ => failsOnly_pure _
  · exact failsOnly_error rfl

/-! ## Whole requests -/

section

variable (raw : Record)

theorem namesAt_fails {key : String} (listed : key ∈ ["fields", "sort", "group"]) :
    FailsOnly (readNames ((raw.value? key).getD .null)) (Unreadable raw) := by
  refine (readNames_fails _).mono fun f cause => ?_
  obtain ⟨rfl, long⟩ := cause
  cases given : raw.value? key with
  | none =>
    rw [given] at long
    cases long
  | some value =>
    rw [given] at long
    exact Or.inr (.names listed given long)

theorem structureAt_fails {key : String} (structured : key ∈ ["filter", "aggregate"]) :
    FailsOnly (readStructure ((raw.value? key).getD .null)) (Unreadable raw) := by
  refine (readStructure_fails _).mono fun f cause => ?_
  obtain ⟨rfl, text, isText, long⟩ := cause
  cases given : raw.value? key with
  | none =>
    rw [given] at isText
    cases isText
  | some value =>
    rw [given, Option.getD_some] at isText
    rw [isText] at given
    exact Or.inr (.json structured given long)

/-- A raw request that is not read is refused, or holds an integer that is too long. -/
theorem ofEntries_fails : FailsOnly (ofEntries raw) (Unreadable raw) := by
  unfold ofEntries
  refine ((readText_fails .search _).mono fun _ => Or.inl).bind fun search _ => ?_
  refine ((readLimit_fails _).mono fun _ => Or.inl).bind fun limit _ => ?_
  refine ((readPaging_fails raw).mono fun _ => Or.inl).bind fun paging _ => ?_
  refine ((readText_fails .pagination _).mono fun _ => Or.inl).bind fun pagination _ => ?_
  refine (namesAt_fails raw (by decide)).bind fun fields _ => ?_
  refine (structureAt_fails raw (by decide)).bind fun filter _ => ?_
  refine (namesAt_fails raw (by decide)).bind fun sort _ => ?_
  refine (namesAt_fails raw (by decide)).bind fun group _ => ?_
  refine (structureAt_fails raw (by decide)).bind fun aggregate _ => ?_
  exact failsOnly_pure _

end

end Curator.Spec

namespace Curator.Cursor

open Outcome Number

/-- A cursor that is not decoded is refused, or is an integer that is too long. -/
theorem decode_fails (token : String) : FailsOnly (decode token) fun f =>
    f.category = .request ∨ ∃ text words, text? token = some text ∧
      isIntegerText text.toList = true ∧
      digitLimit < (text.toList.filter Text.isDigit).length ∧ f = .fault .value words := by
  unfold decode
  split
  · exact failsOnly_error (Or.inl rfl)
  · rename_i text decoded
    split
    · rename_i integer
      obtain ⟨sign, digits, ending, numeral⟩ := isIntegerText_iff.mp integer
      refine FailsOnly.bind ?_ fun n _ => failsOnly_pure _
      refine (integerOfText_signed numeral.form numeral.isSign numeral.some_digit numeral.digits
        numeral.blank).mono fun f cause => ?_
      obtain ⟨long, words, rfl⟩ := cause
      refine Or.inr ⟨text, words, decoded, integer, ?_, rfl⟩
      have own : digits.filter Text.isDigit = digits := List.filter_eq_self.mpr numeral.digits
      rw [numeral.form, List.filter_append, List.filter_append, own, numeral.isSign.no_digit,
        List.nil_append, List.length_append]
      omega
    · exact failsOnly_ok _

end Curator.Cursor
