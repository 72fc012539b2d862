import Curator.Calendar.IsoText
import Mathlib.Algebra.Group.Nat.Defs
import Mathlib.Data.List.Basic
/-!
# Decimal digits

Texts of decimal digits, their values and their order.  Of two texts of equally many digits the lesser
text has the lesser value, a number with zeros in front reads back as itself, and a mark below all
digits ends the text of a number without changing its place.
-/

set_option autoImplicit false

namespace Curator.Text

/-- All characters are digits. -/
def Decimal (text : List Char) : Prop := ∀ c ∈ text, c.isDigit = true

def decimalValue (text : List Char) : Nat := Nat.ofDigitChars 10 text 0

section

variable {c : Char} {s t s' t' : List Char}

theorem toNat_of_isDigit (digit : c.isDigit = true) : 48 ≤ c.toNat ∧ c.toNat ≤ 57 := by
  simpa [Char.isDigit, UInt32.le_iff_toNat_le] using digit

theorem Decimal.tail (decimal : Decimal (c :: t)) : Decimal t :=
  fun d member => decimal d (List.mem_cons_of_mem c member)

theorem Decimal.append (first : Decimal s) (second : Decimal t) : Decimal (s ++ t) := by
  intro c member
  rcases List.mem_append.mp member with member | member
  · exact first c member
  · exact second c member

theorem decimalValue_cons (c : Char) (t : List Char) :
    decimalValue (c :: t) = 10 ^ t.length * (c.toNat - 48) + decimalValue t := by
  unfold decimalValue
  rw [Nat.ofDigitChars_cons, Nat.ofDigitChars_eq_ofDigitChars_zero, Nat.mul_zero, Nat.zero_add]
  rfl

theorem decimalValue_lt (decimal : Decimal t) : decimalValue t < 10 ^ t.length := by
  induction t with
  | nil => decide
  | cons c t ih =>
    have rest := ih decimal.tail
    have range := toNat_of_isDigit (decimal c List.mem_cons_self)
    have leading : 10 ^ t.length * (c.toNat - 48) ≤ 10 ^ t.length * 9 :=
      Nat.mul_le_mul_left _ (by omega)
    rw [decimalValue_cons, List.length_cons, Nat.pow_succ]
    omega

/-- Texts of equally many digits are in the order of their values. -/
theorem lt_iff_decimalValue_lt (first : Decimal s) (second : Decimal t) (same : s.length = t.length) :
    s < t ↔ decimalValue s < decimalValue t := by
  induction s generalizing t with
  | nil =>
    have empty : t = [] := List.eq_nil_of_length_eq_zero same.symm
    subst empty
    simp
  | cons c s ih =>
    cases t with
    | nil => cases same
    | cons d t =>
      have lengths : s.length = t.length := Nat.succ.inj same
      have rest := ih first.tail second.tail lengths
      have low := decimalValue_lt first.tail
      have high := decimalValue_lt second.tail
      have range := toNat_of_isDigit (first c List.mem_cons_self)
      have range' := toNat_of_isDigit (second d List.mem_cons_self)
      have digits : c < d ↔ c.toNat < d.toNat := Iff.rfl
      rw [List.cons_lt_cons_iff, rest, digits, decimalValue_cons, decimalValue_cons, lengths]
      rw [lengths] at low
      generalize 10 ^ t.length = unit at low high
      have step : ∀ {x y : Nat}, x < y → unit * x + unit ≤ unit * y :=
        fun less => Nat.mul_succ unit _ ▸ Nat.mul_le_mul_left unit less
      rcases Nat.lt_trichotomy c.toNat d.toNat with less | equal | more
      · have leading := step (show c.toNat - 48 < d.toNat - 48 by omega)
        constructor
        · intro _
          omega
        · intro _
          exact Or.inl less
      · have equal_chars : c = d := Char.toNat_inj.mp equal
        subst equal_chars
        simp
      · have leading := step (show d.toNat - 48 < c.toNat - 48 by omega)
        constructor
        · rintro (less | ⟨same_char, _⟩)
          · omega
          · subst same_char
            omega
        · intro less
          omega

/-! ## Texts put together -/

theorem append_lt_append_iff (same : s.length = t.length) :
    s ++ s' < t ++ t' ↔ s < t ∨ s = t ∧ s' < t' := by
  induction s generalizing t with
  | nil =>
    have empty : t = [] := List.eq_nil_of_length_eq_zero same.symm
    subst empty
    simp
  | cons c s ih =>
    cases t with
    | nil => cases same
    | cons d t =>
      rw [List.cons_append, List.cons_append, List.cons_lt_cons_iff, List.cons_lt_cons_iff,
        ih (Nat.succ.inj same), List.cons.injEq]
      tauto

/-- A mark below all digits ends a text of digits without changing its place. -/
theorem marked_lt_marked_iff {mark : Char} (low : mark.toNat < 48) (first : Decimal s)
    (second : Decimal t) : s ++ mark :: s' < t ++ mark :: t' ↔ s < t ∨ s = t ∧ s' < t' := by
  have before : ∀ {c : Char}, c.isDigit = true → mark < c ∧ ¬ c < mark ∧ mark ≠ c := by
    intro c digit
    have range := toNat_of_isDigit digit
    have less : mark.toNat < c.toNat := by omega
    refine ⟨less, Nat.lt_asymm less, ?_⟩
    rintro rfl
    exact Nat.lt_irrefl _ less
  induction s generalizing t with
  | nil =>
    cases t with
    | nil => simp
    | cons d t =>
      have below := before (second d List.mem_cons_self)
      simp [List.cons_lt_cons_iff, below.1]
  | cons c s ih =>
    cases t with
    | nil =>
      have below := before (first c List.mem_cons_self)
      simp [List.cons_lt_cons_iff, below.2.1, below.2.2.symm]
    | cons d t =>
      have rest := ih first.tail second.tail
      rw [List.cons_append, List.cons_append, List.cons_lt_cons_iff, List.cons_lt_cons_iff,
        List.cons.injEq]
      tauto

/-! ## Numbers as text -/

theorem decimal_toDigits (n : Nat) : Decimal (Nat.toDigits 10 n) :=
  fun _ member => Nat.isDigit_of_mem_toDigits (by decide) (by decide) member

theorem decimalValue_toDigits (n : Nat) : decimalValue (Nat.toDigits 10 n) = n :=
  Nat.ofDigitChars_ten_toDigits

theorem toList_toString (n : Nat) : (toString n).toList = Nat.toDigits 10 n := by
  rw [Nat.toString_eq_ofList_toDigits, String.toList_ofList]

theorem decimal_toString (n : Nat) : Decimal (toString n).toList :=
  toList_toString n ▸ decimal_toDigits n

theorem decimalValue_toString (n : Nat) : decimalValue (toString n).toList = n := by
  rw [toList_toString, decimalValue_toDigits]

theorem toList_toString_inj {m n : Nat} : (toString m).toList = (toString n).toList ↔ m = n := by
  constructor
  · intro same
    rw [← decimalValue_toString m, same, decimalValue_toString]
  · intro same
    rw [same]

/-- Texts of numbers with equally many digits are in the order of the numbers. -/
theorem toString_lt_iff {m n : Nat} (same : (toString m).length = (toString n).length) :
    toString m < toString n ↔ m < n := by
  rw [String.lt_iff, lt_iff_decimalValue_lt (decimal_toString m) (decimal_toString n) same,
    decimalValue_toString, decimalValue_toString]

theorem toList_padded (width n : Nat) : (padded width n).toList =
    List.replicate (width - (Nat.toDigits 10 n).length) '0' ++ Nat.toDigits 10 n := by
  rw [padded, String.toList_ofList, toList_toString]

theorem decimal_padded (width n : Nat) : Decimal (padded width n).toList := by
  rw [toList_padded]
  apply Decimal.append
  · intro c member
    rw [List.eq_of_mem_replicate member]
    rfl
  · exact decimal_toDigits n

theorem decimalValue_padded (width n : Nat) : decimalValue (padded width n).toList = n := by
  rw [toList_padded]
  unfold decimalValue
  rw [Nat.ofDigitChars_append, Nat.ofDigitChars_replicate_zero, Nat.mul_zero]
  exact decimalValue_toDigits n

theorem length_padded {width n : Nat} (some_width : 0 < width) (small : n < 10 ^ width) :
    (padded width n).toList.length = width := by
  have fits := (Nat.length_toDigits_le_iff (by decide) some_width).mpr small
  rw [toList_padded, List.length_append, List.length_replicate]
  omega

/-- A number as wide as its padding has no zeros in front. -/
theorem toString_eq_padded (width : Nat) {n : Nat} (wide : 10 ^ width ≤ n) :
    (toString n).toList = (padded (width + 1) n).toList := by
  have long : width < (Nat.toDigits 10 n).length := by
    by_contra short
    rcases Nat.eq_zero_or_pos width with rfl | some_width
    · exact short Nat.length_toDigits_pos
    · have small := (Nat.length_toDigits_le_iff (b := 10) (by decide) some_width).mp
        (Nat.not_lt.mp short)
      omega
  have nothing : width + 1 - (Nat.toDigits 10 n).length = 0 := by omega
  rw [toList_padded, nothing, List.replicate_zero, List.nil_append, toList_toString]

variable {width m n : Nat}

theorem padded_inj : (padded width m).toList = (padded width n).toList ↔ m = n := by
  constructor
  · intro same
    rw [← decimalValue_padded width m, same, decimalValue_padded]
  · intro same
    rw [same]

theorem padded_lt_iff (some_width : 0 < width) (small : m < 10 ^ width) (small' : n < 10 ^ width) :
    (padded width m).toList < (padded width n).toList ↔ m < n := by
  have same : (padded width m).toList.length = (padded width n).toList.length := by
    rw [length_padded some_width small, length_padded some_width small']
  rw [lt_iff_decimalValue_lt (decimal_padded width m) (decimal_padded width n) same,
    decimalValue_padded, decimalValue_padded]

end

end Curator.Text

namespace Curator.Calendar

open Text

/-- A number with zeros in front is read back from the start of a text. -/
theorem takeDigits?_padded {width n : Nat} (some_width : 0 < width) (small : n < 10 ^ width)
    (rest : List Char) : takeDigits? width ((padded width n).toList ++ rest) = some (n, rest) := by
  have length := length_padded some_width small
  have front : ((padded width n).toList ++ rest).take width = (padded width n).toList :=
    List.take_left' length
  have back : ((padded width n).toList ++ rest).drop width = rest := List.drop_left' length
  have digits : (padded width n).toList.all Char.isDigit = true :=
    List.all_eq_true.mpr (decimal_padded width n)
  have value : (padded width n).toList.foldl
      (fun (n : Nat) (c : Char) => n * 10 + (c.toNat - 48)) 0 = n := by
    have read := decimalValue_padded width n
    simp only [decimalValue, Nat.ofDigitChars, Nat.mul_comm 10] at read
    exact read
  unfold takeDigits?
  simp only [front, back]
  rw [if_pos ⟨length, digits⟩, value]

end Curator.Calendar
