import Curator.Proofs.Outcome
import Curator.Value.Conversion
/-!
# Digits as integers

The texts that are read as integers: digits of whatever script with single underscores between them, an
optional sign before them and blanks around, and not too many digits.  A text of digits behind an
optional sign is read as an integer unless it has too many of them, so a pattern that lets only such
texts through leaves the reader one way to fail.
-/

set_option autoImplicit false

namespace Curator

open Outcome Number

namespace Text

/-- Where a digit has its value: one of the runs of ten. -/
theorem digit_in_run {c : Char} (digit : isDigit c = true) :
    ∃ base ∈ digitZeros, ∃ value < 10, c.toNat = base + value := by
  unfold isDigit digitValue? at digit
  simp only at digit
  split at digit
  · split at digit
    · rename_i decimal
      have range : 48 ≤ c.toNat ∧ c.toNat ≤ 57 := by
        simpa [Char.isDigit, UInt32.le_iff_toNat_le] using decimal
      exact ⟨0x30, by decide, c.toNat - 48, by omega, by omega⟩
    · cases digit
  · rw [Option.isSome_map] at digit
    obtain ⟨base, found⟩ := Option.isSome_iff_exists.mp digit
    have run := List.find?_some found
    simp only [Bool.and_eq_true, decide_eq_true_eq] at run
    exact ⟨base, List.mem_of_find?_eq_some found, c.toNat - base, by omega, by omega⟩

/-- No digit is white space or a sign. -/
theorem digit_solid {c : Char} (digit : isDigit c = true) :
    isBlank c = false ∧ c ≠ '-' ∧ c ≠ '+' := by
  -- decided run by run, for all scripts
  obtain ⟨base, known, value, small, code⟩ := digit_in_run digit
  have apart : ∀ base ∈ digitZeros, ∀ value < 10,
      let n := base + value
      ((9 ≤ n && n ≤ 13) || (28 ≤ n && n ≤ 32) || n == 0x85 || n == 0xA0 || n == 0x1680 ||
        (0x2000 ≤ n && n ≤ 0x200A) || n == 0x2028 || n == 0x2029 || n == 0x202F || n == 0x205F ||
        n == 0x3000) = false ∧ n ≠ 45 ∧ n ≠ 43 := by decide +kernel
  have here := apart base known value small
  rw [← code] at here
  refine ⟨here.1, ?_, ?_⟩
  · rintro rfl
    exact here.2.1 rfl
  · rintro rfl
    exact here.2.2 rfl

/-- No digit is among the characters around or before a number. -/
theorem digit_apart {c : Char} (digit : isDigit c = true) :
    isNumberBlank c = false ∧ c ≠ '-' ∧ c ≠ '+' := by
  obtain ⟨solid, signs⟩ := digit_solid digit
  exact ⟨by rw [isNumberBlank, solid, Bool.false_and], signs⟩

/-- Nothing is dropped from a text that begins outside a class. -/
theorem dropWhile_solid {inClass : Char → Bool} {text : List Char}
    (solid : ∀ c ∈ text.head?, inClass c = false) : text.dropWhile inClass = text := by
  cases text with
  | nil => rfl
  | cons c rest => rw [List.dropWhile_cons_of_neg (by simp [solid c rfl])]

/-- A character at the beginning is trimmed from the end only with everything behind it. -/
theorem trimEnd_cons (inClass : Char → Bool) (c : Char) (text : List Char) :
    trimEnd inClass (c :: text) =
      if inClass c = true ∧ trimEnd inClass text = [] then [] else c :: trimEnd inClass text := by
  have opened : trimEnd inClass (c :: text) =
      ((text.reverse ++ [c]).dropWhile inClass).reverse := by
    rw [trimEnd, List.reverse_cons]
  rw [opened, List.dropWhile_append]
  by_cases gone : text.reverse.dropWhile inClass = []
  · have none : trimEnd inClass text = [] := by rw [trimEnd, gone, List.reverse_nil]
    rw [gone, none]
    cases inside : inClass c with
    | true => simp [inside]
    | false => simp [inside]
  · have some_left : trimEnd inClass text ≠ [] := fun none => gone (List.reverse_eq_nil_iff.mp none)
    rw [if_neg (by simpa using gone), if_neg fun both => some_left both.2, List.reverse_append]
    rfl

/-- Only the blanks around a text are trimmed. -/
theorem trim_solid {inClass : Char → Bool} {text blanks : List Char} {first last : Char}
    (head : text.head? = some first) (tail : text.getLast? = some last)
    (headOut : inClass first = false) (lastOut : inClass last = false)
    (around : ∀ c ∈ blanks, inClass c = true) : trim inClass (text ++ blanks) = text := by
  obtain ⟨rest, rfl⟩ := List.head?_eq_some_iff.mp head
  have front : ((first :: rest) ++ blanks).dropWhile inClass = (first :: rest) ++ blanks := by
    refine dropWhile_solid fun c member => ?_
    cases member
    exact headOut
  obtain ⟨start, whole⟩ := List.getLast?_eq_some_iff.mp tail
  have back : ((first :: rest) ++ blanks).reverse.dropWhile inClass = (first :: rest).reverse := by
    rw [List.reverse_append, List.dropWhile_append_of_pos]
    · rw [whole]
      simp [lastOut]
    · intro c member
      exact around c (List.mem_reverse.mp member)
  rw [trim, trimEnd, front, back, List.reverse_reverse]

/-- A text between blanks is what is left when it is trimmed. -/
theorem trim_around {inClass : Char → Bool} {before text after : List Char} {first last : Char}
    (head : text.head? = some first) (tail : text.getLast? = some last)
    (headOut : inClass first = false) (lastOut : inClass last = false)
    (around : ∀ c ∈ before ++ after, inClass c = true) :
    trim inClass (before ++ text ++ after) = text := by
  have front : ∀ c ∈ before, inClass c = true := fun c member =>
    around c (List.mem_append_left after member)
  have dropped : trim inClass (before ++ text ++ after) = trim inClass (text ++ after) := by
    rw [trim, trim, List.append_assoc, List.dropWhile_append_of_pos front]
  rw [dropped]
  exact trim_solid head tail headOut lastOut fun c member =>
    around c (List.mem_append_right before member)

theorem trim_parts (inClass : Char → Bool) (text : List Char) : ∃ before after,
    text = before ++ trim inClass text ++ after ∧ ∀ c ∈ before ++ after, inClass c = true := by
  have ends : ∀ text : List Char, ∃ after, text = trimEnd inClass text ++ after ∧
      ∀ c ∈ after, inClass c = true := by
    intro text
    refine ⟨(text.reverse.takeWhile inClass).reverse, ?_, fun c member => ?_⟩
    · rw [trimEnd, ← List.reverse_append, List.takeWhile_append_dropWhile, List.reverse_reverse]
    · exact List.all_eq_true.mp List.all_takeWhile c (List.mem_reverse.mp member)
  obtain ⟨after, whole, blanks⟩ := ends (text.dropWhile inClass)
  refine ⟨text.takeWhile inClass, after, ?_, fun c member => ?_⟩
  · rw [trim, List.append_assoc, ← whole, List.takeWhile_append_dropWhile]
  · rcases List.mem_append.mp member with front | back
    · exact List.all_eq_true.mp List.all_takeWhile c front
    · exact blanks c back

end Text

namespace Number

theorem digitRun_digits {digits : List Char} (all : ∀ c ∈ digits, Text.isDigit c = true)
    (between : Bool) (value count : Nat) : ∃ total,
      digitRun between value count digits = (total, count + digits.length, []) := by
  induction digits generalizing between value count with
  | nil => exact ⟨value, rfl⟩
  | cons c rest ih =>
    obtain ⟨d, found⟩ := Option.isSome_iff_exists.mp (all c List.mem_cons_self)
    obtain ⟨total, others⟩ :=
      ih (fun c member => all c (List.mem_cons_of_mem _ member)) true (value * 10 + d) (count + 1)
    refine ⟨total, ?_⟩
    rw [digitRun.eq_def]
    simp only [found, others, List.length_cons]
    congr 2
    omega

def IsSign (sign : List Char) : Prop := sign = [] ∨ sign = ['-'] ∨ sign = ['+']

theorem IsSign.no_digit {sign : List Char} (isSign : IsSign sign) :
    sign.filter Text.isDigit = [] := by
  rcases isSign with rfl | rfl | rfl
  · rfl
  · rfl
  · rfl

/-- Before a digit there is no sign. -/
theorem signOf_digit {c : Char} (digit : Text.isDigit c = true) (rest : List Char) :
    signOf (c :: rest) = (false, c :: rest) := by
  obtain ⟨_, notMinus, notPlus⟩ := Text.digit_apart digit
  unfold signOf
  split
  · rename_i same
    cases same
    exact absurd rfl notMinus
  · rename_i same
    cases same
    exact absurd rfl notPlus
  · rfl

theorem signOf_unsigned {digits : List Char} (all : ∀ c ∈ digits, Text.isDigit c = true) :
    signOf digits = (false, digits) := by
  cases digits with
  | nil => rfl
  | cons c rest => exact signOf_digit (all c List.mem_cons_self) rest

theorem signOf_digits {sign digits : List Char} (isSign : IsSign sign)
    (all : ∀ c ∈ digits, Text.isDigit c = true) : ∃ negative,
      signOf (sign ++ digits) = (negative, digits) := by
  rcases isSign with rfl | rfl | rfl
  · exact ⟨false, signOf_unsigned all⟩
  · exact ⟨true, rfl⟩
  · exact ⟨false, rfl⟩

/-- Digits behind an optional sign, blanks after them left aside, are the integer of the digits or
too long. -/
theorem readInteger_eq {text : String} {sign digits blanks : List Char} {negative : Bool}
    {total : Nat} (form : text.toList = sign ++ digits ++ blanks) (isSign : IsSign sign)
    (some_digit : digits ≠ []) (all : ∀ c ∈ digits, Text.isDigit c = true)
    (around : ∀ c ∈ blanks, Text.isNumberBlank c = true)
    (signed : signOf (sign ++ digits) = (negative, digits))
    (run : digitRun false 0 0 digits = (total, digits.length, [])) :
    readInteger text = if digitLimit < digits.length then .error (.tooLong digits.length)
      else .ok (if negative then -(total : Int) else (total : Int)) := by
  -- neither end is a blank, so that trimming takes away no more than the blanks behind
  have last : ∃ c, (sign ++ digits).getLast? = some c ∧ Text.isNumberBlank c = false := by
    have found := List.getLast?_eq_getLast_of_ne_nil some_digit
    refine ⟨digits.getLast some_digit, by rw [List.getLast?_append, found, Option.some_or], ?_⟩
    exact (Text.digit_apart (all _ (List.getLast_mem some_digit))).1
  have first : ∃ c, (sign ++ digits).head? = some c ∧ Text.isNumberBlank c = false := by
    rcases isSign with rfl | rfl | rfl
    · refine ⟨digits.head some_digit, by simp [List.head?_eq_some_head some_digit], ?_⟩
      exact (Text.digit_apart (all _ (List.head_mem some_digit))).1
    · exact ⟨'-', rfl, by decide⟩
    · exact ⟨'+', rfl, by decide⟩
  obtain ⟨a, ends, lastOut⟩ := last
  obtain ⟨b, starts, headOut⟩ := first
  have positive : 0 < digits.length := List.length_pos_iff.mpr some_digit
  unfold readInteger
  rw [form, Text.trim_solid starts ends headOut lastOut around, signed]
  simp only [run, if_neg (show ¬ digits.length = 0 by omega)]

theorem readInteger_signed {text : String} {sign digits blanks : List Char}
    (form : text.toList = sign ++ digits ++ blanks) (isSign : IsSign sign) (some_digit : digits ≠ [])
    (all : ∀ c ∈ digits, Text.isDigit c = true)
    (around : ∀ c ∈ blanks, Text.isNumberBlank c = true) :
    (∃ n, readInteger text = .ok n) ∨
      digitLimit < digits.length ∧ readInteger text = .error (.tooLong digits.length) := by
  obtain ⟨negative, signed⟩ := signOf_digits isSign all
  obtain ⟨total, run⟩ := digitRun_digits all false 0 0
  rw [Nat.zero_add] at run
  rw [readInteger_eq form isSign some_digit all around signed run]
  by_cases long : digitLimit < digits.length
  · rw [if_pos long]
    exact Or.inr ⟨long, rfl⟩
  · rw [if_neg long]
    exact Or.inl ⟨_, rfl⟩

/-! ## Texts of integers -/

/-- Digits with single underscores between them, the number they spell, and how many they are. -/
inductive DigitText : List Char → Nat → Nat → Prop where
  | first {c : Char} {d : Nat} (digit : Text.digitValue? c = some d) : DigitText [c] d 1
  | next {text : List Char} {value count : Nat} {c : Char} {d : Nat}
      (before : DigitText text value count) (digit : Text.digitValue? c = some d) :
      DigitText (text ++ [c]) (value * 10 + d) (count + 1)
  | apart {text : List Char} {value count : Nat} {c : Char} {d : Nat}
      (before : DigitText text value count) (digit : Text.digitValue? c = some d) :
      DigitText (text ++ ['_', c]) (value * 10 + d) (count + 1)

/-- Digits with an optional sign before them and blanks around, no more digits than may be read, and
the integer they spell. -/
inductive IntegerText : List Char → Int → Prop where
  | intro {before sign digits after : List Char} {value count : Nat}
      (around : ∀ c ∈ before ++ after, Text.isNumberBlank c = true) (isSign : IsSign sign)
      (spells : DigitText digits value count) (short : count ≤ digitLimit) :
      IntegerText (before ++ (sign ++ digits) ++ after)
        (if sign = ['-'] then -(value : Int) else (value : Int))

section

variable {c : Char} {d value count total length : Nat} {text sign digits rest : List Char}

theorem isDigit_of_value (digit : Text.digitValue? c = some d) : Text.isDigit c = true := by
  rw [Text.isDigit, digit]
  rfl

theorem digitRun_digit (digit : Text.digitValue? c = some d) (between : Bool) (value count : Nat)
    (rest : List Char) : digitRun between value count (c :: rest) =
      digitRun true (value * 10 + d) (count + 1) rest := by
  rw [digitRun.eq_def]
  simp only [digit]

theorem digitRun_underscore (digit : Text.isDigit c = true) (value count : Nat)
    (rest : List Char) :
    digitRun true value count ('_' :: c :: rest) = digitRun false value count (c :: rest) := by
  have mark : Text.digitValue? '_' = none := by decide
  rw [digitRun.eq_def]
  simp only [mark, digit, if_true]

/-- A run of digits goes on behind the digits that it has passed. -/
theorem DigitText.run (spells : DigitText text total length) (between : Bool) (value count : Nat)
    (rest : List Char) : digitRun between value count (text ++ rest) =
      digitRun true (value * Nat.pow 10 length + total) (count + length) rest := by
  have longer : ∀ n, Nat.pow 10 (n + 1) = Nat.pow 10 n * 10 := fun _ => rfl
  induction spells generalizing rest with
  | first digit =>
    have one : Nat.pow 10 1 = 10 := rfl
    rw [List.singleton_append, digitRun_digit digit, one]
  | next before digit ih =>
    rw [List.append_assoc, ih, List.singleton_append, digitRun_digit digit, longer,
      ← Nat.mul_assoc, Nat.add_mul, Nat.add_assoc, Nat.add_assoc]
  | apart before digit ih =>
    rw [List.append_assoc, ih, List.cons_append, List.singleton_append,
      digitRun_underscore (isDigit_of_value digit), digitRun_digit digit, longer,
      ← Nat.mul_assoc, Nat.add_mul, Nat.add_assoc, Nat.add_assoc]

/-- A run to the end of a text goes over digits only. -/
theorem DigitText.of_run {front text : List Char} {value count : Nat}
    (before : DigitText front value count)
    (run : digitRun true value count text = (total, length, [])) :
    DigitText (front ++ text) total length := by
  match text with
  | [] =>
    cases run
    rw [List.append_nil]
    exact before
  | c :: rest =>
    cases digit : Text.digitValue? c with
    | some d =>
      rw [digitRun_digit digit] at run
      have whole := of_run (before.next digit) run
      rw [List.append_assoc] at whole
      exact whole
    | none =>
      -- another character is an underscore before a digit, or the run ends in front of it
      rw [digitRun.eq_def] at run
      simp only [digit] at run
      split at run
      · rename_i next more mark
        cases mark
        split at run
        · rename_i follows
          obtain ⟨e, value⟩ := Option.isSome_iff_exists.mp follows
          rw [digitRun_digit value] at run
          have whole := of_run (before.apart value) run
          rw [List.append_assoc] at whole
          exact whole
        · cases run
      · cases run
termination_by text.length

theorem digitText_of_run (some_digit : count ≠ 0)
    (run : digitRun false 0 0 text = (value, count, [])) : DigitText text value count := by
  cases text with
  | nil =>
    cases run
    exact absurd rfl some_digit
  | cons c rest =>
    cases digit : Text.digitValue? c with
    | some d =>
      rw [digitRun_digit digit, Nat.zero_mul, Nat.zero_add, Nat.zero_add] at run
      exact (DigitText.first digit).of_run run
    | none =>
      rw [digitRun.eq_def] at run
      simp [digit] at run

theorem DigitText.begins (spells : DigitText text value count) :
    ∃ c rest, text = c :: rest ∧ Text.isDigit c = true := by
  induction spells with
  | first digit => exact ⟨_, [], rfl, isDigit_of_value digit⟩
  | next _ _ ih | apart _ _ ih =>
    obtain ⟨c, rest, rfl, digit⟩ := ih
    exact ⟨c, _, rfl, digit⟩

theorem DigitText.ends (spells : DigitText text value count) :
    0 < count ∧ ∃ c, text.getLast? = some c ∧ Text.isDigit c = true := by
  cases spells with
  | first digit => exact ⟨Nat.one_pos, _, rfl, isDigit_of_value digit⟩
  | next _ digit | apart _ digit =>
    exact ⟨Nat.succ_pos _, _, by simp, isDigit_of_value digit⟩

theorem signOf_parts (text : List Char) : ∃ sign, text = sign ++ (signOf text).2 ∧ IsSign sign ∧
    (signOf text).1 = decide (sign = ['-']) := by
  unfold signOf
  split
  · exact ⟨['-'], rfl, Or.inr (Or.inl rfl), rfl⟩
  · exact ⟨['+'], rfl, Or.inr (Or.inr rfl), rfl⟩
  · exact ⟨[], rfl, Or.inl rfl, rfl⟩

theorem signOf_spelled (isSign : IsSign sign) (spells : DigitText digits value count) :
    signOf (sign ++ digits) = (decide (sign = ['-']), digits) := by
  obtain ⟨c, rest, rfl, digit⟩ := spells.begins
  rcases isSign with rfl | rfl | rfl
  · exact signOf_digit digit rest
  · rfl
  · rfl

theorem integerText_of_readInteger {text : String} {n : Int} (ok : readInteger text = .ok n) :
    IntegerText text.toList n := by
  obtain ⟨before, after, whole, around⟩ := Text.trim_parts Text.isNumberBlank text.toList
  obtain ⟨sign, parted, isSign, negative⟩ := signOf_parts (Text.trim Text.isNumberBlank text.toList)
  unfold readInteger at ok
  simp only [negative] at ok
  split at ok
  · rename_i value count run
    split at ok
    · cases ok
    · rename_i some_digit
      split at ok
      · cases ok
      · rename_i short
        have written := IntegerText.intro around isSign (digitText_of_run some_digit run)
          (Nat.not_lt.mp short)
        rw [← parted, ← whole] at written
        simp only [decide_eq_true_eq] at ok
        cases ok
        exact written
  · cases ok

theorem IntegerText.readInteger {text : String} {n : Int} (written : IntegerText text.toList n) :
    readInteger text = .ok n := by
  generalize form : text.toList = chars at written
  cases written with
  | @intro before sign digits after value count around isSign spells short =>
    obtain ⟨c, rest, same, digit⟩ := spells.begins
    obtain ⟨positive, last, ends, lastDigit⟩ := spells.ends
    have head : ∃ first, (sign ++ digits).head? = some first ∧
        Text.isNumberBlank first = false := by
      rcases isSign with rfl | rfl | rfl
      · exact ⟨c, by rw [same]; rfl, (Text.digit_apart digit).1⟩
      · exact ⟨'-', rfl, by decide⟩
      · exact ⟨'+', rfl, by decide⟩
    obtain ⟨first, head, headOut⟩ := head
    have tail : (sign ++ digits).getLast? = some last := by
      rw [List.getLast?_append, ends, Option.some_or]
    have run := spells.run false 0 0 []
    rw [List.append_nil, Nat.zero_mul, Nat.zero_add, Nat.zero_add] at run
    unfold Number.readInteger
    rw [form, Text.trim_around head tail headOut (Text.digit_apart lastDigit).1 around,
      signOf_spelled isSign spells]
    simp only [run, digitRun, if_neg (Nat.ne_of_gt positive), if_neg (Nat.not_lt.mpr short),
      decide_eq_true_eq]

/-- Integers are read from the texts of integers, and from no others. -/
theorem readInteger_eq_ok_iff {text : String} {n : Int} :
    readInteger text = .ok n ↔ IntegerText text.toList n :=
  ⟨integerText_of_readInteger, IntegerText.readInteger⟩

end

/-! ## Written integers -/

theorem digitValue?_decimal {c : Char} (decimal : c.isDigit = true) :
    Text.digitValue? c = some (c.toNat - 48) := by
  have range : 48 ≤ c.toNat ∧ c.toNat ≤ 57 := by
    simpa [Char.isDigit, UInt32.le_iff_toNat_le] using decimal
  unfold Text.digitValue?
  simp only [decimal, if_true, if_pos (show c.toNat < 128 by omega)]

theorem isDigit_decimal {c : Char} (decimal : c.isDigit = true) : Text.isDigit c = true := by
  rw [Text.isDigit, digitValue?_decimal decimal]
  rfl

theorem digitRun_decimal {digits : List Char} (all : ∀ c ∈ digits, c.isDigit = true)
    (between : Bool) (value count : Nat) : digitRun between value count digits =
      (Nat.ofDigitChars 10 digits value, count + digits.length, []) := by
  induction digits generalizing between value count with
  | nil => simp [digitRun]
  | cons c rest ih =>
    have others := ih (fun c member => all c (List.mem_cons_of_mem _ member))
    rw [digitRun.eq_def]
    simp only [digitValue?_decimal (all c List.mem_cons_self), others, List.length_cons]
    rw [Nat.ofDigitChars_cons, Nat.mul_comm]
    congr 2
    omega

/-- The sign that an integer is written with. -/
def writtenSign (n : Int) : List Char := if n < 0 then ['-'] else []

theorem toString_eq (n : Int) :
    (toString n).toList = writtenSign n ++ Nat.toDigits 10 n.natAbs := by
  cases n with
  | ofNat m =>
    have natural : ¬ Int.ofNat m < 0 := Int.not_lt.mpr (Int.natCast_nonneg m)
    have text : toString (Int.ofNat m) = toString m := rfl
    rw [writtenSign, if_neg natural, text, Nat.toString_eq_ofList_toDigits, String.toList_ofList]
    rfl
  | negSucc m =>
    have negative : Int.negSucc m < 0 := Int.negSucc_lt_zero m
    have text : toString (Int.negSucc m) = "-" ++ toString (m + 1) := rfl
    have digits : (toString (m + 1)).toList = Nat.toDigits 10 (m + 1) := by
      rw [Nat.toString_eq_ofList_toDigits, String.toList_ofList]
    rw [writtenSign, if_pos negative, text, String.toList_append, digits]
    rfl

theorem length_toDigits {n : Int} (within : withinDigitLimit n = true) :
    (Nat.toDigits 10 n.natAbs).length ≤ digitLimit := by
  have fits : ∀ m k, 0 < k → m < Nat.pow 10 k → (Nat.toDigits 10 m).length ≤ k :=
    fun m k positive small => (Nat.length_toDigits_le_iff (by decide) positive).mpr small
  exact fits _ _ (by decide) (of_decide_eq_true within)

/-- An integer that is not too long to be written is read back. -/
theorem readInteger_toString {n : Int} (within : withinDigitLimit n = true) :
    readInteger (toString n) = .ok n := by
  have decimal : ∀ c ∈ Nat.toDigits 10 n.natAbs, c.isDigit = true :=
    fun c member => Nat.isDigit_of_mem_toDigits (by decide) (by decide) member
  have all : ∀ c ∈ Nat.toDigits 10 n.natAbs, Text.isDigit c = true :=
    fun c member => isDigit_decimal (decimal c member)
  have run := digitRun_decimal decimal false 0 0
  rw [Nat.zero_add, Nat.ofDigitChars_ten_toDigits] at run
  have short : ¬ digitLimit < (Nat.toDigits 10 n.natAbs).length :=
    Nat.not_lt.mpr (length_toDigits within)
  have form : (toString n).toList = writtenSign n ++ Nat.toDigits 10 n.natAbs ++ [] := by
    rw [toString_eq, List.append_nil]
  by_cases negative : n < 0
  · have sign : writtenSign n = ['-'] := if_pos negative
    rw [sign] at form
    rw [readInteger_eq form (Or.inr (Or.inl rfl)) Nat.toDigits_ne_nil all nofun rfl run,
      if_neg short, if_pos rfl, Int.ofNat_natAbs_of_nonpos (Int.le_of_lt negative), Int.neg_neg]
  · have sign : writtenSign n = [] := if_neg negative
    rw [sign] at form
    rw [readInteger_eq form (Or.inl rfl) Nat.toDigits_ne_nil all nofun (signOf_unsigned all) run,
      if_neg short, if_neg Bool.false_ne_true, Int.natAbs_of_nonneg (Int.not_lt.mp negative)]

end Number

/-- The one way in which a text of digits is no integer. -/
theorem integerOfText_signed {text : String} {sign digits blanks : List Char}
    (form : text.toList = sign ++ digits ++ blanks) (isSign : Number.IsSign sign)
    (some_digit : digits ≠ []) (all : ∀ c ∈ digits, Text.isDigit c = true)
    (around : ∀ c ∈ blanks, Text.isNumberBlank c = true) :
    FailsOnly (integerOfText text) fun f =>
      digitLimit < digits.length ∧ ∃ words, f = .fault .value words := by
  intro f fails
  unfold integerOfText at fails
  rcases Number.readInteger_signed form isSign some_digit all around with ⟨n, reads⟩ | ⟨long, reads⟩
  · rw [reads] at fails
    cases fails
  · rw [reads] at fails
    cases fails
    exact ⟨long, _, rfl⟩

theorem Value.text?_fails (v : Value) :
    FailsOnly v.text? fun f => f = .digits ∧ v.isWritable = false := by
  intro f fails
  unfold Value.text? at fails
  split at fails
  · cases fails
  · rename_i long
    cases fails
    exact ⟨rfl, by simpa using long⟩

end Curator
