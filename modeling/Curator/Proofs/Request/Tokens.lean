import Curator.Proofs.Text.Integers
import Curator.Proofs.Text.Names
import Curator.Request.Cursor
import Curator.Text.Encoding
/-!
# Cursors that are given back

The token of an integer stands for the integer: it is decoded to the text that was encoded, and that
text is read as a number.
-/

set_option autoImplicit false

/-!
## Reading base 64 back

What is encoded is decoded to the same bytes, group by group of three bytes and four characters.
-/

namespace Curator.Text

/-- Each character of the alphabet has its place for a value, and none of them is the padding. -/
theorem base64Value?_char {n : Nat} (small : n < 64) :
    base64Value? (base64Char n) = some n ∧ base64Char n ≠ '=' := by
  have all : ∀ n < 64, base64Value? (base64Char n) = some n ∧ base64Char n ≠ '=' := by decide
  exact all n small

section

variable {n carry : Nat} (small : n < 64) (rest : List Char)

include small

theorem decodeBase64From_first :
    decodeBase64From 0 carry (base64Char n :: rest) = decodeBase64From 1 n rest := by
  obtain ⟨value, noPadding⟩ := base64Value?_char small
  rw [decodeBase64From, if_neg noPadding, value]
  rfl

theorem decodeBase64From_second :
    decodeBase64From 1 carry (base64Char n :: rest) =
      (decodeBase64From 2 (n % 16) rest).map (UInt8.ofNat (carry * 4 + n / 16) :: ·) := by
  obtain ⟨value, noPadding⟩ := base64Value?_char small
  rw [decodeBase64From, if_neg noPadding, value]
  rfl

theorem decodeBase64From_third :
    decodeBase64From 2 carry (base64Char n :: rest) =
      (decodeBase64From 3 (n % 4) rest).map (UInt8.ofNat (carry * 16 + n / 4) :: ·) := by
  obtain ⟨value, noPadding⟩ := base64Value?_char small
  rw [decodeBase64From, if_neg noPadding, value]
  rfl

theorem decodeBase64From_fourth :
    decodeBase64From 3 carry (base64Char n :: rest) =
      (decodeBase64From 0 0 rest).map (UInt8.ofNat (carry * 64 + n) :: ·) := by
  obtain ⟨value, noPadding⟩ := base64Value?_char small
  rw [decodeBase64From, if_neg noPadding, value]
  rfl

end

theorem ofNat_eq {a : UInt8} {n : Nat} (same : n = a.toNat) : UInt8.ofNat n = a := by
  rw [same, UInt8.ofNat_toNat]

theorem decodeBase64From_encode (data : List UInt8) :
    decodeBase64From 0 0 (encodeBase64 data) = some data := by
  -- by groups of three bytes; a shorter one is the last, with padding behind it
  fun_induction encodeBase64 data with
  | case1 => rfl
  | case2 a n =>
    have bound := a.toNat_lt
    rw [decodeBase64From_first (by omega), decodeBase64From_second (by omega)]
    have padding : decodeBase64From 2 (n % 64 % 16) ['=', '='] = some [] := rfl
    rw [padding, Option.map_some, ofNat_eq (a := a) (by omega)]
  | case3 a b n =>
    have bound := a.toNat_lt
    have bound' := b.toNat_lt
    rw [decodeBase64From_first (by omega), decodeBase64From_second (by omega),
      decodeBase64From_third (by omega)]
    have padding : decodeBase64From 3 (n % 64 % 4) ['='] = some [] := rfl
    rw [padding, Option.map_some, Option.map_some, ofNat_eq (a := a) (by omega),
      ofNat_eq (a := b) (by omega)]
  | case4 a b c rest n ih =>
    have bound := a.toNat_lt
    have bound' := b.toNat_lt
    have bound'' := c.toNat_lt
    rw [decodeBase64From_first (by omega), decodeBase64From_second (by omega),
      decodeBase64From_third (by omega), decodeBase64From_fourth (by omega), ih]
    simp only [Option.map_some]
    rw [ofNat_eq (a := a) (by omega), ofNat_eq (a := b) (by omega), ofNat_eq (a := c) (by omega)]

theorem encodeBase64_head (data : List UInt8) : (encodeBase64 data).head? ≠ some '=' := by
  have apart : ∀ n < 64, some (base64Char n) ≠ some '=' := by
    intro n small same
    exact (base64Value?_char small).2 (Option.some.inj same)
  fun_cases encodeBase64 data with
  | case1 => simp
  | case2 a n =>
    have bound := a.toNat_lt
    exact apart _ (by omega)
  | case3 a b n =>
    have bound := a.toNat_lt
    have bound' := b.toNat_lt
    exact apart _ (by omega)
  | case4 a b c rest n =>
    have bound := a.toNat_lt
    have bound' := b.toNat_lt
    have bound'' := c.toNat_lt
    exact apart _ (by omega)

theorem decodeBase64_encode (data : List UInt8) :
    decodeBase64 (encodeBase64 data) = some data := by
  rw [decodeBase64, if_neg (encodeBase64_head data), decodeBase64From_encode]

end Curator.Text

/-! ## Tokens -/

namespace Curator

open Outcome Number

namespace Text

theorem toList_loop (data : ByteArray) (i : Nat) (front : List UInt8) :
    ByteArray.toList.loop data i front = front.reverse ++ data.data.toList.drop i := by
  fun_induction ByteArray.toList.loop data i front with
  | case1 i front more ih =>
    have inside : i < data.data.toList.length := by simpa using more
    have next : data.data.toList[i] = data.get! i := (getElem!_pos data.data i more).symm
    rw [ih, List.drop_eq_getElem_cons inside, next, List.reverse_cons, List.append_assoc,
      List.singleton_append]
  | case2 i front done =>
    have all : data.data.toList.length ≤ i := by simpa using done
    rw [List.drop_of_length_le all, List.append_nil]

theorem ofUtf8?_utf8Bytes (text : String) : ofUtf8? (utf8Bytes text) = some text := by
  have whole : (⟨text.toUTF8.toList.toArray⟩ : ByteArray) = text.toUTF8 := by
    rw [ByteArray.toList, toList_loop]
    simp
  rw [ofUtf8?, utf8Bytes, whole, String.toUTF8_eq_toByteArray, String.fromUTF8?,
    dif_pos text.isValidUTF8]
  rfl

end Text

namespace Cursor

theorem text?_ofText {text : String} (some_text : text ≠ "") : text? (ofText text) = some text := by
  rw [text?, ofText, String.toList_ofList, Text.decodeBase64_encode]
  simp [Text.ofUtf8?_utf8Bytes, some_text]

/-- A text that a token hands back as an integer: digits of any script behind a minus or nothing, and
a line end after them or nothing. -/
structure Numeral (text sign digits ending : List Char) : Prop where
  form : text = sign ++ digits ++ ending
  sign : sign = [] ∨ sign = ['-']
  some_digit : digits ≠ []
  digits : ∀ c ∈ digits, Text.isDigit c = true
  ending : ending = [] ∨ ending = ['\n']

section

variable {text sign digits ending : List Char}

theorem Numeral.isSign (numeral : Numeral text sign digits ending) : IsSign sign := by
  rcases numeral.sign with rfl | rfl
  · exact Or.inl rfl
  · exact Or.inr (Or.inl rfl)

theorem Numeral.blank (numeral : Numeral text sign digits ending) :
    ∀ c ∈ ending, Text.isNumberBlank c = true := by
  intro c member
  rcases numeral.ending with rfl | rfl
  · cases member
  · rw [List.mem_singleton.mp member]
    decide

theorem withoutFinalNewline_numeral (numeral : Numeral text sign digits ending) :
    Text.withoutFinalNewline text = sign ++ digits := by
  have last : (sign ++ digits).getLast? ≠ some '\n' := by
    intro newline
    rw [List.getLast?_append_of_ne_nil _ numeral.some_digit] at newline
    have digit := numeral.digits _ (List.mem_of_getLast? newline)
    revert digit
    decide
  rw [numeral.form]
  rcases numeral.ending with rfl | rfl
  · unfold Text.withoutFinalNewline
    split
    · rename_i newline
      rw [List.append_nil] at newline
      exact absurd newline last
    · exact List.append_nil _
  · simp [Text.withoutFinalNewline]

theorem isIntegerText_iff :
    isIntegerText text = true ↔ ∃ sign digits ending, Numeral text sign digits ending := by
  constructor
  · intro integer
    obtain ⟨ending, whole, line⟩ := Text.withoutFinalNewline_parts text
    unfold isIntegerText at integer
    generalize Text.withoutFinalNewline text = front at whole integer
    simp only [Bool.and_eq_true, Bool.not_eq_true', List.isEmpty_eq_false_iff,
      List.all_eq_true] at integer
    obtain ⟨some_digit, all⟩ := integer
    by_cases minus : front.head? = some '-'
    · rw [if_pos minus] at some_digit all
      obtain ⟨rest, rfl⟩ := List.head?_eq_some_iff.mp minus
      exact ⟨['-'], rest, ending, whole, Or.inr rfl, some_digit, all, line⟩
    · rw [if_neg minus] at some_digit all
      exact ⟨[], front, ending, whole, Or.inl rfl, some_digit, all, line⟩
  · rintro ⟨sign, digits, ending, numeral⟩
    have some_digit := numeral.some_digit
    have all := List.all_eq_true.mpr numeral.digits
    have first : digits.head? ≠ some '-' := fun minus =>
      (Text.digit_apart (numeral.digits _ (List.mem_of_head? minus))).2.1 rfl
    unfold isIntegerText
    rw [withoutFinalNewline_numeral numeral]
    rcases numeral.sign with rfl | rfl
    · simp [first, some_digit, all]
    · simp [some_digit, all]

end

theorem isIntegerText_toString (n : Int) : isIntegerText (toString n).toList = true := by
  refine isIntegerText_iff.mpr ⟨writtenSign n, Nat.toDigits 10 n.natAbs, [], ?_, ?_,
    Nat.toDigits_ne_nil, fun c member => ?_, Or.inl rfl⟩
  · rw [toString_eq, List.append_nil]
  · unfold writtenSign
    split
    · exact Or.inr rfl
    · exact Or.inl rfl
  · exact isDigit_decimal (Nat.isDigit_of_mem_toDigits (by decide) (by decide) member)

theorem exists_token {n : Int} (within : withinDigitLimit n = true) :
    ∃ token, encode (.int n) = .ok token := by
  refine ⟨ofText (Value.int n).text, ?_⟩
  unfold encode Value.text? Value.isWritable
  rw [if_pos within]
  rfl

theorem decode_encode {n : Int} {token : String} (ok : encode (.int n) = .ok token) :
    decode token = .ok (.int n) := by
  obtain ⟨text, text_ok, ok⟩ := bind_ok ok
  cases pure_ok ok
  unfold Value.text? at text_ok
  split at text_ok
  · rename_i within
    cases text_ok
    have written : (Value.int n).text = toString n := rfl
    have integer := isIntegerText_toString n
    have some_text : toString n ≠ "" := by
      intro empty
      rw [empty] at integer
      revert integer
      decide
    rw [written, decode, text?_ofText some_text]
    simp only [integer, if_true, integerOfText, readInteger_toString within]
    rfl
  · cases text_ok

/-- The token of a text that is no integer stands for the text; that of one that is does not. -/
theorem decode_ofText_iff {text : String} (some_text : text ≠ "") :
    decode (ofText text) = .ok (.str text) ↔
      ¬ ∃ sign digits ending, Numeral text.toList sign digits ending := by
  rw [← isIntegerText_iff, decode, text?_ofText some_text]
  by_cases integer : isIntegerText text.toList = true
  · simp only [integer, if_true, not_true, iff_false]
    intro same
    obtain ⟨n, _, same⟩ := bind_ok same
    cases pure_ok same
  · simp only [integer, Bool.false_eq_true, if_false, not_false_eq_true]

/-- What a token stands for.  The token of an integer that can be written stands for the integer, and
that of a text for the text, unless it is digits of whatever script behind a minus or nothing, which
may also have a line end after them. -/
theorem tokens_stand_for_values {n : Int} {text : String} (within : withinDigitLimit n = true)
    (some_text : text ≠ "") :
    (∃ token, encode (.int n) = .ok token ∧ decode token = .ok (.int n)) ∧
      ∃ token, encode (.str text) = .ok token ∧ (decode token = .ok (.str text) ↔
        ¬ ∃ sign digits ending, Numeral text.toList sign digits ending) := by
  obtain ⟨token, encoded⟩ := exists_token within
  exact ⟨⟨token, encoded, decode_encode encoded⟩, ofText text, rfl, decode_ofText_iff some_text⟩

end Cursor

namespace Sample

open Cursor

/-- Twelve stands for itself, and so does a text that only begins like it. -/
theorem twelve_given_back :
    (∃ token, encode (.int 12) = .ok token ∧ decode token = .ok (.int 12)) ∧
      ∃ token, encode (.str "12a") = .ok token ∧ decode token = .ok (.str "12a") := by
  have within : withinDigitLimit 12 = true := by decide +kernel
  have some_text : "12a" ≠ "" := by decide
  obtain ⟨number, token, encoded, decoded⟩ := tokens_stand_for_values within some_text
  refine ⟨number, token, encoded, decoded.mpr ?_⟩
  rw [← isIntegerText_iff]
  decide

/-- The token of twelve with a line end after it stands for the number. -/
theorem twelve_loses_line_end :
    ∃ token, encode (.str "12\n") = .ok token ∧ decode token = .ok (.int 12) := by
  refine ⟨ofText "12\n", rfl, ?_⟩
  rw [decode, text?_ofText (by decide)]
  rfl

end Sample

end Curator
