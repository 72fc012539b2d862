import Curator.Json.Reader
import Curator.Json.Writer
import Curator.Proofs.Mapping
import Curator.Proofs.Text.Integers
import Curator.Proofs.Text.Names
/-!
# JSON that is read back

A value of JSON that is written on a single line and read again is the same value: integers by their
digits, texts through their escapes, and lists and mappings in their order.
-/

set_option autoImplicit false

namespace Curator

open Outcome Number

/-! ## Values of JSON -/

namespace Value

mutual

/-- Whether a value can stand in JSON as what it is: integers short enough to be written, and no key
twice in a mapping. -/
def isJson : Value → Bool
  | .null => true
  | .bool _ => true
  | .int n => withinDigitLimit n
  | .str _ => true
  | .list items => areJson items
  | .dict entries => decide (entries.map (·.1)).Nodup && areJsonEntries entries
  | .float _ => false
  | .bytes _ => false
  | .date _ => false
  | .moment _ => false

def areJson : List Value → Bool
  | [] => true
  | item :: rest => isJson item && areJson rest

def areJsonEntries : List (String × Value) → Bool
  | [] => true
  | (_, item) :: rest => isJson item && areJsonEntries rest

end

end Value

namespace Json

/-! ## Characters -/

theorem hexValue?_hexDigit {d : Nat} (small : d < 16) :
    Text.hexValue? (Text.hexDigit d) = some d := by
  have all : ∀ d < 16, Text.hexValue? (Text.hexDigit d) = some d := by decide
  exact all d small

/-- The four digits of a unit are read back. -/
theorem readUnit?_hexPadded {unit : Nat} (small : unit < 0x10000) (rest : List Char) :
    readUnit? (Text.hexPadded 4 unit ++ rest) = some (unit, rest) := by
  have digit : ∀ n, Text.hexValue? (Text.hexDigit (n % 16)) = some (n % 16) :=
    fun n => hexValue?_hexDigit (Nat.mod_lt n (by decide))
  simp only [Text.hexPadded, List.nil_append, List.cons_append, readUnit?, digit]
  have value : ((unit / 16 / 16 / 16 % 16 * 16 + unit / 16 / 16 % 16) * 16 + unit / 16 % 16) * 16 +
      unit % 16 = unit := by omega
  simp only [Option.bind_eq_bind, Option.bind_some, value]
  rfl

/-- The escape of a unit that is no half of a pair is read back. -/
theorem readEscape?_unit {c : Char} (small : c.toNat < 0x10000) (rest : List Char) :
    readEscape? ('u' :: (Text.hexPadded 4 c.toNat ++ rest)) = some (c, rest) := by
  have valid := c.valid
  have whole : ¬ (0xD800 ≤ c.toNat ∧ c.toNat < 0xDC00) ∧
      ¬ (0xDC00 ≤ c.toNat ∧ c.toNat < 0xE000) := by
    have bounds : c.toNat < 0xD800 ∨ 0xDFFF < c.toNat ∧ c.toNat < 0x110000 := valid
    omega
  unfold readEscape?
  simp only [readUnit?_hexPadded small, Option.bind_eq_bind, Option.bind_some, if_neg whole.1,
    if_neg whole.2, Char.ofNat_toNat]

/-- Two units that are the halves of a pair are read as one character. -/
theorem readEscape?_halves {first second : Nat} {text others rest : List Char}
    (high : 0xD800 ≤ first ∧ first < 0xDC00) (low : 0xDC00 ≤ second ∧ second < 0xE000)
    (one : readUnit? text = some (first, '\\' :: 'u' :: others))
    (other : readUnit? others = some (second, rest)) : readEscape? ('u' :: text) =
      some (Char.ofNat (0x10000 + (first - 0xD800) * 0x400 + (second - 0xDC00)), rest) := by
  unfold readEscape?
  simp only [one, Option.bind_eq_bind, Option.bind_some]
  rw [if_pos high]
  simp only [other]
  rw [if_pos low]

/-- The two escapes of a character beyond the basic plane are read back as one. -/
theorem readEscape?_pair {c : Char} (large : 0x10000 ≤ c.toNat) (rest : List Char) :
    readEscape? ('u' :: (Text.hexPadded 4 (0xD800 + (c.toNat - 0x10000) / 0x400) ++
      (unitEscape (0xDC00 + (c.toNat - 0x10000) % 0x400) ++ rest))) = some (c, rest) := by
  have bound : c.toNat < 0x110000 := by
    have bounds : c.toNat < 0xD800 ∨ 0xDFFF < c.toNat ∧ c.toNat < 0x110000 := c.valid
    omega
  have whole : 0x10000 + (0xD800 + (c.toNat - 0x10000) / 0x400 - 0xD800) * 0x400 +
      (0xDC00 + (c.toNat - 0x10000) % 0x400 - 0xDC00) = c.toNat := by omega
  have read := readEscape?_halves (by omega) (by omega)
    (readUnit?_hexPadded (show 0xD800 + (c.toNat - 0x10000) / 0x400 < 0x10000 by omega)
      (unitEscape (0xDC00 + (c.toNat - 0x10000) % 0x400) ++ rest))
    (readUnit?_hexPadded (show 0xDC00 + (c.toNat - 0x10000) % 0x400 < 0x10000 by omega) rest)
  rw [read, whole, Char.ofNat_toNat]

/-- The characters whose escape is a letter or a sign, and these. -/
def namedEscapes : List (Char × Char) :=
  [('"', '"'), ('\\', '\\'), ('\n', 'n'), ('\r', 'r'), ('\t', 't'), (Char.ofNat 0x08, 'b'),
    (Char.ofNat 0x0C, 'f')]

theorem escapedChar_named : ∀ entry ∈ namedEscapes, escapedChar entry.1 = ['\\', entry.2] := by
  decide

theorem readEscape?_named : ∀ entry ∈ namedEscapes, ∀ rest,
    readEscape? (entry.2 :: rest) = some (entry.1, rest) := by
  simp only [namedEscapes, List.forall_mem_cons]
  exact ⟨fun _ => rfl, fun _ => rfl, fun _ => rfl, fun _ => rfl, fun _ => rfl, fun _ => rfl,
    fun _ => rfl, nofun⟩

/-- A character without such an escape stands as it is, or is one unit or two. -/
theorem escapedChar_other {c : Char} (apart : c ∉ namedEscapes.map (·.1)) : escapedChar c =
    if 0x20 ≤ c.toNat ∧ c.toNat ≤ 0x7E then [c]
    else if c.toNat < 0x10000 then unitEscape c.toNat
    else unitEscape (0xD800 + (c.toNat - 0x10000) / 0x400) ++
      unitEscape (0xDC00 + (c.toNat - 0x10000) % 0x400) := by
  have code : ∀ {n : Nat}, c ≠ Char.ofNat n → c.toNat ≠ n := by
    rintro _ other rfl
    exact other (Char.ofNat_toNat c).symm
  simp only [namedEscapes, List.map_cons, List.map_nil, List.mem_cons, not_or] at apart
  obtain ⟨quote, slash, newline, back, tab, erase, feed, _⟩ := apart
  rw [escapedChar, if_neg quote, if_neg slash, if_neg newline, if_neg back, if_neg tab,
    if_neg (code erase), if_neg (code feed)]

/-- A character is read back from the way it is written inside quotes. -/
theorem readChars_escapedChar (fuel : Nat) (c : Char) (text : List Char) :
    readChars (fuel + 1) (escapedChar c ++ text) = (do
      let (chars, rest) ← readChars fuel text
      pure (c :: chars, rest)) := by
  have escape : ∀ {more after : List Char}, readEscape? more = some (c, after) →
      readChars (fuel + 1) ('\\' :: more) = (do
        let (chars, rest) ← readChars fuel after
        pure (c :: chars, rest)) := by
    intro more after reads
    rw [readChars, if_neg (by decide), if_pos rfl, reads]
  -- a character is one of those with a named escape, or is written by its code
  by_cases named : c ∈ namedEscapes.map (·.1)
  · obtain ⟨entry, known, rfl⟩ := List.mem_map.mp named
    rw [escapedChar_named entry known]
    exact escape (readEscape?_named entry known text)
  · rw [escapedChar_other named]
    split
    · have apart : c ≠ '"' ∧ c ≠ '\\' := by
        constructor
        all_goals
          rintro rfl
          exact named (by decide)
      rw [List.singleton_append, readChars, if_neg apart.1, if_neg apart.2, if_neg (by omega)]
    split
    · rename_i small
      exact escape (readEscape?_unit small text)
    · have read := escape (readEscape?_pair (c := c) (by omega) text)
      simpa only [unitEscape, List.append_assoc, List.cons_append] using read

theorem readChars_escaped (chars : List Char) {fuel : Nat} (enough : chars.length < fuel)
    (rest : List Char) :
    readChars fuel (chars.flatMap escapedChar ++ '"' :: rest) = .ok (chars, rest) := by
  induction chars generalizing fuel with
  | nil =>
    obtain ⟨fuel, rfl⟩ := Nat.exists_eq_add_one_of_ne_zero (Nat.ne_zero_of_lt enough)
    rfl
  | cons c others ih =>
    obtain ⟨fuel, rfl⟩ := Nat.exists_eq_add_one_of_ne_zero (Nat.ne_zero_of_lt enough)
    rw [List.length_cons, Nat.add_lt_add_iff_right] at enough
    rw [List.flatMap_cons, List.append_assoc, readChars_escapedChar, ih enough]
    rfl

theorem length_le_escaped (chars : List Char) :
    chars.length ≤ (chars.flatMap escapedChar).length := by
  induction chars with
  | nil => exact Nat.le_refl 0
  | cons c others ih =>
    have some_char : 0 < (escapedChar c).length := by
      unfold escapedChar
      split_ifs
      all_goals simp [unitEscape]
    rw [List.flatMap_cons, List.length_append, List.length_cons]
    omega

theorem toList_stringText (s : String) :
    (stringText s).toList = '"' :: (s.toList.flatMap escapedChar ++ ['"']) := by
  rw [stringText, String.toList_ofList, List.cons_append]

theorem readString_escaped (s : String) (rest : List Char) :
    readString (s.toList.flatMap escapedChar ++ '"' :: rest) = .ok (s, rest) := by
  have enough : s.toList.length < (s.toList.flatMap escapedChar ++ '"' :: rest).length + 1 := by
    have least := length_le_escaped s.toList
    rw [List.length_append]
    omega
  rw [readString, readChars_escaped _ enough, ok_bind]
  exact congrArg (fun text => Except.ok (text, rest)) String.ofList_toList

/-! ## Numbers and names -/

/-- What may stand behind a value: nothing, or a mark between values or at the end of them. -/
def Ends (rest : List Char) : Prop :=
  ∀ c, rest.head? = some c → c = ',' ∨ c = ']' ∨ c = '\x7d'

theorem ends_nil : Ends [] := nofun

theorem ends_cons {c : Char} (mark : c = ',' ∨ c = ']' ∨ c = '\x7d') (rest : List Char) :
    Ends (c :: rest) := by
  intro d same
  cases same
  exact mark

theorem Ends.takeWhile {rest : List Char} (ends : Ends rest) : rest.takeWhile Char.isDigit = [] := by
  cases rest with
  | nil => rfl
  | cons c more => rcases ends c rfl with rfl | rfl | rfl <;> rfl

theorem Ends.fractionChars {rest : List Char} (ends : Ends rest) : fractionChars rest = [] := by
  cases rest with
  | nil => rfl
  | cons c more => rcases ends c rfl with rfl | rfl | rfl <;> rfl

theorem Ends.exponentChars {rest : List Char} (ends : Ends rest) : exponentChars rest = [] := by
  cases rest with
  | nil => rfl
  | cons c more => rcases ends c rfl with rfl | rfl | rfl <;> rfl

theorem head_toDigits {m : Nat} (positive : 0 < m) :
    ∃ d rest, Nat.toDigits 10 m = d :: rest ∧ d ≠ '0' := by
  induction m using Nat.strongRecOn with
  | ind m ih =>
    by_cases small : m < 10
    · have digits : ∀ d < 10, 0 < d → d.digitChar ≠ '0' := by decide
      exact ⟨m.digitChar, [], Nat.toDigits_of_lt_base small, digits m small positive⟩
    · obtain ⟨d, rest, digits, other⟩ := ih (m / 10) (by omega) (by omega)
      refine ⟨d, rest ++ [(m % 10).digitChar], ?_, other⟩
      rw [Nat.toDigits_of_base_le (by decide) (Nat.not_lt.mp small), digits, List.cons_append]

theorem isDigit_toDigits (m : Nat) : ∀ c ∈ Nat.toDigits 10 m, c.isDigit = true :=
  fun _ member => Nat.isDigit_of_mem_toDigits (by decide) (by decide) member

theorem wholeDigits_toDigits (m : Nat) {rest : List Char} (ends : Ends rest) :
    wholeDigits (Nat.toDigits 10 m ++ rest) = Nat.toDigits 10 m := by
  rcases Nat.eq_zero_or_pos m with rfl | positive
  · rfl
  · obtain ⟨d, more, digits, other⟩ := head_toDigits positive
    have all := isDigit_toDigits m
    rw [digits] at all ⊢
    have taken : ((d :: more) ++ rest).takeWhile Char.isDigit = d :: more := by
      rw [List.takeWhile_append_of_pos all, ends.takeWhile, List.append_nil]
    unfold wholeDigits
    split
    · rename_i same
      cases same
      exact absurd rfl other
    · exact taken

theorem readNumber_toDigits (negative : Bool) {m : Nat}
    (short : (Nat.toDigits 10 m).length ≤ digitLimit) {rest : List Char} (ends : Ends rest) :
    readNumber negative (Nat.toDigits 10 m ++ rest) =
      .ok (.int (if negative then -(m : Int) else (m : Int)), rest) := by
  have some_digit : (Nat.toDigits 10 m).isEmpty = false := by
    rw [List.isEmpty_eq_false_iff]
    exact Nat.toDigits_ne_nil
  have value : (Nat.toDigits 10 m).foldl (fun (n : Nat) (c : Char) => n * 10 + (c.toNat - 48)) 0 =
      m := by
    have read : Nat.ofDigitChars 10 (Nat.toDigits 10 m) 0 = m := Nat.ofDigitChars_ten_toDigits
    simp only [Nat.ofDigitChars, Nat.mul_comm 10] at read
    exact read
  unfold readNumber
  simp only [wholeDigits_toDigits m ends, some_digit, List.drop_left, ends.fractionChars,
    List.length_nil, List.drop_zero, ends.exponentChars, List.isEmpty_nil, Bool.and_self, if_true,
    if_neg (Nat.not_lt.mpr short), value, Bool.false_eq_true, if_false]

theorem readName?_eq_none {text : List Char}
    (apart : ∀ entry ∈ names, ¬ entry.1.toList <+: text) : readName? text = none := by
  unfold readName?
  rw [List.find?_eq_none.mpr, Option.map_none]
  rintro ⟨name, value⟩ member front
  exact apart _ member (List.isPrefixOf_iff_prefix.mp front)

theorem readName?_none {c : Char} (apart : c ∉ ['n', 't', 'f', 'N', 'I', '-']) (rest : List Char) :
    readName? (c :: rest) = none := by
  have heads : ∀ entry ∈ names,
      entry.1.toList.head? ∈ ['n', 't', 'f', 'N', 'I', '-'].map some := by decide
  refine readName?_eq_none fun entry member front => ?_
  obtain ⟨d, known, head⟩ := List.mem_map.mp (heads entry member)
  obtain ⟨more, chars⟩ := List.head?_eq_some_iff.mp head.symm
  rw [chars, List.cons_prefix_cons] at front
  rw [← front.1] at apart
  exact apart known

/-- A negative number is no name, although one begins with a minus. -/
theorem readName?_minus {d : Char} (other : d ≠ 'I') (rest : List Char) :
    readName? ('-' :: d :: rest) = none := by
  have heads : ∀ entry ∈ names, entry.1.toList ≠ '-' :: 'I' :: "nfinity".toList →
      entry.1.toList.head? ∈ ['n', 't', 'f', 'N', 'I'].map some := by decide
  refine readName?_eq_none fun entry member front => ?_
  by_cases infinite : entry.1.toList = '-' :: 'I' :: "nfinity".toList
  · rw [infinite, List.cons_prefix_cons, List.cons_prefix_cons] at front
    exact other front.2.1.symm
  · obtain ⟨e, known, head⟩ := List.mem_map.mp (heads entry member infinite)
    obtain ⟨more, chars⟩ := List.head?_eq_some_iff.mp head.symm
    rw [chars, List.cons_prefix_cons] at front
    rw [front.1] at known
    exact absurd known (by decide)

/-! ## Values -/

/-- A text that begins with what is no blank and ends neither a list nor a mapping. -/
def Begun (text : String) : Prop :=
  ∃ c more, text.toList = c :: more ∧ isSpace c = false ∧ c ≠ ']' ∧ c ≠ '\x7d'

theorem Begun.skipSpace {text : String} (begun : Begun text) (rest : List Char) :
    skipSpace (text.toList ++ rest) = text.toList ++ rest := by
  obtain ⟨c, more, chars, solid, _⟩ := begun
  rw [chars, Json.skipSpace, List.cons_append, List.dropWhile_cons_of_neg]
  simp [solid]

/-- A text that is read as a value and left as soon as the value ends. -/
structure Reads (v : Value) (text : String) : Prop where
  begun : Begun text
  back : ∀ fuel rest, text.toList.length ≤ fuel → Ends rest →
    readValue fuel (text.toList ++ rest) = .ok (v, rest)

/-- A text with a character is read with some fuel. -/
theorem reads_of {v : Value} {text : String} (begun : Begun text)
    (back : ∀ fuel rest, text.toList.length ≤ fuel + 1 → Ends rest →
      readValue (fuel + 1) (text.toList ++ rest) = .ok (v, rest)) : Reads v text := by
  refine ⟨begun, fun fuel rest enough ends => ?_⟩
  obtain ⟨c, more, chars, _⟩ := begun
  have some_fuel : fuel ≠ 0 := by
    rw [chars, List.length_cons] at enough
    omega
  obtain ⟨fuel, rfl⟩ := Nat.exists_eq_add_one_of_ne_zero some_fuel
  exact back fuel rest enough ends

theorem reads_null : Reads .null "null" :=
  reads_of ⟨'n', ['u', 'l', 'l'], rfl, rfl, by decide, by decide⟩ fun _ _ _ _ => rfl

theorem reads_bool (b : Bool) : Reads (.bool b) (if b then "true" else "false") := by
  cases b with
  | true =>
    exact reads_of ⟨'t', ['r', 'u', 'e'], rfl, rfl, by decide, by decide⟩ fun _ _ _ _ => rfl
  | false =>
    exact reads_of ⟨'f', ['a', 'l', 's', 'e'], rfl, rfl, by decide, by decide⟩ fun _ _ _ _ => rfl

/-- What begins neither a name nor anything in quotes, brackets or braces is read as a number. -/
theorem readValue_number {d : Char} (apart : d ∉ ['n', 't', 'f', 'N', 'I', '-', '"', '[', '\x7b'])
    (fuel : Nat) (rest : List Char) :
    readValue (fuel + 1) (d :: rest) = readNumber false (d :: rest) := by
  have noName : d ∉ ['n', 't', 'f', 'N', 'I', '-'] :=
    fun member => apart (List.mem_append_left ['"', '[', '\x7b'] member)
  rw [readValue, readName?_none noName]
  all_goals
    intro more same
    cases same
    exact apart (by decide)

theorem readValue_negative {d : Char} (other : d ≠ 'I') (fuel : Nat) (rest : List Char) :
    readValue (fuel + 1) ('-' :: d :: rest) = readNumber true (d :: rest) := by
  rw [readValue, readName?_minus other]

theorem reads_int {n : Int} (short : withinDigitLimit n = true) : Reads (.int n) (toString n) := by
  have fits := length_toDigits short
  have some_digit : Nat.toDigits 10 n.natAbs ≠ [] := Nat.toDigits_ne_nil
  obtain ⟨d, more, digits⟩ := List.exists_cons_of_ne_nil some_digit
  have digit := isDigit_toDigits n.natAbs d (digits ▸ List.mem_cons_self)
  have apart : ∀ c, c.isDigit = false → d ≠ c := by
    rintro _ other rfl
    rw [other] at digit
    cases digit
  have text := toString_eq n
  by_cases negative : n < 0
  · rw [writtenSign, if_pos negative] at text
    refine reads_of ⟨'-', _, text, rfl, by decide, by decide⟩ fun fuel rest _ ends => ?_
    have read := readNumber_toDigits true fits ends
    rw [digits, List.cons_append] at read
    rw [text, digits, List.singleton_append, List.cons_append, List.cons_append,
      readValue_negative (apart 'I' rfl), read, if_pos rfl,
      Int.ofNat_natAbs_of_nonpos (Int.le_of_lt negative), Int.neg_neg]
  · rw [writtenSign, if_neg negative, List.nil_append] at text
    have solid : isSpace d = false := by
      simp [isSpace, apart ' ' rfl, apart '\t' rfl, apart '\n' rfl, apart '\r' rfl]
    have first : d ∉ ['n', 't', 'f', 'N', 'I', '-', '"', '[', '\x7b'] := by
      have others : ['n', 't', 'f', 'N', 'I', '-', '"', '[', '\x7b'].all (!·.isDigit) = true := rfl
      intro member
      have other := List.all_eq_true.mp others d member
      rw [digit] at other
      cases other
    refine reads_of ⟨d, more, text.trans digits, solid, apart ']' rfl, apart '\x7d' rfl⟩
      fun fuel rest _ ends => ?_
    have read := readNumber_toDigits false fits ends
    rw [digits, List.cons_append] at read
    rw [text, digits, List.cons_append, readValue_number first, read, if_neg Bool.false_ne_true,
      Int.natAbs_of_nonneg (Int.not_lt.mp negative)]

theorem reads_str (s : String) : Reads (.str s) (stringText s) := by
  have text := toList_stringText s
  refine reads_of ⟨'"', _, text, rfl, by decide, by decide⟩ fun fuel rest _ _ => ?_
  rw [text, List.cons_append, List.append_assoc, List.singleton_append, readValue,
    readName?_none (by decide)]
  simp only [readString_escaped, ok_bind]
  rfl

/-! ## Lists and mappings -/

/-- A style that puts nothing but blanks around the marks between items and keys. -/
structure Style.Flat (style : Style) : Prop where
  line : style.indent = none
  items : ∃ blanks, style.itemMark.toList = ',' :: blanks ∧ ∀ c ∈ blanks, isSpace c = true
  keys : ∃ blanks, style.keyMark.toList = ':' :: blanks ∧ ∀ c ∈ blanks, isSpace c = true

theorem compact_flat : Style.compact.Flat :=
  ⟨rfl, ⟨[], rfl, List.forall_mem_nil _⟩, ⟨[], rfl, List.forall_mem_nil _⟩⟩

theorem spaced_flat : Style.spaced.Flat := by
  have blank : ∀ c ∈ [' '], isSpace c = true := List.forall_mem_singleton.mpr rfl
  exact ⟨rfl, ⟨[' '], rfl, blank⟩, ⟨[' '], rfl, blank⟩⟩

theorem skipSpace_blanks {blanks : List Char} (all : ∀ c ∈ blanks, isSpace c = true)
    (rest : List Char) : skipSpace (blanks ++ rest) = skipSpace rest :=
  List.dropWhile_append_of_pos all

theorem enclose_flat {style : Style} (flat : style.Flat) (depth : Nat) (opening closing : String)
    (items : List String) :
    enclose style depth opening closing items =
      opening ++ Text.join style.itemMark items ++ closing := by
  rw [enclose, flat.line]

/-- A text that is read as an entry of a mapping. -/
def ReadsEntry (style : Style) (entry : String × Value) (text : String) : Prop :=
  ∃ inner, text = stringText entry.1 ++ style.keyMark ++ inner ∧ Reads entry.2 inner

section

variable {style : Style}

theorem toList_join (mark first second : String) (rest : List String) :
    (Text.join mark (first :: second :: rest)).toList =
      first.toList ++ (mark.toList ++ (Text.join mark (second :: rest)).toList) := by
  rw [Text.join_cons_cons, String.toList_append, String.toList_append, List.append_assoc]

theorem join_singleton (mark text : String) : Text.join mark [text] = text := by
  simp [Text.join]

theorem Begun.join {text : String} (begun : Begun text) (mark : String) (texts : List String) :
    Begun (Text.join mark (text :: texts)) := by
  cases texts with
  | nil =>
    rw [join_singleton]
    exact begun
  | cons second others =>
    obtain ⟨c, more, chars, apart⟩ := begun
    have joined := toList_join mark text second others
    rw [chars, List.cons_append] at joined
    exact ⟨c, _, joined, apart⟩

theorem readItems_join (flat : style.Flat) {items : List Value} {texts : List String}
    (each : List.Forall₂ Reads items texts) (some_item : items ≠ []) {fuel : Nat}
    (enough : (Text.join style.itemMark texts).toList.length < fuel) (rest : List Char) :
    readItems fuel ((Text.join style.itemMark texts).toList ++ ']' :: rest) = .ok (items, rest) := by
  induction each generalizing fuel with
  | nil => exact absurd rfl some_item
  | @cons item text items texts reads others ih =>
    obtain ⟨fuel, rfl⟩ := Nat.exists_eq_add_one_of_ne_zero (Nat.ne_zero_of_lt enough)
    cases others with
    | nil =>
      rw [join_singleton] at enough ⊢
      rw [readItems, reads.back fuel _ (by omega) (ends_cons (by decide) rest), ok_bind]
      rfl
    | @cons _ second _ texts next _ =>
      obtain ⟨blanks, mark, blank⟩ := flat.items
      rw [toList_join, mark] at enough ⊢
      simp only [List.length_append, List.length_cons] at enough
      have others := ih (by simp) (show _ < fuel by omega)
      simp only [List.append_assoc, List.cons_append]
      rw [readItems, reads.back fuel _ (by omega) (ends_cons (by decide) _), ok_bind]
      have passed : ∀ more, skipSpace (',' :: more) = ',' :: more := fun _ => rfl
      simp only [passed, skipSpace_blanks blank, (next.begun.join _ _).skipSpace, others, ok_bind]
      rfl

theorem ReadsEntry.begun {entry : String × Value} {text : String}
    (reads : ReadsEntry style entry text) : Begun text := by
  obtain ⟨inner, rfl, _⟩ := reads
  have chars : (stringText entry.1 ++ style.keyMark ++ inner).toList = _ :=
    (String.toList_append ..).trans (congrArg (· ++ inner.toList) (String.toList_append ..))
  rw [toList_stringText, List.cons_append, List.cons_append] at chars
  exact ⟨'"', _, chars, rfl, by decide, by decide⟩

/-- An entry is read back, and so are those behind it if they are read. -/
theorem readEntries_entry (flat : style.Flat) {entry : String × Value} {text : String}
    (reads : ReadsEntry style entry text) {fuel : Nat} (enough : text.toList.length ≤ fuel)
    {tail rest : List Char} {entries : List (String × Value)}
    (behind : (tail = '\x7d' :: rest ∧ entries = []) ∨
      ∃ more, tail = ',' :: more ∧ readEntries fuel (Json.skipSpace more) = .ok (entries, rest)) :
    readEntries (fuel + 1) (text.toList ++ tail) = .ok (entry :: entries, rest) := by
  have ends : Ends tail := by
    rcases behind with ⟨rfl, _⟩ | ⟨more, rfl, _⟩
    · exact ends_cons (by decide) rest
    · exact ends_cons (by decide) more
  obtain ⟨inner, rfl, reads⟩ := reads
  obtain ⟨blanks, mark, blank⟩ := flat.keys
  simp only [String.toList_append, List.length_append] at enough
  have passed : ∀ c more, isSpace c = false → Json.skipSpace (c :: more) = c :: more :=
    fun c more solid => List.dropWhile_cons_of_neg (by simp [solid])
  simp only [String.toList_append, toList_stringText, mark, List.append_assoc, List.cons_append,
    List.nil_append]
  rw [readEntries]
  simp only [readString_escaped, ok_bind, passed ':' _ rfl, skipSpace_blanks blank,
    reads.begun.skipSpace, reads.back fuel tail (by omega) ends]
  rcases behind with ⟨rfl, rfl⟩ | ⟨more, rfl, others⟩
  · rw [passed '\x7d' rest rfl]
    rfl
  · simp only [passed ',' more rfl, others]
    rfl

theorem readEntries_join (flat : style.Flat) {entries : List (String × Value)} {texts : List String}
    (each : List.Forall₂ (ReadsEntry style) entries texts) (some_entry : entries ≠ []) {fuel : Nat}
    (enough : (Text.join style.itemMark texts).toList.length < fuel) (rest : List Char) :
    readEntries fuel ((Text.join style.itemMark texts).toList ++ '\x7d' :: rest) =
      .ok (entries, rest) := by
  induction each generalizing fuel with
  | nil => exact absurd rfl some_entry
  | @cons entry text entries texts reads others ih =>
    obtain ⟨fuel, rfl⟩ := Nat.exists_eq_add_one_of_ne_zero (Nat.ne_zero_of_lt enough)
    cases others with
    | nil =>
      rw [join_singleton] at enough ⊢
      exact readEntries_entry flat reads (by omega) (Or.inl ⟨rfl, rfl⟩)
    | @cons _ second _ texts next _ =>
      obtain ⟨blanks, mark, blank⟩ := flat.items
      rw [toList_join, mark] at enough ⊢
      simp only [List.length_append, List.length_cons] at enough
      have others := ih (by simp) (show _ < fuel by omega)
      simp only [List.append_assoc, List.cons_append]
      refine readEntries_entry flat reads (by omega) (Or.inr ⟨_, rfl, ?_⟩)
      rw [skipSpace_blanks blank, (next.begun.join _ _).skipSpace, others]

theorem reads_list (flat : style.Flat) {items : List Value} {texts : List String}
    (each : List.Forall₂ Reads items texts) (depth : Nat) :
    Reads (.list items) (enclose style depth "[" "]" texts) := by
  have text : (enclose style depth "[" "]" texts).toList =
      '[' :: ((Text.join style.itemMark texts).toList ++ [']']) := by
    rw [enclose_flat flat, String.toList_append, String.toList_append]
    rfl
  refine reads_of ⟨'[', _, text, rfl, by decide, by decide⟩ fun fuel rest enough _ => ?_
  rw [text] at enough ⊢
  simp only [List.length_cons, List.length_append] at enough
  rw [List.cons_append, List.append_assoc, List.singleton_append, readValue,
    readName?_none (by decide)]
  cases each with
  | nil => rfl
  | @cons item first items texts reads others =>
    -- the first item begins with no bracket, so the list is not taken for an empty one
    have back := readItems_join flat (.cons reads others) (by simp) (show _ < fuel by omega) rest
    have begun := reads.begun.join style.itemMark texts
    have passed := begun.skipSpace (']' :: rest)
    obtain ⟨c, more, chars, _, other, _⟩ := begun
    rw [chars, List.cons_append] at back passed
    simp only [chars, List.cons_append, passed]
    split
    · rename_i same
      cases same
      exact absurd rfl other
    · rw [back]
      rfl

/-- A mapping without a key that comes twice is read back if its entries are. -/
theorem reads_dict (flat : style.Flat) {entries : List (String × Value)} {texts : List String}
    (each : List.Forall₂ (ReadsEntry style) entries texts)
    (distinct : (entries.map (·.1)).Nodup) (depth : Nat) :
    Reads (.dict entries) (enclose style depth "\x7b" "\x7d" texts) := by
  have text : (enclose style depth "\x7b" "\x7d" texts).toList =
      '\x7b' :: ((Text.join style.itemMark texts).toList ++ ['\x7d']) := by
    rw [enclose_flat flat, String.toList_append, String.toList_append]
    rfl
  refine reads_of ⟨'\x7b', _, text, rfl, by decide, by decide⟩ fun fuel rest enough _ => ?_
  rw [text] at enough ⊢
  simp only [List.length_cons, List.length_append] at enough
  rw [List.cons_append, List.append_assoc, List.singleton_append, readValue,
    readName?_none (by decide)]
  cases each with
  | nil => rfl
  | @cons entry first entries texts reads others =>
    have back := readEntries_join flat (.cons reads others) (by simp) (show _ < fuel by omega) rest
    have begun := reads.begun.join style.itemMark texts
    have passed := begun.skipSpace ('\x7d' :: rest)
    obtain ⟨c, more, chars, _, _, other⟩ := begun
    rw [chars, List.cons_append] at back passed
    simp only [chars, List.cons_append, passed]
    split
    · rename_i same
      cases same
      exact absurd rfl other
    · rw [back, ok_bind, Mapping.ofPairs_eq distinct]
      rfl

/-! ## Written values -/

theorem writeInteger_short {n : Int} (short : withinDigitLimit n = true) :
    writeInteger n = .ok (toString n) := by
  have text : integerText? n = some (toString n) := if_pos short
  unfold writeInteger
  simp only [text]

theorem exists_written_plain {v : Value} (bare : v.Plain) (json : v.isJson = true) (depth : Nat) :
    ∃ text, write style depth v = .ok text ∧ Reads v text := by
  cases v with
  | null => exact ⟨"null", by rw [write], reads_null⟩
  | bool b => exact ⟨_, by rw [write], reads_bool b⟩
  | int n =>
    rw [Value.isJson] at json
    refine ⟨toString n, ?_, reads_int json⟩
    rw [write, writeInteger_short json]
  | str s => exact ⟨_, by rw [write], reads_str s⟩
  | list items => exact absurd rfl (bare.1 items)
  | dict entries => exact absurd rfl (bare.2 entries)
  | float _ => cases json
  | bytes _ => cases json
  | date _ => cases json
  | moment _ => cases json

/-- Every value of JSON is written as a text that is read as the value. -/
theorem exists_written (flat : style.Flat) {v : Value} (json : v.isJson = true) (depth : Nat) :
    ∃ text, write style depth v = .ok text ∧ Reads v text := by
  -- values, items and entries are written at once, each at a depth of its own
  have all : (∀ (v : Value) (depth : Nat), v.isJson = true →
        ∃ text, write style depth v = .ok text ∧ Reads v text) ∧
      (∀ (items : List Value) (depth : Nat), Value.areJson items = true →
        ∃ texts, writeItems style depth items = .ok texts ∧ List.Forall₂ Reads items texts) ∧
      ∀ (entries : List (String × Value)) (depth : Nat), Value.areJsonEntries entries = true →
        ∃ texts, writeEntries style depth entries = .ok texts ∧
          List.Forall₂ (ReadsEntry style) entries texts := by
    refine Value.nested_induction ?plain ?list ?dict ?items_nil ?items_cons ?entries_nil
      ?entries_cons
    case plain =>
      exact fun v bare depth json => exists_written_plain bare json depth
    case list =>
      intro items written depth json
      rw [Value.isJson] at json
      obtain ⟨texts, texts_ok, each⟩ := written (depth + 1) json
      refine ⟨_, ?_, reads_list flat each depth⟩
      rw [write, texts_ok]
      rfl
    case dict =>
      intro entries written depth json
      rw [Value.isJson, Bool.and_eq_true, decide_eq_true_eq] at json
      obtain ⟨texts, texts_ok, each⟩ := written (depth + 1) json.2
      refine ⟨_, ?_, reads_dict flat each json.1 depth⟩
      rw [write, texts_ok]
      rfl
    case items_nil => exact fun _ _ => ⟨[], rfl, .nil⟩
    case items_cons =>
      intro v rest written _ others depth json
      rw [Value.areJson, Bool.and_eq_true] at json
      obtain ⟨text, text_ok, reads⟩ := written depth json.1
      obtain ⟨texts, texts_ok, each⟩ := others depth json.2
      refine ⟨text :: texts, ?_, .cons reads each⟩
      rw [writeItems, text_ok, ok_bind, texts_ok]
      rfl
    case entries_nil => exact fun _ _ => ⟨[], rfl, .nil⟩
    case entries_cons =>
      intro key v rest written others depth json
      rw [Value.areJsonEntries, Bool.and_eq_true] at json
      obtain ⟨text, text_ok, reads⟩ := written depth json.1
      obtain ⟨texts, texts_ok, each⟩ := others depth json.2
      refine ⟨(stringText key ++ style.keyMark ++ text) :: texts, ?_, .cons ⟨text, rfl, reads⟩ each⟩
      rw [writeEntries, text_ok, ok_bind, texts_ok]
      rfl
  exact all.1 v depth json

/-- JSON in one line reads back as the value that was written. -/
theorem read_write (flat : style.Flat) {v : Value} (json : v.isJson = true) :
    ∃ text, write style 0 v = .ok text ∧ read text = .ok v := by
  obtain ⟨text, written, reads⟩ := exists_written flat json 0
  refine ⟨text, written, ?_⟩
  have back := reads.back (2 * text.toList.length + 1) [] (by omega) ends_nil
  have passed := reads.begun.skipSpace []
  rw [List.append_nil] at back passed
  simp only [read, passed, back, ok_bind]
  rfl

end

end Json

end Curator
