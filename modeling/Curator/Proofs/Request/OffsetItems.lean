import Curator.Proofs.Text.Integers
import Curator.Request.Variable
/-!
# Items of offsets

An item of an offset as it is written: an amount in decimal digits, with a sign or without one, and a
unit in letters of either case, with an s behind it or without one.  Where blanks stand is of no
account.  A written item is read as it was written, and what is read from plain characters is a written
item; it comes to its amount of units, unless the amount is too long to be read or the span too far.
-/

set_option autoImplicit false

namespace Curator

open Outcome Number Calendar

/-! ## Characters -/

namespace Text

variable {c letter : Char} {text blanks : List Char}

theorem toLower_of_big (big : 128 ≤ c.toNat) : c.toLower = c := by
  unfold Char.toLower
  split
  · rename_i capital
    have small : c.toNat ≤ 90 := capital.2
    omega
  · rfl

theorem isDigit_ascii (ascii : c.toNat < 128) : isDigit c = c.isDigit := by
  unfold isDigit digitValue?
  simp only [if_pos ascii]
  cases c.isDigit <;> rfl

theorem toLower_of_small (small : c.toNat < 65) : c.toLower = c := by
  unfold Char.toLower
  split
  · rename_i capital
    have big : 65 ≤ c.toNat := capital.1
    omega
  · rfl

/-- What becomes a small letter is neither a blank nor a digit. -/
theorem solid_of_toLower (small : 65 ≤ c.toLower.toNat) (ascii : c.toNat < 128) :
    isBlank c = false ∧ isDigit c = false := by
  have big : 65 ≤ c.toNat := by
    by_contra below
    rw [toLower_of_small (by omega)] at small
    omega
  refine ⟨?_, ?_⟩
  · simp only [isBlank, Bool.or_eq_false_iff, Bool.and_eq_false_iff, decide_eq_false_iff_not,
      beq_eq_false_iff_ne]
    omega
  · rw [isDigit_ascii ascii]
    by_contra digit
    have range : 48 ≤ c.toNat ∧ c.toNat ≤ 57 := by
      simpa [Char.isDigit, UInt32.le_iff_toNat_le] using digit
    omega

/-- Of plain characters only the letter itself is taken for a letter, in either case. -/
theorem matchesLetter_iff (ascii : c.toNat < 128) :
    matchesLetter letter c = true ↔ c.toLower = letter := by
  have longS : (c.toNat == 0x17F) = false := by rw [beq_eq_false_iff_ne]; omega
  have kelvin : (c.toNat == 0x212A) = false := by rw [beq_eq_false_iff_ne]; omega
  have dotted : (c.toNat == 0x130) = false := by rw [beq_eq_false_iff_ne]; omega
  have dotless : (c.toNat == 0x131) = false := by rw [beq_eq_false_iff_ne]; omega
  simp [matchesLetter, longS, kelvin, dotted, dotless]

/-- What becomes a plain letter is one. -/
theorem ascii_of_toLower (small : c.toLower.toNat < 128) : c.toNat < 128 := by
  by_contra big
  rw [toLower_of_big (by omega)] at small
  omega

/-- The letters that are an s in one case or the other. -/
theorem eq_of_toLower_s (lower : c.toLower = 's') : c = 's' ∨ c = 'S' := by
  unfold Char.toLower at lower
  split at lower
  · have code : c.val + 32 = 83 + 32 := congrArg Char.val lower
    exact Or.inr (Char.ext ((UInt32.add_left_inj 32).mp code))
  · exact Or.inl lower

theorem of_matchesLetter_s (letter : matchesLetter 's' c = true) :
    isBlank c = false ∧ c ≠ '-' ∧ c ≠ '+' ∧ c.isDigit = false := by
  have cases : c.toLower = 's' ∨ c = Char.ofNat 0x17F := by
    simp only [matchesLetter, Bool.or_eq_true, Bool.and_eq_true, beq_iff_eq] at letter
    rcases letter with ((same | ⟨_, long⟩) | ⟨other, _⟩) | ⟨other, _⟩
    · exact Or.inl same
    · exact Or.inr (by rw [← long, Char.ofNat_toNat])
    · cases other
    · cases other
  rcases cases with lower | rfl
  · rcases eq_of_toLower_s lower with rfl | rfl
    all_goals decide
  · decide

theorem not_isDigit_of_isBlank (blank : isBlank c = true) : isDigit c = false := by
  by_contra digit
  rw [Bool.not_eq_false] at digit
  rw [(digit_solid digit).1] at blank
  cases blank

theorem dropWhile_blanks {inClass : Char → Bool} (all : ∀ c ∈ blanks, inClass c = true)
    (solid : ∀ c ∈ text.head?, inClass c = false) : (blanks ++ text).dropWhile inClass = text := by
  rw [List.dropWhile_append_of_pos all, dropWhile_solid solid]

theorem takeWhile_run {inClass : Char → Bool} (all : ∀ c ∈ blanks, inClass c = true)
    (solid : ∀ c ∈ text.head?, inClass c = false) : (blanks ++ text).takeWhile inClass = blanks := by
  rw [List.takeWhile_append_of_pos all]
  cases text with
  | nil => simp
  | cons c rest => rw [List.takeWhile_cons_of_neg (by simp [solid c rfl]), List.append_nil]

end Text

/-! ## Units -/

section

variable {name letters text : List Char} {unit : TimeUnit}

theorem afterName?_spelled (spelled : name.map Char.toLower = letters) (text : List Char) :
    afterName? letters (name ++ text) = some (name, text) := by
  induction name generalizing letters with
  | nil =>
    cases spelled
    rfl
  | cons c rest ih =>
    cases spelled
    have letter : matchesLetter c.toLower c = true := by simp [matchesLetter]
    rw [List.map_cons, List.cons_append, afterName?, if_pos letter, ih rfl]
    rfl

/-- The name of a unit as it is found, letter by letter. -/
theorem afterName?_parts {written rest : List Char}
    (found : afterName? letters text = some (written, rest)) : text = written ++ rest ∧
      List.Forall₂ (fun letter c => matchesLetter letter c = true) letters written := by
  induction letters generalizing text written with
  | nil =>
    cases found
    exact ⟨rfl, .nil⟩
  | cons letter more ih =>
    cases text with
    | nil => cases found
    | cons c others =>
      rw [afterName?] at found
      split at found
      · rename_i same
        obtain ⟨⟨front, back⟩, later, made⟩ := Option.map_eq_some_iff.mp found
        cases made
        obtain ⟨rfl, each⟩ := ih later
        exact ⟨rfl, .cons same each⟩
      · cases found

theorem spelled_of_letters (ascii : ∀ c ∈ name, c.toNat < 128)
    (each : List.Forall₂ (fun letter c => matchesLetter letter c = true) letters name) :
    name.map Char.toLower = letters := by
  induction each with
  | nil => rfl
  | cons same _ ih =>
    obtain ⟨first, others⟩ := List.forall_mem_cons.mp ascii
    rw [List.map_cons, (Text.matchesLetter_iff first).mp same, ih others]

theorem afterName?_cons_of_ne {letter c : Char} {more : List Char}
    (other : matchesLetter letter c = false) : afterName? (letter :: more) (c :: text) = none := by
  rw [afterName?, if_neg (by simp [other])]

theorem letters_of_unit (known : unit ∈ timeUnits) : unit.name.toList ≠ [] ∧
    ∀ letter ∈ unit.name.toList, 65 ≤ letter.toNat ∧ letter.toNat < 128 := by
  have all : ∀ unit ∈ timeUnits, unit.name.toList ≠ [] ∧
      unit.name.toList.all (fun letter => 65 ≤ letter.toNat ∧ letter.toNat < 128) = true := by decide
  obtain ⟨some_letter, letters⟩ := all unit known
  exact ⟨some_letter, fun letter member =>
    of_decide_eq_true (List.all_eq_true.mp letters letter member)⟩

/-- The name of a unit is written in letters. -/
theorem letters_of_spelled (known : unit ∈ timeUnits)
    (spelled : name.map Char.toLower = unit.name.toList) : name ≠ [] ∧
      ∀ c ∈ name, 65 ≤ c.toLower.toNat ∧ c.toNat < 128 := by
  obtain ⟨some_letter, letters⟩ := letters_of_unit known
  refine ⟨?_, fun c member => ?_⟩
  · rintro rfl
    exact some_letter spelled.symm
  · have inside : c.toLower ∈ unit.name.toList := spelled ▸ List.mem_map_of_mem member
    obtain ⟨big, small⟩ := letters c.toLower inside
    exact ⟨big, Text.ascii_of_toLower small⟩

/-- The units begin with different letters, so the name of one does not begin like another. -/
theorem unitAt?_spelled (known : unit ∈ timeUnits)
    (spelled : name.map Char.toLower = unit.name.toList) (text : List Char) :
    unitAt? (name ++ text) = some (name, text) := by
  have own := afterName?_spelled spelled text
  have others : ∀ other ∈ timeUnits, afterName? other.name.toList (name ++ text) = none ∨
      afterName? other.name.toList (name ++ text) = some (name, text) := by
    intro other listed
    obtain ⟨some_letter, letters⟩ := letters_of_spelled known spelled
    obtain ⟨c, rest, rfl⟩ := List.exists_cons_of_ne_nil some_letter
    obtain ⟨letter, more, initial⟩ := List.exists_cons_of_ne_nil (letters_of_unit listed).1
    by_cases same : c.toLower = letter
    · have firsts : ∀ a ∈ timeUnits, ∀ b ∈ timeUnits,
          a.name.toList.head? = b.name.toList.head? → a.name = b.name := by decide
      have name := firsts other listed unit known (by rw [initial, ← spelled, same.symm]; rfl)
      rw [name]
      exact Or.inr own
    · left
      rw [initial, List.cons_append, afterName?_cons_of_ne]
      rw [← Bool.not_eq_true, Text.matchesLetter_iff (letters c List.mem_cons_self).2]
      exact same
  unfold unitAt?
  cases found : timeUnits.findSome? fun unit => afterName? unit.name.toList (name ++ text) with
  | none =>
    rw [List.findSome?_eq_none_iff.mp found unit known] at own
    cases own
  | some read =>
    obtain ⟨other, listed, reads⟩ := List.exists_of_findSome?_eq_some found
    rcases others other listed with nothing | same
    · rw [nothing] at reads
      cases reads
    · exact reads.symm.trans same

end

/-! ## Written items -/

/-- An item of an offset as it is written. -/
structure WrittenItem where
  sign : List Char
  digits : List Char
  gap : List Char
  unit : TimeUnit
  /-- The unit as it is written. -/
  name : List Char
  plural : List Char
  isSign : IsSign sign
  some_digit : digits ≠ []
  decimal : ∀ c ∈ digits, c.isDigit = true
  spaced : ∀ c ∈ gap, Text.isBlank c = true
  known : unit ∈ timeUnits
  spelled : name.map Char.toLower = unit.name.toList
  isPlural : plural = [] ∨ plural = ['s'] ∨ plural = ['S']

namespace WrittenItem

variable (w : WrittenItem)

def chars : List Char := w.sign ++ w.digits ++ w.gap ++ w.name ++ w.plural

def amount : Int :=
  if w.sign = ['-'] then -(Nat.ofDigitChars 10 w.digits 0 : Int) else Nat.ofDigitChars 10 w.digits 0

/-- The microseconds that an item stands for. -/
def micros : Int := w.amount * w.unit.micros

/-- What an item is read as, with the text that is left behind it. -/
def readAs (rest : List Char) : OffsetItem := ⟨w.sign ++ w.digits, w.name, rest⟩

/-- Whether a text behind an item does not go on with it: a letter s behind a unit is its own. -/
def Parted (text : List Char) : Prop :=
  w.plural = [] → ∀ c ∈ text.head?, matchesLetter 's' c = false

variable {blanks text : List Char}

theorem digit_of_mem {c : Char} (member : c ∈ w.digits) : Text.isDigit c = true :=
  isDigit_decimal (w.decimal c member)

variable {w}

/-- An item begins with a sign or a digit. -/
theorem head_chars (text : List Char) :
    ∀ c ∈ (w.chars ++ text).head?, c = '-' ∨ c = '+' ∨ c.isDigit = true := by
  obtain ⟨digit, others, more⟩ := List.exists_cons_of_ne_nil w.some_digit
  intro c member
  rcases w.isSign with sign | sign | sign
  · simp only [chars, sign, more, List.nil_append, List.cons_append, List.head?_cons,
      Option.mem_some_iff] at member
    exact Or.inr (Or.inr (member ▸ w.decimal digit (more ▸ List.mem_cons_self)))
  · simp only [chars, sign, List.cons_append, List.head?_cons, Option.mem_some_iff] at member
    exact Or.inl member.symm
  · simp only [chars, sign, List.cons_append, List.head?_cons, Option.mem_some_iff] at member
    exact Or.inr (Or.inl member.symm)

theorem solid_chars (text : List Char) :
    ∀ c ∈ (w.chars ++ text).head?, Text.isBlank c = false := by
  intro c member
  rcases head_chars text c member with rfl | rfl | decimal
  · rfl
  · rfl
  · exact (Text.digit_solid (isDigit_decimal decimal)).1

/-- An item ends in a letter. -/
theorem exists_last : ∃ front c, w.chars = front ++ [c] ∧ Text.isBlank c = false := by
  obtain ⟨some_letter, letters⟩ := letters_of_spelled w.known w.spelled
  rcases w.isPlural with plural | plural | plural
  · obtain ⟨big, ascii⟩ := letters _ (List.getLast_mem some_letter)
    refine ⟨w.sign ++ w.digits ++ w.gap ++ w.name.dropLast, w.name.getLast some_letter, ?_,
      (Text.solid_of_toLower big ascii).1⟩
    rw [chars, plural, List.append_nil, List.append_assoc _ w.name.dropLast,
      List.dropLast_append_getLast]
  · exact ⟨_, 's', by rw [chars, plural], by decide⟩
  · exact ⟨_, 'S', by rw [chars, plural], by decide⟩

theorem afterSign (text : List Char) :
    ((w.sign ++ (w.digits ++ text)).take 1).filter (fun c => c == '+' || c == '-') = w.sign := by
  obtain ⟨digit, others, more⟩ := List.exists_cons_of_ne_nil w.some_digit
  rcases w.isSign with sign | sign | sign
  · have first : Text.isDigit digit = true := w.digit_of_mem (more ▸ List.mem_cons_self)
    obtain ⟨_, minus, plus⟩ := Text.digit_solid first
    simp [sign, more, minus, plus]
  · simp [sign]
  · simp [sign]

/-- A written item is read as it was written. -/
theorem offsetItem?_chars (lead : ∀ c ∈ blanks, Text.isBlank c = true) (parted : w.Parted text) :
    offsetItem? (blanks ++ (w.chars ++ text)) = some (w.readAs (text.dropWhile Text.isBlank)) := by
  obtain ⟨some_letter, letters⟩ := letters_of_spelled w.known w.spelled
  obtain ⟨c, more, named⟩ := List.exists_cons_of_ne_nil some_letter
  obtain ⟨big, ascii⟩ := letters c (named ▸ List.mem_cons_self)
  obtain ⟨letterSolid, letterNoDigit⟩ := Text.solid_of_toLower big ascii
  have nameHead : ∀ d ∈ (w.name ++ (w.plural ++ text)).head?, Text.isBlank d = false := by
    intro d member
    rw [named] at member
    cases member
    exact letterSolid
  have gapHead : ∀ d ∈ (w.gap ++ (w.name ++ (w.plural ++ text))).head?, Text.isDigit d = false := by
    intro d member
    cases gap : w.gap with
    | nil =>
      rw [gap, named] at member
      cases member
      exact letterNoDigit
    | cons blank others =>
      rw [gap] at member
      cases member
      exact Text.not_isDigit_of_isBlank (w.spaced _ (gap ▸ List.mem_cons_self))
  have whole : w.chars ++ text =
      w.sign ++ (w.digits ++ (w.gap ++ (w.name ++ (w.plural ++ text)))) := by
    simp [chars, List.append_assoc]
  have digits : ((w.digits ++ (w.gap ++ (w.name ++ (w.plural ++ text))))).takeWhile Text.isDigit =
      w.digits := Text.takeWhile_run (fun d => w.digit_of_mem) gapHead
  have unit := unitAt?_spelled w.known w.spelled (w.plural ++ text)
  have some_digit : w.digits.isEmpty = false := by simpa using w.some_digit
  unfold offsetItem?
  rw [Text.dropWhile_blanks lead (solid_chars text), whole]
  simp only [afterSign, List.drop_left, digits, some_digit, Bool.false_eq_true, if_false,
    Text.dropWhile_blanks w.spaced nameHead, unit, Option.bind_eq_bind, Option.bind_some]
  rcases w.isPlural with plural | plural | plural
  · rw [plural, List.nil_append]
    cases text with
    | nil => rfl
    | cons d rest =>
      simp only [parted plural d rfl, Bool.false_eq_true, if_false]
      rfl
  · rw [plural]
    rfl
  · rw [plural]
    rfl

theorem signOf_written : signOf (w.sign ++ w.digits) = (decide (w.sign = ['-']), w.digits) := by
  rcases w.isSign with sign | sign | sign
  · rw [sign]
    exact signOf_unsigned fun c => w.digit_of_mem
  · rw [sign]
    rfl
  · rw [sign]
    rfl

theorem integerOfText_written :
    (w.digits.length ≤ digitLimit → integerOfText (String.ofList (w.sign ++ w.digits)) = .ok w.amount) ∧
    (digitLimit < w.digits.length →
      ∃ words, integerOfText (String.ofList (w.sign ++ w.digits)) = .error (.fault .value words)) := by
  have form : (String.ofList (w.sign ++ w.digits)).toList = w.sign ++ w.digits ++ [] := by simp
  have run := digitRun_decimal w.decimal false 0 0
  rw [Nat.zero_add] at run
  have reads := readInteger_eq form w.isSign w.some_digit (fun c => w.digit_of_mem) nofun
    signOf_written run
  constructor
  · intro short
    rw [integerOfText, reads, if_neg (Nat.not_lt.mpr short)]
    simp [amount]
  · intro long
    rw [integerOfText, reads, if_pos long]
    exact ⟨_, rfl⟩

theorem lower_name : Text.lower (String.ofList w.name) = w.unit.name := by
  have ascii := fun c member => ((letters_of_spelled w.known w.spelled).2 c member).2
  rw [Text.lower, Text.lowerChars, String.toList_ofList, Text.lowerFrom_eq [] ascii, w.spelled,
    String.ofList_toList]

theorem find?_unit {unit : TimeUnit} (known : unit ∈ timeUnits) :
    (timeUnits.find? fun other => other.name == unit.name) = some unit := by
  simp only [timeUnits, List.mem_cons, List.not_mem_nil, or_false] at known
  rcases known with rfl | rfl | rfl | rfl | rfl
  all_goals rfl

/-- What an item comes to: its amount of units, if the amount can be read. -/
theorem span_readAs (rest : List Char) :
    (w.digits.length ≤ digitLimit → (w.readAs rest).span = checkSpan w.micros) ∧
    (digitLimit < w.digits.length → ∃ words, (w.readAs rest).span = .error (.fault .value words)) := by
  obtain ⟨reads, fails⟩ := w.integerOfText_written
  constructor
  · intro short
    unfold OffsetItem.span
    simp only [readAs, reads short, ok_bind, lower_name, find?_unit w.known]
    rfl
  · intro long
    obtain ⟨words, fails⟩ := fails long
    refine ⟨words, ?_⟩
    unfold OffsetItem.span
    simp only [readAs, fails]
    rfl

end WrittenItem

/-! ## Items that are read -/

/-- The parts of a text that an item is read from. -/
structure ItemParts (text : List Char) (item : OffsetItem) where
  blanks : List Char
  sign : List Char
  digits : List Char
  gap : List Char
  name : List Char
  plural : List Char
  behind : List Char
  unit : TimeUnit
  whole : text = blanks ++ (sign ++ (digits ++ (gap ++ (name ++ (plural ++ behind)))))
  lead : ∀ c ∈ blanks, Text.isBlank c = true
  isSign : IsSign sign
  some_digit : digits ≠ []
  decimal : ∀ c ∈ digits, Text.isDigit c = true
  spaced : ∀ c ∈ gap, Text.isBlank c = true
  known : unit ∈ timeUnits
  letters : List.Forall₂ (fun letter c => matchesLetter letter c = true) unit.name.toList name
  isPlural : (plural = [] ∧ ∀ c ∈ behind.head?, matchesLetter 's' c = false) ∨
    ∃ c, plural = [c] ∧ matchesLetter 's' c = true
  made : item = ⟨sign ++ digits, name, behind.dropWhile Text.isBlank⟩

/-- The sign at the beginning of a text, if there is one. -/
theorem exists_sign (text : List Char) : ∃ sign after, IsSign sign ∧ text = sign ++ after ∧
    ((sign ++ after).take 1).filter (fun c => c == '+' || c == '-') = sign := by
  cases text with
  | nil => exact ⟨[], [], Or.inl rfl, rfl, rfl⟩
  | cons c rest =>
    by_cases plus : c = '+'
    · subst plus
      exact ⟨['+'], rest, Or.inr (Or.inr rfl), rfl, rfl⟩
    · by_cases minus : c = '-'
      · subst minus
        exact ⟨['-'], rest, Or.inr (Or.inl rfl), rfl, rfl⟩
      · exact ⟨[], c :: rest, Or.inl rfl, rfl, by simp [plus, minus]⟩

theorem takeWhile_append_drop {inClass : Char → Bool} (text : List Char) :
    text.takeWhile inClass ++ text.drop (text.takeWhile inClass).length = text :=
  List.prefix_iff_eq_append.mp (List.takeWhile_prefix inClass)

theorem offsetItem?_parts {text : List Char} {item : OffsetItem}
    (found : offsetItem? text = some item) : Nonempty (ItemParts text item) := by
  have run : ∀ {inClass : Char → Bool} (text : List Char),
      ∀ c ∈ text.takeWhile inClass, inClass c = true :=
    fun text => List.all_eq_true.mp List.all_takeWhile
  obtain ⟨sign, after, isSign, opened, signed⟩ := exists_sign (text.dropWhile Text.isBlank)
  unfold offsetItem? at found
  simp only [Option.bind_eq_bind, opened, signed, List.drop_left] at found
  split at found
  · cases found
  · rename_i some_digit
    obtain ⟨⟨name, rest⟩, units, made⟩ := Option.bind_eq_some_iff.mp found
    obtain ⟨unit, known, named⟩ := List.exists_of_findSome?_eq_some units
    obtain ⟨middle, letters⟩ := afterName?_parts named
    have front : text = text.takeWhile Text.isBlank ++ (sign ++ (after.takeWhile Text.isDigit ++
        ((after.drop (after.takeWhile Text.isDigit).length).takeWhile Text.isBlank ++
          (name ++ rest)))) := by
      rw [← middle, List.takeWhile_append_dropWhile, takeWhile_append_drop, ← opened,
        List.takeWhile_append_dropWhile]
    have given : after.takeWhile Text.isDigit ≠ [] := fun empty => some_digit (by rw [empty]; rfl)
    -- what is behind the name may begin with an s of its own
    by_cases plural : ∃ c more, rest = c :: more ∧ matchesLetter 's' c = true
    · obtain ⟨c, more, rfl, letter⟩ := plural
      simp only [if_pos letter] at made
      cases made
      exact ⟨⟨_, sign, _, _, name, [c], more, unit, front, run _, isSign, given, run _, run _, known,
        letters, Or.inr ⟨c, rfl, letter⟩, rfl⟩⟩
    · have bare : ∀ c ∈ rest.head?, matchesLetter 's' c = false := by
        intro c member
        obtain ⟨more, rfl⟩ := List.head?_eq_some_iff.mp member
        rw [← Bool.not_eq_true]
        exact fun letter => plural ⟨c, more, rfl, letter⟩
      refine ⟨⟨_, sign, _, _, name, [], rest, unit, front, run _, isSign, given, run _, run _, known,
        letters, Or.inl ⟨rfl, bare⟩, ?_⟩⟩
      cases rest with
      | nil =>
        cases made
        rfl
      | cons c more =>
        simp only [bare c rfl, Bool.false_eq_true, if_false] at made
        cases made
        rfl

/-- An item takes at least one character. -/
theorem offsetItem?_shorter {text : List Char} {item : OffsetItem}
    (found : offsetItem? text = some item) : item.rest.length < text.length := by
  obtain ⟨parts⟩ := offsetItem?_parts found
  have digits : 0 < parts.digits.length := List.length_pos_iff.mpr parts.some_digit
  have rest : item.rest.length ≤ parts.behind.length := by
    rw [congrArg OffsetItem.rest parts.made]
    exact (List.dropWhile_sublist _).length_le
  have whole := congrArg List.length parts.whole
  simp only [List.length_append] at whole
  omega

/-- In plain characters, what is read is a written item. -/
theorem exists_written {text : List Char} {item : OffsetItem} (ascii : ∀ c ∈ text, c.toNat < 128)
    (found : offsetItem? text = some item) : ∃ (w : WrittenItem) (blanks behind : List Char),
      text = blanks ++ (w.chars ++ behind) ∧ (∀ c ∈ blanks, Text.isBlank c = true) ∧
      w.Parted behind ∧ item = w.readAs (behind.dropWhile Text.isBlank) := by
  obtain ⟨⟨blanks, sign, digits, gap, name, plural, behind, unit, rfl, lead, isSign, some_digit,
    digital, spaced, known, letters, isPlural, rfl⟩⟩ := offsetItem?_parts found
  simp only [List.forall_mem_append] at ascii
  obtain ⟨_, _, asciiDigits, _, asciiName, asciiPlural, _⟩ := ascii
  have decimal : ∀ c ∈ digits, c.isDigit = true := fun c member => by
    rw [← Text.isDigit_ascii (asciiDigits c member)]
    exact digital c member
  have plurals : plural = [] ∨ plural = ['s'] ∨ plural = ['S'] := by
    rcases isPlural with ⟨bare, _⟩ | ⟨c, rfl, letter⟩
    · exact Or.inl bare
    · have plain := asciiPlural c List.mem_cons_self
      rcases Text.eq_of_toLower_s ((Text.matchesLetter_iff plain).mp letter) with rfl | rfl
      · exact Or.inr (Or.inl rfl)
      · exact Or.inr (Or.inr rfl)
  refine ⟨⟨sign, digits, gap, unit, name, plural, isSign, some_digit, decimal, spaced, known,
    spelled_of_letters asciiName letters, plurals⟩, blanks, behind, ?_, lead, fun bare => ?_, rfl⟩
  · simp [WrittenItem.chars, List.append_assoc]
  · rcases isPlural with ⟨_, parted⟩ | ⟨c, rfl, _⟩
    · exact parted
    · cases bare

end Curator
