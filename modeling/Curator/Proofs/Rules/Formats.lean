import Curator.Proofs.Outcome
import Curator.Proofs.Text.Integers
import Curator.Proofs.Text.Names
import Curator.Rules.Check
import Mathlib.Algebra.GroupWithZero.Nat
import Mathlib.Data.List.DropRight
/-!
# Formats of texts

Which texts the formats of fields let through: identifiers, dates, mail addresses and links, each with or
without one line end behind it.  Digits of dates may be of any script, and the character behind the
first of a host may be anything but a line end.
-/

set_option autoImplicit false

namespace Curator

/-! ## Line ends -/

/-- A text of its own or with one line end behind it. -/
def Text.Ended (text whole : List Char) : Prop :=
  whole = text ∨ whole = text ++ ['\n']

namespace Text

variable {text whole : List Char}

theorem ended_withoutFinalNewline (whole : List Char) : Ended (withoutFinalNewline whole) whole := by
  obtain ⟨ending, parts, line⟩ := withoutFinalNewline_parts whole
  rcases line with rfl | rfl
  · exact .inl (by rwa [List.append_nil] at parts)
  · exact .inr parts

theorem Ended.withoutFinalNewline_eq (ended : Ended text whole) (clear : '\n' ∉ text) :
    withoutFinalNewline whole = text := by
  rcases ended with rfl | rfl
  · exact Text.withoutFinalNewline_eq clear
  · simp [withoutFinalNewline]

/-- A format of texts without line ends lets one line end through behind them. -/
theorem withoutFinalNewline_iff {format : List Char → Prop}
    (clear : ∀ text, format text → '\n' ∉ text) :
    format (withoutFinalNewline whole) ↔ ∃ text, Ended text whole ∧ format text := by
  constructor
  · exact fun held => ⟨_, ended_withoutFinalNewline whole, held⟩
  · rintro ⟨text, ended, held⟩
    rwa [ended.withoutFinalNewline_eq (clear text held)]

end Text

namespace Format

open Text Outcome

/-! ## Groups between dashes -/

/-- Groups of given lengths of characters of one class, with dashes between them. -/
def Grouped (lengths : List Nat) (inClass : Char → Bool) (text : List Char) : Prop :=
  ∃ groups : List (List Char), groups.map List.length = lengths ∧
    (∀ group ∈ groups, ∀ c ∈ group, inClass c = true) ∧ text = ['-'].intercalate groups

section

variable {lengths : List Nat} {inClass : Char → Bool} {text : List Char}

theorem grouped_iff (some_group : lengths ≠ []) (apart : inClass '-' = false) :
    ((pieces ['-'] text).map List.length == lengths &&
      (pieces ['-'] text).all fun group => group.all inClass) = true ↔
      Grouped lengths inClass text := by
  simp only [pieces_singleton, Bool.and_eq_true, beq_iff_eq, List.all_eq_true]
  constructor
  · rintro ⟨counts, all⟩
    exact ⟨_, counts, all, (List.intercalate_splitOn _).symm⟩
  · rintro ⟨groups, counts, all, rfl⟩
    have split : (['-'].intercalate groups).splitOn '-' = groups := by
      refine List.splitOn_intercalate _ (fun group member dash => ?_) ?_
      · rw [all group member _ dash] at apart
        cases apart
      · rintro rfl
        exact some_group counts.symm
    rw [split]
    exact ⟨counts, all⟩

theorem mem_intercalate {mark c : Char} {groups : List (List Char)}
    (member : c ∈ [mark].intercalate groups) : c = mark ∨ ∃ group ∈ groups, c ∈ group := by
  induction groups with
  | nil => cases member
  | cons first others ih =>
    cases others with
    | nil => exact .inr ⟨first, List.mem_cons_self, by simpa using member⟩
    | cons second rest =>
      rw [List.intercalate_cons_cons, List.mem_append, List.mem_append, List.mem_singleton] at member
      rcases member with (inside | dash) | later
      · exact .inr ⟨first, List.mem_cons_self, inside⟩
      · exact .inl dash
      · refine (ih later).imp_right fun ⟨group, among, inside⟩ => ?_
        exact ⟨group, List.mem_cons_of_mem first among, inside⟩

theorem length_intercalate {mark : Char} (groups : List (List Char)) :
    ([mark].intercalate groups).length = (groups.map List.length).sum + (groups.length - 1) := by
  induction groups with
  | nil => rfl
  | cons first others ih =>
    cases others with
    | nil => simp
    | cons second rest =>
      rw [List.intercalate_cons_cons, List.length_append, List.length_append, ih]
      simp only [List.map_cons, List.sum_cons, List.length_cons, List.length_nil]
      omega

theorem Grouped.mem (grouped : Grouped lengths inClass text) {c : Char} (member : c ∈ text) :
    c = '-' ∨ inClass c = true := by
  obtain ⟨groups, _, all, rfl⟩ := grouped
  exact (mem_intercalate member).imp_right fun ⟨group, among, inside⟩ => all group among c inside

theorem Grouped.length (grouped : Grouped lengths inClass text) :
    text.length = lengths.sum + (lengths.length - 1) := by
  obtain ⟨groups, rfl, _, rfl⟩ := grouped
  rw [length_intercalate, List.length_map]

end

/-! ## Identifiers and dates -/

/-- The digits of identifiers, in either case. -/
def isHexDigit (c : Char) : Bool :=
  decide ('0' ≤ c ∧ c ≤ '9') || decide ('a' ≤ c ∧ c ≤ 'f') || decide ('A' ≤ c ∧ c ≤ 'F')

theorem isSome_hexValue? (c : Char) : (hexValue? c).isSome = isHexDigit c := by
  unfold hexValue? isHexDigit
  split
  · rename_i digit
    rw [decide_eq_true digit]
    rfl
  · rename_i digit
    rw [decide_eq_false digit]
    split
    · rename_i small
      rw [decide_eq_true small]
      rfl
    · rename_i small
      rw [decide_eq_false small]
      split
      · rename_i capital
        exact (decide_eq_true capital).symm
      · rename_i capital
        exact (decide_eq_false capital).symm

theorem isUuid_iff (whole : List Char) : isUuid whole = true ↔
    ∃ text, Ended text whole ∧ Grouped [8, 4, 4, 4, 12] isHexDigit text := by
  have clear : ∀ text, Grouped [8, 4, 4, 4, 12] isHexDigit text → '\n' ∉ text := by
    intro text grouped newline
    rcases grouped.mem newline with dash | digit
    · cases dash
    · cases digit
  rw [← withoutFinalNewline_iff clear, ← grouped_iff (by decide) (by decide)]
  simp only [isUuid, uuidGroups, isSome_hexValue?]

theorem isDate_iff (whole : List Char) : isDate whole = true ↔
    ∃ text, Ended text whole ∧ Grouped [4, 2, 2] isDigit text := by
  have clear : ∀ text, Grouped [4, 2, 2] isDigit text → '\n' ∉ text := by
    intro text grouped newline
    rcases grouped.mem newline with dash | digit
    · cases dash
    · revert digit
      decide
  rw [← withoutFinalNewline_iff clear, ← grouped_iff (by decide) (by decide)]
  rfl

/-! ## Mail addresses -/

/-- A mail address: something in front of an at sign, and behind it a host with at least two letters
after its last dot. -/
def Address (text : List Char) : Prop :=
  ∃ mailbox host top, text = mailbox ++ '@' :: (host ++ '.' :: top) ∧
    mailbox ≠ [] ∧ (∀ c ∈ mailbox, isLocalChar c = true) ∧
    host ≠ [] ∧ (∀ c ∈ host, isDomainChar c = true) ∧
    2 ≤ top.length ∧ ∀ c ∈ top, c.isAlpha = true

theorem rtakeWhile_dot {host top : List Char} (clear : '.' ∉ top) :
    (host ++ '.' :: top).rtakeWhile (· != '.') = top := by
  have letters : ∀ c ∈ top.reverse, (c != '.') = true := by
    intro c member
    rw [bne_iff_ne]
    rintro rfl
    exact clear (List.mem_reverse.mp member)
  rw [List.rtakeWhile, List.reverse_append, List.reverse_cons, List.append_assoc,
    List.takeWhile_append_of_pos letters]
  simp

/-- A text with a dot in it is what stands before its last dot, the dot, and what stands behind it. -/
theorem exists_last_dot {text : List Char}
    (some_dot : (text.rtakeWhile (· != '.')).length < text.length) :
    ∃ host, text = host ++ '.' :: text.rtakeWhile (· != '.') := by
  have parts := List.rdropWhile_append_rtakeWhile (p := (· != '.')) (l := text)
  have some_front : text.rdropWhile (· != '.') ≠ [] := by
    intro none
    rw [none, List.nil_append] at parts
    rw [parts] at some_dot
    exact Nat.lt_irrefl _ some_dot
  have dot := List.rdropWhile_last_not (· != '.') text some_front
  simp only [bne_iff_ne, ne_eq, not_not] at dot
  have front := List.dropLast_append_getLast some_front
  rw [dot] at front
  refine ⟨(text.rdropWhile (· != '.')).dropLast, ?_⟩
  rw [← List.singleton_append, ← List.append_assoc, front, parts]

theorem isDomain_iff (text : List Char) : isDomain text = true ↔ ∃ host top,
    text = host ++ '.' :: top ∧ host ≠ [] ∧ (∀ c ∈ host, isDomainChar c = true) ∧
      2 ≤ top.length ∧ ∀ c ∈ top, c.isAlpha = true := by
  have taken : ∀ host top : List Char,
      (host ++ '.' :: top).take ((host ++ '.' :: top).length - top.length - 1) = host := by
    intro host top
    have count : (host ++ '.' :: top).length - top.length - 1 = host.length := by
      simp
      omega
    rw [count, List.take_left]
  have spelled : isDomain text = true ↔ (text.rtakeWhile (· != '.')).length < text.length ∧
      2 ≤ (text.rtakeWhile (· != '.')).length ∧ (∀ c ∈ text.rtakeWhile (· != '.'), c.isAlpha = true) ∧
      text.take (text.length - (text.rtakeWhile (· != '.')).length - 1) ≠ [] ∧
      ∀ c ∈ text.take (text.length - (text.rtakeWhile (· != '.')).length - 1),
        isDomainChar c = true := by
    unfold isDomain List.rtakeWhile
    simp only [Bool.and_eq_true, decide_eq_true_eq, List.all_eq_true, Bool.not_eq_true',
      List.isEmpty_eq_false_iff, and_assoc]
  rw [spelled]
  constructor
  · rintro ⟨some_dot, two, letters, some_host, chars⟩
    obtain ⟨host, whole⟩ := exists_last_dot some_dot
    generalize text.rtakeWhile (· != '.') = top at whole two letters some_host chars
    subst whole
    rw [taken] at some_host chars
    exact ⟨host, top, rfl, some_host, chars, two, letters⟩
  · rintro ⟨host, top, rfl, some_host, chars, two, letters⟩
    have clear : '.' ∉ top := fun dot => by cases letters _ dot
    rw [rtakeWhile_dot clear, taken]
    exact ⟨by simp; omega, two, letters, some_host, chars⟩

theorem isEmail_iff (whole : List Char) : isEmail whole = true ↔
    ∃ text, Ended text whole ∧ Address text := by
  have clear : ∀ text, Address text → '\n' ∉ text := by
    rintro text ⟨mailbox, host, top, rfl, _, locals, _, domains, _, letters⟩ newline
    simp only [List.mem_append, List.mem_cons, Char.reduceEq, false_or] at newline
    rcases newline with inside | inside | inside
    · cases locals _ inside
    · cases domains _ inside
    · cases letters _ inside
  rw [← withoutFinalNewline_iff clear]
  simp only [isEmail]
  generalize withoutFinalNewline whole = text
  constructor
  · intro held
    split at held
    · rename_i mailbox domain found
      simp only [Bool.and_eq_true, Bool.not_eq_true', List.isEmpty_eq_false_iff,
        List.all_eq_true] at held
      obtain ⟨⟨some_mailbox, locals⟩, domain_ok⟩ := held
      obtain ⟨host, top, rfl, rest⟩ := (isDomain_iff domain).mp domain_ok
      exact ⟨mailbox, host, top, append_of_cut? found, some_mailbox, locals, rest⟩
    · cases held
  · rintro ⟨mailbox, host, top, rfl, some_mailbox, locals, rest⟩
    have apart : '@' ∉ mailbox := fun sign => by cases locals _ sign
    rw [cut?_append apart]
    simp only [Bool.and_eq_true, Bool.not_eq_true', List.isEmpty_eq_false_iff, List.all_eq_true]
    exact ⟨⟨some_mailbox, locals⟩, (isDomain_iff _).mpr ⟨host, top, rfl, rest⟩⟩

/-! ## Links -/

/-- The mark `http://` or `https://` in any case. -/
def Scheme (scheme : List Char) : Prop :=
  ∃ letters, scheme = letters ++ [':', '/', '/'] ∧
    (List.Forall₂ (fun letter c => isLetter letter c = true) ['h', 't', 't', 'p'] letters ∨
      List.Forall₂ (fun letter c => isLetter letter c = true) ['h', 't', 't', 'p', 's'] letters)

theorem afterScheme?_iff {text rest : List Char} : afterScheme? text = some rest ↔
    ∃ scheme, Scheme scheme ∧ text = scheme ++ rest := by
  constructor
  · intro found
    unfold afterScheme? at found
    split at found
    · rename_i h t t' p behind
      split at found
      · rename_i http
        simp only [Bool.and_eq_true, and_assoc] at http
        obtain ⟨h_ok, t_ok, t_ok', p_ok⟩ := http
        split at found
        · cases found
          exact ⟨_, ⟨[h, t, t', p], rfl, .inl (by simp [h_ok, t_ok, t_ok', p_ok])⟩, rfl⟩
        · rename_i more s _
          split at found
          · rename_i s_ok
            cases found
            exact ⟨_, ⟨[h, t, t', p, s], rfl, .inr (by simp [h_ok, t_ok, t_ok', p_ok, s_ok])⟩, rfl⟩
          · cases found
        · cases found
      · cases found
    · cases found
  · rintro ⟨scheme, ⟨letters, rfl, http | https⟩, rfl⟩
    · simp only [List.forall₂_cons_left_iff, List.forall₂_nil_left_iff] at http
      obtain ⟨h, _, h_ok, ⟨t, _, t_ok, ⟨t', _, t_ok', ⟨p, _, p_ok, rfl, rfl⟩, rfl⟩, rfl⟩, rfl⟩ := http
      unfold afterScheme?
      simp only [List.cons_append, List.nil_append, h_ok, t_ok, t_ok', p_ok, Bool.and_self, if_true]
    · simp only [List.forall₂_cons_left_iff, List.forall₂_nil_left_iff] at https
      obtain ⟨h, _, h_ok, ⟨t, _, t_ok, ⟨t', _, t_ok', ⟨p, _, p_ok, ⟨s, _, s_ok, rfl, rfl⟩, rfl⟩, rfl⟩,
        rfl⟩, rfl⟩ := https
      unfold afterScheme?
      simp only [List.cons_append, List.nil_append, h_ok, t_ok, t_ok', p_ok, s_ok, Bool.and_self,
        if_true]

/-- A link: its scheme, a character of a host, any character but a line end, and no blanks behind. -/
def Link (text : List Char) : Prop :=
  ∃ scheme first second rest, text = scheme ++ first :: second :: rest ∧ Scheme scheme ∧
    isBlank first = false ∧ first ∉ hostBreakers ∧ second ≠ '\n' ∧ ∀ c ∈ rest, isBlank c = false

/-! ### Blanks -/

theorem isAlphanum_iff (c : Char) : c.isAlphanum = true ↔ (65 ≤ c.toNat ∧ c.toNat ≤ 90 ∨
    97 ≤ c.toNat ∧ c.toNat ≤ 122) ∨ 48 ≤ c.toNat ∧ c.toNat ≤ 57 := by
  have spelled : c.isAlphanum = (decide ('A'.val ≤ c.val ∧ c.val ≤ 'Z'.val) ||
      decide ('a'.val ≤ c.val) && decide (c.val ≤ 'z'.val) ||
      decide ('0'.val ≤ c.val) && decide (c.val ≤ '9'.val)) := rfl
  rw [spelled]
  simp only [Bool.or_eq_true, Bool.and_eq_true, decide_eq_true_eq, UInt32.le_iff_toNat_le]
  rfl

theorem isBlank_alphanum {c : Char} (plain : c.isAlphanum = true) : isBlank c = false := by
  rw [isAlphanum_iff] at plain
  simp only [isBlank, Bool.or_eq_false_iff, Bool.and_eq_false_iff, decide_eq_false_iff_not,
    beq_eq_false_iff_ne]
  omega

theorem isBlank_letter {letter c : Char} (plain : letter.isAlphanum = true)
    (held : isLetter letter c = true) : isBlank c = false := by
  simp only [isLetter, Bool.or_eq_true, Bool.and_eq_true, beq_iff_eq] at held
  rcases held with small | ⟨_, rfl⟩
  · refine isBlank_alphanum ?_
    unfold Char.toLower at small
    split at small
    · rename_i capital
      exact (isAlphanum_iff c).mpr (.inl (.inl capital))
    · rwa [small]
  · decide

theorem Scheme.solid {scheme : List Char} (held : Scheme scheme) {c : Char} (member : c ∈ scheme) :
    isBlank c = false := by
  have plain : ∀ letter ∈ ['h', 't', 't', 'p', 's'], letter.isAlphanum = true :=
    List.all_eq_true.mp rfl
  obtain ⟨letters, rfl, held⟩ := held
  rcases List.mem_append.mp member with inside | mark
  · rcases held with http | https
    · obtain ⟨letter, among, same⟩ := mem_of_forall₂ http inside
      exact isBlank_letter (plain letter (List.mem_append_left ['s'] among)) same
    · obtain ⟨letter, among, same⟩ := mem_of_forall₂ https inside
      exact isBlank_letter (plain letter among) same
  · simp only [List.mem_cons, List.not_mem_nil, or_false] at mark
    rcases mark with rfl | rfl | rfl <;> rfl

theorem isUrl_iff (whole : List Char) : isUrl whole = true ↔ ∃ text, Ended text whole ∧ Link text := by
  have clear : ∀ text, Link text → '\n' ∉ text := by
    rintro text ⟨scheme, first, second, rest, rfl, mark, first_solid, _, second_ok, solid⟩ newline
    simp only [List.mem_append, List.mem_cons] at newline
    rcases newline with inside | rfl | rfl | inside
    · cases mark.solid inside
    · cases first_solid
    · exact second_ok rfl
    · cases solid _ inside
  rw [← withoutFinalNewline_iff clear]
  unfold isUrl
  generalize withoutFinalNewline whole = text
  constructor
  · intro held
    split at held
    · rename_i first second rest found
      obtain ⟨scheme, mark, rfl⟩ := afterScheme?_iff.mp found
      simp only [Bool.and_eq_true, Bool.not_eq_true', List.all_eq_true, bne_iff_ne,
        List.contains_eq_mem, decide_eq_false_iff_not, and_assoc] at held
      exact ⟨scheme, first, second, rest, rfl, mark, held⟩
    · cases held
  · rintro ⟨scheme, first, second, rest, rfl, mark, held⟩
    rw [afterScheme?_iff.mpr ⟨scheme, mark, rfl⟩]
    simp only [Bool.and_eq_true, Bool.not_eq_true', List.all_eq_true, bne_iff_ne,
      List.contains_eq_mem, decide_eq_false_iff_not, and_assoc]
    exact held

/-! ### The other formats -/

theorem Grouped.solid {lengths : List Nat} {inClass : Char → Bool} {text : List Char}
    (grouped : Grouped lengths inClass text) (class_solid : ∀ c, inClass c = true → isBlank c = false) :
    ∀ c ∈ text, isBlank c = false := by
  intro c member
  rcases grouped.mem member with rfl | inside
  · rfl
  · exact class_solid c inside

theorem isBlank_hexDigit {c : Char} (digit : isHexDigit c = true) : isBlank c = false := by
  simp only [isHexDigit, Bool.or_eq_true, decide_eq_true_eq] at digit
  refine isBlank_alphanum ((isAlphanum_iff c).mpr ?_)
  rcases digit with (⟨low, high⟩ | ⟨low, high⟩) | ⟨low, high⟩
  · exact .inr ⟨low, high⟩
  · exact .inl (.inr ⟨low, Nat.le_trans high (by decide)⟩)
  · exact .inl (.inl ⟨low, Nat.le_trans high (by decide)⟩)

theorem isBlank_domainChar {c : Char} (plain : isDomainChar c = true) : isBlank c = false := by
  simp only [isDomainChar, Bool.or_eq_true, beq_iff_eq] at plain
  rcases plain with (alphanum | rfl) | rfl
  · exact isBlank_alphanum alphanum
  · rfl
  · rfl

theorem isBlank_localChar {c : Char} (plain : isLocalChar c = true) : isBlank c = false := by
  simp only [isLocalChar, Bool.or_eq_true, beq_iff_eq] at plain
  rcases plain with ((((alphanum | rfl) | rfl) | rfl) | rfl) | rfl
  · exact isBlank_alphanum alphanum
  all_goals rfl

theorem Address.solid {text : List Char} (address : Address text) : ∀ c ∈ text, isBlank c = false := by
  obtain ⟨mailbox, host, top, rfl, _, locals, _, domains, _, letters⟩ := address
  intro c member
  simp only [List.mem_append, List.mem_cons] at member
  rcases member with inside | rfl | inside | rfl | inside
  · exact isBlank_localChar (locals c inside)
  · rfl
  · exact isBlank_domainChar (domains c inside)
  · rfl
  · exact isBlank_alphanum (by rw [Char.isAlphanum, letters c inside, Bool.true_or])

end Format

/-- A text without blanks, unless it is a link, whose second character behind the scheme may be one. -/
def Format.Unbroken (type : FieldType) (text : List Char) : Prop :=
  (∀ c ∈ text, Text.isBlank c = false) ∨ type = .url ∧ ∃ scheme first second rest,
    text = scheme ++ first :: second :: rest ∧ Scheme scheme ∧
      ∀ c ∈ scheme ++ first :: rest, Text.isBlank c = false

/-! ## What fields accept -/

/-- A field of which only the type is demanded accepts a text. -/
def FieldType.Accepts (type : FieldType) (s : String) : Prop :=
  (FieldRules.ofType type).check (.str s) = .ok []

theorem FieldType.accepts_iff (type : FieldType) (s : String) :
    type.Accepts s ↔ type.admits (.str s) = true := by
  have unbounded : (FieldRules.ofType type).numericBreaks (.str s) = .ok [] := by
    unfold FieldRules.numericBreaks
    split <;> rfl
  have checked : (FieldRules.ofType type).check (.str s) =
      if !type.admits (.str s) then .ok [.wrongType type] else
        (FieldRules.ofType type).numericBreaks (.str s) >>= fun numeric => .ok (numeric ++ [] ++ []) := rfl
  rw [Accepts, checked, unbounded]
  cases type.admits (.str s) with
  | false => exact ⟨nofun, nofun⟩
  | true => exact ⟨fun _ => rfl, fun _ => rfl⟩

open Text Format in
/-- The formats of identifiers, dates, mail addresses and links accept just the texts of their format, with
or without one line end behind them, and only in a link can a blank stand before that. -/
theorem FieldRules.formats_accept (s : String) :
    (FieldType.uuid.Accepts s ↔ ∃ text, Ended text s.toList ∧ text.length = 36 ∧
      Grouped [8, 4, 4, 4, 12] isHexDigit text) ∧
    (FieldType.date.Accepts s ↔ ∃ text, Ended text s.toList ∧ text.length = 10 ∧
      Grouped [4, 2, 2] isDigit text) ∧
    (FieldType.email.Accepts s ↔ ∃ text, Ended text s.toList ∧ Address text) ∧
    (FieldType.url.Accepts s ↔ ∃ text, Ended text s.toList ∧ Link text) ∧
    ∀ type ∈ [FieldType.uuid, .date, .email, .url], type.Accepts s →
      ∃ text, Ended text s.toList ∧ Unbroken type text := by
  have uuid : FieldType.uuid.Accepts s ↔ ∃ text, Ended text s.toList ∧ text.length = 36 ∧
      Grouped [8, 4, 4, 4, 12] isHexDigit text := by
    refine ((FieldType.accepts_iff .uuid s).trans (isUuid_iff s.toList)).trans
      (exists_congr fun text => ?_)
    exact and_congr_right fun _ => ⟨fun grouped => ⟨grouped.length, grouped⟩, And.right⟩
  have date : FieldType.date.Accepts s ↔ ∃ text, Ended text s.toList ∧ text.length = 10 ∧
      Grouped [4, 2, 2] isDigit text := by
    refine ((FieldType.accepts_iff .date s).trans (isDate_iff s.toList)).trans
      (exists_congr fun text => ?_)
    exact and_congr_right fun _ => ⟨fun grouped => ⟨grouped.length, grouped⟩, And.right⟩
  have email : FieldType.email.Accepts s ↔ ∃ text, Ended text s.toList ∧ Address text :=
    (FieldType.accepts_iff .email s).trans (isEmail_iff s.toList)
  have url : FieldType.url.Accepts s ↔ ∃ text, Ended text s.toList ∧ Link text :=
    (FieldType.accepts_iff .url s).trans (isUrl_iff s.toList)
  refine ⟨uuid, date, email, url, fun type member accepts => ?_⟩
  simp only [List.mem_cons, List.not_mem_nil, or_false] at member
  rcases member with rfl | rfl | rfl | rfl
  · obtain ⟨text, ended, _, grouped⟩ := uuid.mp accepts
    exact ⟨text, ended, .inl (grouped.solid fun c => isBlank_hexDigit)⟩
  · obtain ⟨text, ended, _, grouped⟩ := date.mp accepts
    exact ⟨text, ended, .inl (grouped.solid fun c digit => (digit_solid digit).1)⟩
  · obtain ⟨text, ended, address⟩ := email.mp accepts
    exact ⟨text, ended, .inl address.solid⟩
  · obtain ⟨text, ended, scheme, first, second, rest, whole, mark, first_solid, _, _, solid⟩ := url.mp accepts
    refine ⟨text, ended, .inr ⟨rfl, scheme, first, second, rest, whole, mark, fun c member => ?_⟩⟩
    rcases List.mem_append.mp member with inside | behind
    · exact mark.solid inside
    · rcases List.mem_cons.mp behind with rfl | inside
      · exact first_solid
      · exact solid c inside

namespace Sample

open Text Format

/-- A mail address is accepted for what it is, and has no blanks. -/
theorem address_accepted : (∃ text, Ended text "ann@shop.example".toList ∧ Address text) ∧
    ∃ text, Ended text "ann@shop.example".toList ∧ Unbroken .email text := by
  obtain ⟨_, _, email, _, blanks⟩ := FieldRules.formats_accept "ann@shop.example"
  exact ⟨email.mp rfl, blanks .email (by decide) rfl⟩

/-- An identifier with a line end behind it, a date with digits of another script and a link with a blank
in it are accepted. -/
theorem lined_identifier_accepted :
    (FieldType.uuid.Accepts "00000000-0000-0000-0000-000000000000\n" ∧
      "00000000-0000-0000-0000-000000000000\n".length = 37) ∧
    (FieldType.date.Accepts "٢٠٢٤-01-01" ∧ '٢'.isDigit = false) ∧
    (FieldType.url.Accepts "http://a b" ∧ isBlank ' ' = true) :=
  ⟨⟨rfl, rfl⟩, ⟨rfl, rfl⟩, rfl, rfl⟩

end Sample

end Curator
