import Curator.Proofs.Json.ReadBack
import Curator.Proofs.Rules.Formats
import Curator.Transform.Basic
/-!
# Identifiers that are stored as bytes

Sixteen bytes are shown as thirty-two small hexadecimal digits in five groups, and a text of such groups,
with digits of either case, is stored as the bytes that its digits spell.  So bytes that are shown are
stored as they were, and a text that is stored is shown in small letters.  With a line end behind it,
which the format lets through, a text is not stored at all.
-/

set_option autoImplicit false

namespace Curator

open Format

namespace Text

/-! ## Hexadecimal digits -/

/-- The number that hexadecimal digits denote. -/
def hexNumber (text : List Char) : Nat :=
  text.foldl (fun n c => n * 16 + (anyHexValue? c).getD 0) 0

section

variable {c : Char} {text : List Char}

theorem toNat_lt_of_isHexDigit (digit : isHexDigit c = true) : c.toNat < 128 := by
  simp only [isHexDigit, Bool.or_eq_true, decide_eq_true_eq, Char.le_def, UInt32.le_iff_toNat_le]
    at digit
  have code : c.toNat = c.val.toNat := rfl
  have ends : '9'.val.toNat = 57 ∧ 'f'.val.toNat = 102 ∧ 'F'.val.toNat = 70 := by decide
  omega

/-- A hexadecimal digit has a value below 16, which is written as the small letter. -/
theorem value_of_isHexDigit (digit : isHexDigit c = true) :
    ∃ d < 16, anyHexValue? c = some d ∧ hexDigit d = c.toLower := by
  have all : ∀ n < 128, isHexDigit (Char.ofNat n) = true → ∃ d < 16,
      anyHexValue? (Char.ofNat n) = some d ∧ hexDigit d = (Char.ofNat n).toLower := by decide
  have known := all c.toNat (toNat_lt_of_isHexDigit digit)
  rw [Char.ofNat_toNat] at known
  exact known digit

theorem ne_of_isHexDigit {mark : Char} (digit : isHexDigit c = true)
    (other : isHexDigit mark = false) : c ≠ mark := by
  rintro rfl
  rw [other] at digit
  cases digit

theorem isHexDigit_hexDigit {d : Nat} (small : d < 16) :
    isHexDigit (hexDigit d) = true ∧ (hexDigit d).toLower = hexDigit d := by
  have all : ∀ d < 16, isHexDigit (hexDigit d) = true ∧ (hexDigit d).toLower = hexDigit d := by decide
  exact all d small

theorem hexDigits?_eq (digits : ∀ c ∈ text, isHexDigit c = true) (value : Nat) :
    hexDigits? true value text =
      some (text.foldl (fun n c => n * 16 + (anyHexValue? c).getD 0) value) := by
  induction text generalizing value with
  | nil => rfl
  | cons c rest ih =>
    obtain ⟨d, _, known, _⟩ := value_of_isHexDigit (digits c List.mem_cons_self)
    rw [hexDigits?, known]
    simp only [List.foldl_cons, known, Option.getD_some]
    exact ih (fun e member => digits e (List.mem_cons_of_mem c member)) _

/-- A number of hexadecimal digits, written with as many digits, is the digits as small letters. -/
theorem hexPadded_hexNumber (digits : ∀ c ∈ text, isHexDigit c = true) :
    hexPadded text.length (hexNumber text) = text.map Char.toLower := by
  induction text using List.reverseRecOn with
  | nil => rfl
  | append_singleton front c ih =>
    obtain ⟨d, small, known, written⟩ := value_of_isHexDigit (digits c (by simp))
    have value : hexNumber (front ++ [c]) = hexNumber front * 16 + d := by
      simp [hexNumber, known]
    have rest := ih (fun e member => digits e (List.mem_append_left [c] member))
    have front_value : (hexNumber front * 16 + d) / 16 = hexNumber front := by omega
    have last_value : (hexNumber front * 16 + d) % 16 = d := by omega
    rw [List.length_append, List.length_singleton, hexPadded, value, front_value, last_value, rest,
      written, List.map_append]
    rfl

theorem trim_eq_self {inClass : Char → Bool} (apart : ∀ c ∈ text, inClass c = false) :
    trim inClass text = text := by
  have kept : ∀ text : List Char, (∀ c ∈ text, inClass c = false) → text.dropWhile inClass = text :=
    fun text apart => dropWhile_solid fun c member => apart c (List.mem_of_mem_head? member)
  have kept_reverse := kept text.reverse (fun c member => apart c (List.mem_reverse.mp member))
  rw [trim, trimEnd, kept text apart, kept_reverse, List.reverse_reverse]

/-- Digits alone are read as the number they denote. -/
theorem readHex?_eq (some_digit : text ≠ []) (digits : ∀ c ∈ text, isHexDigit c = true) :
    readHex? text = some (hexNumber text) := by
  have blanks : trim isNumberBlank text = text := by
    apply trim_eq_self
    intro c member
    rw [isNumberBlank, isBlank_hexDigit (digits c member), Bool.false_and]
  obtain ⟨c, rest, rfl⟩ := List.exists_cons_of_ne_nil some_digit
  have unsigned : c ≠ '+' := ne_of_isHexDigit (digits c List.mem_cons_self) rfl
  have read : hexDigits? false 0 (c :: rest) = some (hexNumber (c :: rest)) := by
    obtain ⟨d, _, known, _⟩ := value_of_isHexDigit (digits c List.mem_cons_self)
    have others := hexDigits?_eq (fun e member => digits e (List.mem_cons_of_mem c member)) (0 * 16 + d)
    rw [hexDigits?, known]
    simp only [others, hexNumber, List.foldl_cons, known, Option.getD_some]
  unfold readHex?
  simp only [blanks, List.head?_cons, Option.some.injEq, unsigned, if_false]
  split
  · rename_i mark more same
    cases same
    have second := digits mark (by simp)
    have unmarked : ¬ (mark = 'x' ∨ mark = 'X') := by
      rintro (rfl | rfl)
      · cases second
      · cases second
    rw [if_neg unmarked]
    exact read
  · exact read

end

/-! ## Bytes -/

theorem length_bytesOfNat (count n : Nat) : (bytesOfNat count n).length = count := by
  induction count generalizing n with
  | zero => rfl
  | succ count ih => simp [bytesOfNat, ih]

theorem hexOfByte_eq (b : UInt8) :
    hexOfByte b = [hexDigit (b.toNat / 16 % 16), hexDigit (b.toNat % 16)] := rfl

/-- The bytes of a number spell its digits. -/
theorem flatMap_bytesOfNat (count n : Nat) :
    (bytesOfNat count n).flatMap hexOfByte = hexPadded (2 * count) n := by
  induction count generalizing n with
  | zero => rfl
  | succ count ih =>
    have byte : (UInt8.ofNat (n % 256)).toNat = n % 256 :=
      UInt8.toNat_ofNat_of_lt (Nat.mod_lt n (by decide))
    have parts : n / 16 / 16 = n / 256 ∧ n % 256 / 16 % 16 = n / 16 % 16 ∧ n % 256 % 16 = n % 16 := by
      omega
    have digits : hexPadded (2 * (count + 1)) n =
        hexPadded (2 * count) (n / 16 / 16) ++ [hexDigit (n / 16 % 16)] ++ [hexDigit (n % 16)] := rfl
    rw [bytesOfNat, List.flatMap_append, ih, digits, parts.1, List.append_assoc,
      List.flatMap_singleton, hexOfByte_eq, byte, parts.2.1, parts.2.2]
    rfl

theorem hexDigit_inj {d e : Nat} (small : d < 16) (small' : e < 16)
    (same : hexDigit d = hexDigit e) : d = e := by
  have value := Json.hexValue?_hexDigit small
  rw [same, Json.hexValue?_hexDigit small', Option.some.injEq] at value
  exact value.symm

theorem hexOfByte_inj {a b : UInt8} (same : hexOfByte a = hexOfByte b) : a = b := by
  rw [hexOfByte_eq, hexOfByte_eq, List.cons.injEq, List.cons.injEq] at same
  have high := hexDigit_inj (Nat.mod_lt _ (by decide)) (Nat.mod_lt _ (by decide)) same.1
  have low := hexDigit_inj (Nat.mod_lt _ (by decide)) (Nat.mod_lt _ (by decide)) same.2.1
  have small := a.toNat_lt
  have small' := b.toNat_lt
  apply UInt8.toNat_inj.mp
  omega

/-- Bytes are told apart by their digits. -/
theorem flatMap_hexOfByte_inj {data other : List UInt8}
    (same : data.flatMap hexOfByte = other.flatMap hexOfByte) : data = other := by
  induction data generalizing other with
  | nil =>
    cases other with
    | nil => rfl
    | cons b rest => cases same
  | cons a data ih =>
    cases other with
    | nil => cases same
    | cons b rest =>
      rw [List.flatMap_cons, List.flatMap_cons] at same
      obtain ⟨first, others⟩ := List.append_inj same rfl
      rw [hexOfByte_inj first, ih others]

theorem flatMap_hexOfByte_digits (data : List UInt8) : ∀ c ∈ data.flatMap hexOfByte,
    isHexDigit c = true ∧ c.toLower = c := by
  intro c member
  obtain ⟨b, _, inside⟩ := List.mem_flatMap.mp member
  simp only [hexOfByte_eq, List.mem_cons, List.not_mem_nil, or_false] at inside
  rcases inside with rfl | rfl
  · exact isHexDigit_hexDigit (Nat.mod_lt _ (by decide))
  · exact isHexDigit_hexDigit (Nat.mod_lt _ (by decide))

theorem length_flatMap_hexOfByte (data : List UInt8) :
    (data.flatMap hexOfByte).length = 2 * data.length := by
  induction data with
  | nil => rfl
  | cons b rest ih =>
    rw [List.flatMap_cons, List.length_append, ih, List.length_cons, hexOfByte_eq]
    simp only [List.length_cons, List.length_nil]
    omega

/-! ## Groups -/

/-- Thirty-two digits with dashes between the groups. -/
def dashed (digits : List Char) : List Char :=
  digits.take 8 ++ ['-'] ++ (digits.drop 8).take 4 ++ ['-'] ++ (digits.drop 12).take 4 ++ ['-'] ++
    (digits.drop 16).take 4 ++ ['-'] ++ digits.drop 20

theorem uuidText_eq (data : List UInt8) :
    uuidText data = String.ofList (dashed (data.flatMap hexOfByte)) := rfl

theorem dashed_map (digits : List Char) :
    dashed (digits.map Char.toLower) = (dashed digits).map Char.toLower := by
  have dash : '-'.toLower = '-' := rfl
  simp only [dashed, List.map_append, List.map_take, List.map_drop, List.map_cons, List.map_nil, dash]

theorem dashed_grouped {digits : List Char} (all : ∀ c ∈ digits, isHexDigit c = true)
    (count : digits.length = 32) : Grouped uuidGroups isHexDigit (dashed digits) := by
  refine ⟨[digits.take 8, (digits.drop 8).take 4, (digits.drop 12).take 4, (digits.drop 16).take 4,
    digits.drop 20], ?_, ?_, ?_⟩
  · simp [uuidGroups, count]
  · intro group member c inside
    simp only [List.mem_cons, List.not_mem_nil, or_false] at member
    rcases member with rfl | rfl | rfl | rfl | rfl
    · exact all c (List.mem_of_mem_take inside)
    · exact all c (List.mem_of_mem_drop (List.mem_of_mem_take inside))
    · exact all c (List.mem_of_mem_drop (List.mem_of_mem_take inside))
    · exact all c (List.mem_of_mem_drop (List.mem_of_mem_take inside))
    · exact all c (List.mem_of_mem_drop inside)
  · simp [dashed, List.intercalate]

theorem filter_dashed {digits : List Char} (bare : ∀ c ∈ digits, c ≠ '-') :
    (dashed digits).filter (· != '-') = digits := by
  have kept : ∀ part : List Char, (∀ c ∈ part, c ∈ digits) → part.filter (· != '-') = part := by
    intro part inside
    apply List.filter_eq_self.mpr
    intro c member
    exact bne_iff_ne.mpr (bare c (inside c member))
  have first := kept (digits.take 8) fun c => List.mem_of_mem_take
  have middle : ∀ count, ((digits.drop count).take 4).filter (· != '-') = (digits.drop count).take 4 :=
    fun count => kept _ fun c member => List.mem_of_mem_drop (List.mem_of_mem_take member)
  have last := kept (digits.drop 20) fun c => List.mem_of_mem_drop
  have joined : ∀ {count next}, count + 4 = next →
      (digits.drop count).take 4 ++ digits.drop next = digits.drop count := by
    rintro count _ rfl
    rw [← List.drop_drop, List.take_append_drop]
  have dash : ['-'].filter (· != '-') = [] := rfl
  simp only [dashed, List.filter_append, first, middle, last, dash, List.nil_append, List.append_assoc]
  rw [joined (show 16 + 4 = 20 from rfl), joined (show 12 + 4 = 16 from rfl),
    joined (show 8 + 4 = 12 from rfl), List.take_append_drop]

/-- The digits of a text in groups, put in groups again. -/
theorem dashed_filter {text : List Char} (grouped : Grouped uuidGroups isHexDigit text) :
    dashed (text.filter (· != '-')) = text ∧ (text.filter (· != '-')).length = 32 := by
  obtain ⟨groups, counts, all, rfl⟩ := grouped
  have kept : ∀ group ∈ groups, group.filter (· != '-') = group := by
    intro group member
    apply List.filter_eq_self.mpr
    intro c inside
    exact bne_iff_ne.mpr (ne_of_isHexDigit (all group member c inside) rfl)
  rcases groups with _ | ⟨a, _ | ⟨b, _ | ⟨c, _ | ⟨d, _ | ⟨e, _ | ⟨f, rest⟩⟩⟩⟩⟩⟩
  all_goals simp only [List.map_cons, List.map_nil, uuidGroups, List.cons.injEq, reduceCtorEq,
    and_false, and_true] at counts
  obtain ⟨eight, four, four', four'', twelve⟩ := counts
  have bare : (['-'].intercalate [a, b, c, d, e]).filter (· != '-') = a ++ (b ++ (c ++ (d ++ e))) := by
    simp only [List.mem_cons, List.not_mem_nil, or_false, forall_eq_or_imp, forall_eq] at kept
    simp [List.intercalate, kept]
  rw [bare]
  constructor
  · simp [dashed, List.intercalate, List.drop_append, List.drop_eq_nil_of_le, eight, four, four',
      four'']
  · simp only [List.length_append]
    omega

/-! ## Reading and writing -/

section

variable {text : List Char} (clear : ∀ c ∈ text, c ≠ 'u' ∧ c ≠ '\x7b' ∧ c ≠ '\x7d')

include clear

/-- Nothing is taken away from a text without names and braces. -/
theorem bare_of_clear : trim (fun c => c == '\x7b' || c == '\x7d')
    (replaced "uuid:".toList [] (replaced "urn:".toList [] text)) = text := by
  have letter : 'u' ∉ text := fun member => (clear 'u' member).1 rfl
  have kept : ∀ others, replaced ('u' :: others) [] text = text := by
    intro others
    rw [replaced, pieces_of_not_mem letter]
    simp
  have urn : replaced "urn:".toList [] text = text := kept "rn:".toList
  have uuid : replaced "uuid:".toList [] text = text := kept "uid:".toList
  rw [urn, uuid]
  apply trim_eq_self
  intro c member
  simp [(clear c member).2]

/-- Of such a text the digits between the dashes are read, if there are thirty-two. -/
theorem readUuid_ok {n : Nat} (count : (text.filter (· != '-')).length = 32)
    (read : readHex? (text.filter (· != '-')) = some n) :
    readUuid (String.ofList text) = .ok (bytesOfNat 16 n) := by
  unfold readUuid
  simp only [String.toList_ofList, bare_of_clear clear, count, ne_eq, not_true_eq_false, if_false,
    read]

theorem readUuid_wrongLength (count : (text.filter (· != '-')).length ≠ 32) :
    readUuid (String.ofList text) = .error .wrongLength := by
  unfold readUuid
  simp only [String.toList_ofList, bare_of_clear clear, if_pos count]

end

variable {text : List Char}

theorem grouped_clear (grouped : Grouped uuidGroups isHexDigit text) :
    ∀ c ∈ text, c ≠ 'u' ∧ c ≠ '\x7b' ∧ c ≠ '\x7d' := by
  intro c member
  rcases grouped.mem member with rfl | digit
  · decide
  · exact ⟨ne_of_isHexDigit digit rfl, ne_of_isHexDigit digit rfl, ne_of_isHexDigit digit rfl⟩

theorem filter_digits (grouped : Grouped uuidGroups isHexDigit text) :
    ∀ c ∈ text.filter (· != '-'), isHexDigit c = true := by
  intro c member
  obtain ⟨inside, apart⟩ := List.mem_filter.mp member
  exact (grouped.mem inside).resolve_left (bne_iff_ne.mp apart)

/-- A text in groups is read as sixteen bytes that its digits spell. -/
theorem readUuid_grouped (grouped : Grouped uuidGroups isHexDigit text) :
    ∃ data, readUuid (String.ofList text) = .ok data ∧ data.length = 16 ∧
      data.flatMap hexOfByte = (text.filter (· != '-')).map Char.toLower := by
  have count := (dashed_filter grouped).2
  have digits := filter_digits grouped
  have some_digit : text.filter (· != '-') ≠ [] := by
    intro none
    rw [none] at count
    cases count
  have spelled := hexPadded_hexNumber digits
  rw [count] at spelled
  refine ⟨bytesOfNat 16 (hexNumber (text.filter (· != '-'))), ?_, length_bytesOfNat 16 _, ?_⟩
  · exact readUuid_ok (grouped_clear grouped) count (readHex?_eq some_digit digits)
  · rw [flatMap_bytesOfNat, spelled]

/-- A line end behind the text is one character too many. -/
theorem readUuid_lined (grouped : Grouped uuidGroups isHexDigit text) :
    readUuid (String.ofList (text ++ ['\n'])) = .error .wrongLength := by
  have clear : ∀ c ∈ text ++ ['\n'], c ≠ 'u' ∧ c ≠ '\x7b' ∧ c ≠ '\x7d' := by
    intro c member
    rcases List.mem_append.mp member with inside | line
    · exact grouped_clear grouped c inside
    · rw [List.mem_singleton.mp line]
      decide
  have count : ((text ++ ['\n']).filter (· != '-')).length = 33 := by
    rw [List.filter_append, List.length_append, (dashed_filter grouped).2]
    rfl
  apply readUuid_wrongLength clear
  omega

/-- Bytes that a text was read as are written as the text in small letters. -/
theorem uuidText_of_spelled {data : List UInt8} (grouped : Grouped uuidGroups isHexDigit text)
    (spelled : data.flatMap hexOfByte = (text.filter (· != '-')).map Char.toLower) :
    uuidText data = lower (String.ofList text) := by
  have ascii : ∀ c ∈ text, c.toNat < 128 := by
    intro c member
    rcases grouped.mem member with rfl | digit
    · decide
    · exact toNat_lt_of_isHexDigit digit
  rw [uuidText_eq, spelled, dashed_map, (dashed_filter grouped).1, lower, String.toList_ofList,
    lowerChars, lowerFrom_eq [] ascii]

/-- Sixteen bytes are written in groups and read as they were. -/
theorem readUuid_uuidText {data : List UInt8} (sixteen : data.length = 16) :
    Grouped uuidGroups isHexDigit (uuidText data).toList ∧ readUuid (uuidText data) = .ok data := by
  have digits := flatMap_hexOfByte_digits data
  have count : (data.flatMap hexOfByte).length = 32 := by
    rw [length_flatMap_hexOfByte]
    omega
  have grouped := dashed_grouped (fun c member => (digits c member).1) count
  have bare := filter_dashed fun c member => ne_of_isHexDigit (digits c member).1 rfl
  obtain ⟨other, read, _, spelled⟩ := readUuid_grouped grouped
  have small : (data.flatMap hexOfByte).map Char.toLower = data.flatMap hexOfByte :=
    (List.map_congr_left fun c member => (digits c member).2).trans (List.map_id' _)
  rw [bare, small] at spelled
  rw [uuidText_eq, String.toList_ofList, read, flatMap_hexOfByte_inj spelled]
  exact ⟨grouped, rfl⟩

end Text

theorem FieldType.accepts_uuid_iff (s : String) : FieldType.uuid.Accepts s ↔
    ∃ text, Text.Ended text s.toList ∧ Grouped uuidGroups isHexDigit text :=
  (FieldType.accepts_iff .uuid s).trans (isUuid_iff s.toList)

namespace Transform

open Text

/-- Sixteen bytes are shown as an identifier that the format accepts and stored as they were.  A text
that the format accepts is stored as sixteen bytes and shown in small letters, unless there is a line
end behind it: then it is refused. -/
theorem uuid_round_trip (data : List UInt8) (s : String) :
    (data.length = 16 → ∃ shown, apply .binToUuid (.bytes data) = .ok (.str shown) ∧
      FieldType.uuid.Accepts shown ∧ apply .uuidToBin (.str shown) = .ok (.bytes data)) ∧
    (FieldType.uuid.Accepts s →
      if s.toList.getLast? = some '\n' then apply .uuidToBin (.str s) =
        .error (.fault .value "badly formed hexadecimal UUID string")
      else ∃ stored : List UInt8, stored.length = 16 ∧
        apply .uuidToBin (.str s) = .ok (.bytes stored) ∧
        apply .binToUuid (.bytes stored) = .ok (.str (lower s))) := by
  constructor
  · intro sixteen
    obtain ⟨grouped, read⟩ := readUuid_uuidText sixteen
    refine ⟨uuidText data, ?_, ?_, ?_⟩
    · simp only [apply, if_pos sixteen]
    · exact (FieldType.accepts_uuid_iff _).mpr ⟨_, Or.inl rfl, grouped⟩
    · simp only [apply, uuidBytes, read]
  · intro accepted
    obtain ⟨text, ended, grouped⟩ := (FieldType.accepts_uuid_iff s).mp accepted
    rcases ended with whole | lined
    · have unlined : ¬ s.toList.getLast? = some '\n' := by
        intro last
        have member : '\n' ∈ text := whole ▸ List.mem_of_getLast? last
        rcases grouped.mem member with dash | digit
        · cases dash
        · cases digit
      have text_eq : s = String.ofList text := by rw [← whole, String.ofList_toList]
      obtain ⟨data, read, sixteen, spelled⟩ := readUuid_grouped grouped
      rw [if_neg unlined, text_eq]
      refine ⟨data, sixteen, ?_, ?_⟩
      · simp only [apply, uuidBytes, read]
      · simp only [apply, if_pos sixteen, uuidText_of_spelled grouped spelled]
    · have last : s.toList.getLast? = some '\n' := by
        rw [lined, List.getLast?_concat]
      have text_eq : s = String.ofList (text ++ ['\n']) := by rw [← lined, String.ofList_toList]
      rw [if_pos last, text_eq]
      simp only [apply, uuidBytes, readUuid_lined grouped]

namespace Sample

/-- Sixteen bytes, and an identifier with digits of either case. -/
theorem bytes_and_identifier_kept :
    let data := List.replicate 16 (255 : UInt8)
    let s := "ABCDEF00-1234-5678-9abc-def012345678"
    (data.length = 16 ∧ ∃ shown, apply .binToUuid (.bytes data) = .ok (.str shown) ∧
      FieldType.uuid.Accepts shown ∧ apply .uuidToBin (.str shown) = .ok (.bytes data)) ∧
    FieldType.uuid.Accepts s ∧ ∃ stored : List UInt8, stored.length = 16 ∧
      apply .uuidToBin (.str s) = .ok (.bytes stored) ∧
      apply .binToUuid (.bytes stored) = .ok (.str (lower s)) := by
  intro data s
  have accepted : FieldType.uuid.Accepts "ABCDEF00-1234-5678-9abc-def012345678" := rfl
  obtain ⟨kept, stored⟩ := uuid_round_trip data s
  have shown_again := stored accepted
  rw [if_neg (by decide)] at shown_again
  exact ⟨⟨rfl, kept rfl⟩, accepted, shown_again⟩

/-- An identifier with a line end behind it is accepted and cannot be stored. -/
theorem lined_identifier_refused :
    FieldType.uuid.Accepts "12345678-1234-5678-1234-567812345678\n" ∧
      apply .uuidToBin (.str "12345678-1234-5678-1234-567812345678\n") =
        .error (.fault .value "badly formed hexadecimal UUID string") :=
  ⟨rfl, rfl⟩

end Sample

end Transform

end Curator
