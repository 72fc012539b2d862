import Curator.Proofs.Json.ReadBack
import Curator.Proofs.Request.Reading
/-!
# Requests on one line

A request can be given as a structure or as it stands in an address line: names between commas,
numbers as digits, filters and aggregates as JSON.  Both are read as the same request, or refused for
the same reason.
-/

set_option autoImplicit false

namespace Curator

open Outcome Number

/-! ## Single values -/

namespace Spec

/-- What a key of a request is for. -/
inductive Use where
  | names
  | number
  | document
  | other
  deriving DecidableEq, Repr

/-- Lists of names, numbers, and filters and aggregates stand under keys of their own. -/
def useOf (key : String) : Use :=
  if key ∈ ["fields", "sort", "group"] then .names
  else if key ∈ ["limit", "page"] then .number
  else if key ∈ ["filter", "aggregate"] then .document
  else .other

/-- What a structured request may have under a key: names without commas, integers short enough to
be written, lists and mappings of JSON, and under any other key whatever there is. -/
inductive Structured (key : String) : Value → Prop where
  | names {names : List String} (use : useOf key = .names)
      (clear : ∀ name ∈ names, ',' ∉ name.toList) : Structured key (.list (names.map .str))
  | number {n : Int} (use : useOf key = .number) (short : withinDigitLimit n = true) :
      Structured key (.int n)
  | items {items : List Value} (use : useOf key = .document)
      (json : (Value.list items).isJson = true) : Structured key (.list items)
  | entries {entries : List (String × Value)} (use : useOf key = .document)
      (json : (Value.dict entries).isJson = true) : Structured key (.dict entries)
  | other (use : useOf key = .other) (v : Value) : Structured key v

/-- A value of a request as it stands in an address line: names between commas, an integer as its
digits, a filter or an aggregate as JSON. -/
def inlined (style : Json.Style) (key : String) (v : Value) : Except Json.WriteFault Value :=
  match useOf key, v with
  | .names, .list names => .ok (.str (Text.join "," (names.map Value.text)))
  | .number, .int n => .ok (.str (toString n))
  | .document, v => do
    let text ← Json.write style 0 v
    pure (.str text)
  | _, v => .ok v

/-- A request with each of its values as it stands in an address line. -/
def inline (style : Json.Style) (raw : Record) : Except Json.WriteFault Record :=
  raw.mapM fun (key, v) => do
    let w ← inlined style key v
    pure (key, w)

/-- Whatever reads a value for this use reads the other as it does the one. -/
def ReadAlike (v w : Value) : Use → Prop
  | .names => readNames w = readNames v
  | .number => w.isNull = v.isNull ∧ ∀ part, readInteger part w = readInteger part v
  | .document => readStructure w = readStructure v
  | .other => w = v

theorem ReadAlike.refl (v : Value) : ∀ use, ReadAlike v v use
  | .names => rfl
  | .number => ⟨rfl, fun _ => rfl⟩
  | .document => rfl
  | .other => rfl

theorem readNames_join {names : List String} (clear : ∀ name ∈ names, ',' ∉ name.toList) :
    readNames (.str (Text.join "," names)) = readNames (.list (names.map .str)) := by
  have texts : ∀ names : List String, (names.map Value.str).mapM Value.text? = .ok names := by
    intro names
    induction names with
    | nil => rfl
    | cons name rest ih =>
      rw [List.map_cons, List.mapM_cons, ih]
      rfl
  unfold readNames
  simp only [texts, ok_bind]
  cases names with
  | nil => rfl
  | cons name rest =>
    have parted : Text.split (Text.join "," (name :: rest)) "," = name :: rest :=
      Text.split_join ',' (by simp) clear
    rw [parted]

theorem strip_toString (n : Int) : Text.strip (toString n) = toString n := by
  have digits : ∀ c, c.isDigit = true → Text.isBlank c = false := by
    intro c digit
    have range : 48 ≤ c.toNat ∧ c.toNat ≤ 57 := by
      simpa [Char.isDigit, UInt32.le_iff_toNat_le] using digit
    simp [Text.isBlank]
    omega
  have all := Json.isDigit_toDigits n.natAbs
  have some_digit : Nat.toDigits 10 n.natAbs ≠ [] := Nat.toDigits_ne_nil
  have text := toString_eq n
  have last : ∃ c, (toString n).toList.getLast? = some c ∧ Text.isBlank c = false := by
    rw [text, List.getLast?_append, List.getLast?_eq_getLast_of_ne_nil some_digit, Option.some_or]
    exact ⟨_, rfl, digits _ (all _ (List.getLast_mem some_digit))⟩
  have first : ∃ c, (toString n).toList.head? = some c ∧ Text.isBlank c = false := by
    rw [text, writtenSign]
    split
    · exact ⟨'-', rfl, by decide⟩
    · rw [List.nil_append, List.head?_eq_some_head some_digit]
      exact ⟨_, rfl, digits _ (all _ (List.head_mem some_digit))⟩
  obtain ⟨a, ends, lastOut⟩ := last
  obtain ⟨b, starts, headOut⟩ := first
  have trimmed : Text.trim Text.isBlank ((toString n).toList ++ []) = (toString n).toList :=
    Text.trim_solid starts ends headOut lastOut fun _ member => absurd member List.not_mem_nil
  rw [List.append_nil] at trimmed
  rw [Text.strip, trimmed, String.ofList_toList]

theorem readInteger_inlined {n : Int} (short : withinDigitLimit n = true) (part : RequestPart) :
    readInteger part (.str (toString n)) = .ok n := by
  rw [readInteger, strip_toString, integerOfText, readInteger_toString short]

theorem readStructure_inlined {text : String} {v : Value} (read : Json.read text = .ok v)
    (nested : (∃ items, v = .list items) ∨ ∃ entries, v = .dict entries) :
    readStructure (.str text) = readStructure v := by
  rw [readStructure, read]
  rcases nested with ⟨items, rfl⟩ | ⟨entries, rfl⟩
  · rfl
  · rfl

/-- Every value of a structured request has a form for an address line, which is read as the value
is. -/
theorem exists_inlined {style : Json.Style} (flat : style.Flat) {key : String} {v : Value}
    (structured : Structured key v) :
    ∃ w, inlined style key v = .ok w ∧ ReadAlike v w (useOf key) := by
  -- filters and aggregates, whether lists or mappings
  have document : ∀ v : Value, useOf key = .document → v.isJson = true →
      ((∃ items, v = .list items) ∨ ∃ entries, v = .dict entries) →
      ∃ w, inlined style key v = .ok w ∧ ReadAlike v w (useOf key) := by
    intro v use json form
    obtain ⟨text, written, read⟩ := Json.read_write flat json
    refine ⟨.str text, ?_, ?_⟩
    · simp only [inlined, use, written]
      rfl
    · rw [use]
      exact readStructure_inlined read form
  cases structured with
  | @names names use clear =>
    refine ⟨.str (Text.join "," names), ?_, ?_⟩
    · have same : (names.map Value.str).map Value.text = names := by
        rw [List.map_map]
        exact List.map_id names
      simp only [inlined, use, same]
    · rw [use]
      exact readNames_join clear
  | @number n use short =>
    refine ⟨.str (toString n), ?_, ?_⟩
    · simp only [inlined, use]
    · rw [use]
      exact ⟨rfl, readInteger_inlined short⟩
  | @items items use json => exact document _ use json (Or.inl ⟨items, rfl⟩)
  | @entries entries use json => exact document _ use json (Or.inr ⟨entries, rfl⟩)
  | other use =>
    refine ⟨v, ?_, .refl v _⟩
    simp only [inlined, use]

/-! ## Whole requests -/

section

variable {raw text : Record}

/-- Requests with the same keys in the same order, whose values are read alike. -/
abbrev EntriesAlike (raw text : Record) : Prop :=
  List.Forall₂ (fun entry other => entry.1 = other.1 ∧ ReadAlike entry.2 other.2 (useOf entry.1))
    raw text

theorem exists_inline {style : Json.Style} (flat : style.Flat)
    (structured : ∀ entry ∈ raw, Structured entry.1 entry.2) :
    ∃ text, inline style raw = .ok text ∧ EntriesAlike raw text := by
  induction raw with
  | nil => exact ⟨[], rfl, .nil⟩
  | cons entry rest ih =>
    obtain ⟨key, v⟩ := entry
    obtain ⟨w, value_ok, alike⟩ := exists_inlined flat (structured (key, v) List.mem_cons_self)
    obtain ⟨text, text_ok, others⟩ := ih fun other member =>
      structured other (List.mem_cons_of_mem (key, v) member)
    refine ⟨(key, w) :: text, ?_, .cons ⟨rfl, alike⟩ others⟩
    unfold inline at text_ok ⊢
    rw [List.mapM_cons]
    simp only [value_ok, ok_bind, pure_bind, text_ok]
    rfl

theorem EntriesAlike.value? (alike : EntriesAlike raw text) (key : String) :
    (raw.value? key = none ∧ text.value? key = none) ∨
      ∃ v w, raw.value? key = some v ∧ text.value? key = some w ∧ ReadAlike v w (useOf key) := by
  induction alike with
  | nil => exact Or.inl ⟨rfl, rfl⟩
  | @cons entry other rest others same _ ih =>
    obtain ⟨k, v⟩ := entry
    obtain ⟨l, w⟩ := other
    obtain ⟨rfl, alike⟩ := same
    rw [Mapping.value?_cons, Mapping.value?_cons]
    by_cases here : key = k
    · subst here
      rw [if_pos rfl, if_pos rfl]
      exact Or.inr ⟨v, w, rfl, rfl, alike⟩
    · rw [if_neg here, if_neg here]
      exact ih

/-- What is read under a key that may be missing. -/
theorem EntriesAlike.entry (alike : EntriesAlike raw text) (key : String) :
    ReadAlike ((raw.value? key).getD .null) ((text.value? key).getD .null) (useOf key) := by
  rcases alike.value? key with ⟨no, neither⟩ | ⟨v, w, given, written, same⟩
  · rw [no, neither]
    exact .refl .null _
  · rw [given, written]
    exact same

theorem EntriesAlike.value?_eq (alike : EntriesAlike raw text) (key : String)
    (use : useOf key = .other) : text.value? key = raw.value? key := by
  rcases alike.value? key with ⟨no, neither⟩ | ⟨v, w, given, written, same⟩
  · rw [no, neither]
  · rw [use] at same
    rw [given, written, same]

theorem EntriesAlike.readNames (alike : EntriesAlike raw text) (key : String)
    (use : useOf key = .names) : readNames ((text.value? key).getD .null) =
      readNames ((raw.value? key).getD .null) := by
  have same := alike.entry key
  rwa [use] at same

theorem EntriesAlike.readStructure (alike : EntriesAlike raw text) (key : String)
    (use : useOf key = .document) : readStructure ((text.value? key).getD .null) =
      readStructure ((raw.value? key).getD .null) := by
  have same := alike.entry key
  rwa [use] at same

theorem EntriesAlike.readLimit (alike : EntriesAlike raw text) :
    readLimit ((text.value? "limit").getD .null) =
      readLimit ((raw.value? "limit").getD .null) := by
  obtain ⟨null, integer⟩ := alike.entry "limit"
  unfold Spec.readLimit
  rw [null, integer]

theorem EntriesAlike.readPaging (alike : EntriesAlike raw text) :
    readPaging text = readPaging raw := by
  unfold Spec.readPaging
  rw [alike.value?_eq "before" (by decide), alike.value?_eq "after" (by decide)]
  rcases alike.value? "page" with ⟨no, neither⟩ | ⟨v, w, given, written, _, integer⟩
  · rw [no, neither]
  · rw [given, written]
    -- the page is read only if there is no cursor
    cases raw.value? "before" with
    | some before => rfl
    | none =>
      cases raw.value? "after" with
      | some after => rfl
      | none => simp only [integer]

theorem EntriesAlike.ofEntries (alike : EntriesAlike raw text) :
    ofEntries text = ofEntries raw := by
  unfold Spec.ofEntries
  simp only [alike.value?_eq "search" (by decide), alike.value?_eq "pagination" (by decide),
    alike.readLimit, alike.readPaging, alike.readNames "fields" (by decide),
    alike.readNames "sort" (by decide), alike.readNames "group" (by decide),
    alike.readStructure "filter" (by decide), alike.readStructure "aggregate" (by decide)]

/-! ## Refusals -/

theorem areWritable_names (names : List String) :
    Value.areWritable (names.map .str) = true := by
  induction names with
  | nil => rfl
  | cons name rest ih =>
    rw [List.map_cons, Value.areWritable, ih]
    rfl

/-- The lists of names of a structured request hold no integers, and its filters are no text. -/
theorem not_unread (structured : ∀ entry ∈ raw, Structured entry.1 entry.2) (f : Failure) :
    ¬ Unread raw f := by
  have names : ∀ key ∈ ["fields", "sort", "group"], useOf key = .names := by decide
  have documents : ∀ key ∈ ["filter", "aggregate"], useOf key = .document := by decide
  intro unread
  cases unread with
  | @names key value listed given long =>
    have form : Structured key value := structured (key, value) (Mapping.mem_of_value? given)
    cases form with
    | names _ clear =>
      rw [Value.isWritable, areWritable_names] at long
      cases long
    | number use _ | items use _ | entries use _ | other use _ =>
      cases use.symm.trans (names key listed)
  | @json key text nested given long =>
    have form : Structured key (.str text) :=
      structured (key, .str text) (Mapping.mem_of_value? given)
    cases form with
    | other use => cases use.symm.trans (documents key nested)

/-- A structured request and the same request in an address line are read as one request, or are
refused for one reason. -/
theorem inline_means_same {style : Json.Style} (flat : style.Flat)
    (structured : ∀ entry ∈ raw, Structured entry.1 entry.2) :
    ∃ text, inline style raw = .ok text ∧
      ((∃ spec, ofRaw (.dict raw) = .ok spec ∧ ofRaw (.dict text) = .ok spec) ∨
        ∃ f, f.category = .request ∧ ofRaw (.dict raw) = .error f ∧
          ofRaw (.dict text) = .error f) := by
  obtain ⟨text, text_ok, alike⟩ := exists_inline flat structured
  refine ⟨text, text_ok, ?_⟩
  simp only [ofRaw, alike.ofEntries]
  cases read : ofEntries raw with
  | ok spec => exact Or.inl ⟨spec, rfl, rfl⟩
  | error f =>
    have refused : f.category = .request := by
      rcases ofEntries_fails raw f read with refused | unread
      · exact refused
      · exact absurd unread (not_unread structured f)
    exact Or.inr ⟨f, refused, rfl, rfl⟩

end

end Spec

namespace Sample

/-- Active people whose age is missing or nonsense. -/
def activeFilter : Value :=
  .dict [("status", .str "active"), ("age__in", .list [.int (-1), .null])]

def activeText : String := "\x7b\"status\": \"active\", \"age__in\": [-1, null]\x7d"

/-- The second page of them, by name. -/
def structuredRequest : Record :=
  [("fields", .list (["id", "email"].map .str)), ("sort", .list (["-name"].map .str)),
    ("limit", .int 10), ("page", .int 2), ("search", .str "ann, bob"),
    ("filter", activeFilter)]

theorem structuredRequest_structured :
    ∀ entry ∈ structuredRequest, Spec.Structured entry.1 entry.2 := by
  intro entry member
  simp only [structuredRequest, List.mem_cons, List.not_mem_nil, or_false] at member
  rcases member with rfl | rfl | rfl | rfl | rfl | rfl
  · exact .names (by decide) (by decide)
  · exact .names (by decide) (by decide)
  · exact .number (by decide) (by decide +kernel)
  · exact .number (by decide) (by decide +kernel)
  · exact .other (by decide) _
  · exact .entries (by decide) (by decide +kernel)

/-- The same request in an address line. -/
def inlineRequest : Record :=
  [("fields", .str "id,email"), ("sort", .str "-name"), ("limit", .str "10"), ("page", .str "2"),
    ("search", .str "ann, bob"), ("filter", .str activeText)]

theorem inlineRequest_read :
    (∀ entry ∈ structuredRequest, Spec.Structured entry.1 entry.2) ∧
      Spec.inline .spaced structuredRequest = .ok inlineRequest ∧
      ∃ spec, Spec.ofRaw (.dict structuredRequest) = .ok spec ∧
        Spec.ofRaw (.dict inlineRequest) = .ok spec ∧ spec.fields = ["id", "email"] ∧
        spec.limit = some 10 := by
  have filter : Spec.inlined .spaced "filter" activeFilter = .ok (.str activeText) := by
    have text : Json.write .spaced 0 activeFilter = .ok activeText := by decide +kernel
    have use : Spec.useOf "filter" = .document := by decide
    simp only [Spec.inlined, use, text]
    rfl
  have written : Spec.inline .spaced structuredRequest = .ok inlineRequest := by
    unfold Spec.inline structuredRequest inlineRequest
    simp only [List.mapM_cons, filter]
    rfl
  have asked : (Spec.ofRaw (.dict structuredRequest)).toOption.map (fun s => (s.fields, s.limit)) =
      some (["id", "email"], some 10) := by decide +kernel
  obtain ⟨text, text_ok, alike⟩ :=
    Spec.inline_means_same Json.spaced_flat structuredRequest_structured
  cases text_ok.symm.trans written
  refine ⟨structuredRequest_structured, written, ?_⟩
  rcases alike with ⟨spec, read, inlined⟩ | ⟨f, _, refused, _⟩
  · rw [read] at asked
    have parts : (spec.fields, spec.limit) = (["id", "email"], some 10) := Option.some.inj asked
    exact ⟨spec, read, inlined, congrArg Prod.fst parts, congrArg Prod.snd parts⟩
  · rw [refused] at asked
    cases asked

end Sample

end Curator
