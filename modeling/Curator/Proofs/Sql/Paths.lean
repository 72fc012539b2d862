import Curator.Proofs.Sql.Refusals
import Curator.Proofs.Sql.Tests
/-!
# Paths inside JSON columns

Which place in a JSON document a database finds when it reads the path literal of an expression.  The
one database reads a dollar sign with steps behind it, each a dot and a key in double quotes.  The other
reads an array of bare elements between commas; it passes over blanks around an element and takes the
word null for no key at all.  So the keys of a path always reach the first database as they are, and
they reach the second if none of them is that word or ends in a line end.
-/

set_option autoImplicit false

namespace Curator

/-! ## Keys that are read as they stand -/

namespace Text

/-- Whether a text is the word null, in letters of either case. -/
def IsNullWord (text : List Char) : Prop := text.map Char.toLower = ['n', 'u', 'l', 'l']

instance (text : List Char) : Decidable (IsNullWord text) :=
  inferInstanceAs (Decidable (text.map Char.toLower = ['n', 'u', 'l', 'l']))

/-- A key without a line end that is not the word null. -/
def PlainKey (key : String) : Prop := '\n' ∉ key.toList ∧ ¬ IsNullWord key.toList

instance (key : String) : Decidable (PlainKey key) :=
  inferInstanceAs (Decidable ('\n' ∉ key.toList ∧ ¬ IsNullWord key.toList))

/-- Joined parts with the mark before them as well. -/
theorem cons_join (mark : Char) {parts : List String} (some_part : parts ≠ []) :
    mark :: (join (String.singleton mark) parts).toList =
      parts.flatMap fun part => mark :: part.toList := by
  induction parts with
  | nil => exact absurd rfl some_part
  | cons part rest ih =>
    cases rest with
    | nil => simp [join]
    | cons next more =>
      rw [join_cons_cons, List.flatMap_cons, ← ih (List.cons_ne_nil next more)]
      simp

end Text

namespace Sql

open Outcome

/-! ## Steps -/

/-- The keys in steps.  The first argument is what is read of a key; between steps there is none. -/
def readSteps? : Option (List Char) → List Char → Option (List String)
  | none, [] => some []
  | none, '.' :: '"' :: rest => readSteps? (some []) rest
  | some key, '"' :: rest => (String.ofList key :: ·) <$> readSteps? none rest
  | some key, c :: rest => readSteps? (some (key ++ [c])) rest
  | _, _ => none

/-- The keys of a path of a dollar sign and steps. -/
def readStepPath? : List Char → Option (List String)
  | '$' :: rest => readSteps? none rest
  | _ => none

theorem readSteps?_key {key : List Char} (apart : '"' ∉ key) (before rest : List Char) :
    readSteps? (some before) (key ++ '"' :: rest) =
      (String.ofList (before ++ key) :: ·) <$> readSteps? none rest := by
  induction key generalizing before with
  | nil => simp [readSteps?]
  | cons c more ih =>
    simp only [List.mem_cons, not_or] at apart
    have next : readSteps? (some before) (c :: (more ++ '"' :: rest)) =
        readSteps? (some (before ++ [c])) (more ++ '"' :: rest) := by
      rw [readSteps?]
      exact fun same => absurd same (Ne.symm apart.1)
    rw [List.cons_append, next, ih apart.2, List.append_assoc, List.singleton_append]

theorem readSteps?_quoted {path : List String} (apart : ∀ key ∈ path, '"' ∉ key.toList) :
    readSteps? none ((path.map quoted).flatMap fun key => '.' :: key.toList) = some path := by
  induction path with
  | nil => rfl
  | cons key rest ih =>
    obtain ⟨first, others⟩ := List.forall_mem_cons.mp apart
    have opened : ((key :: rest).map quoted).flatMap (fun key => '.' :: key.toList) =
        '.' :: '"' :: (key.toList ++ '"' ::
          (rest.map quoted).flatMap fun key => '.' :: key.toList) := by
      simp [quoted]
    rw [opened, readSteps?, readSteps?_key first, ih others, List.nil_append, String.ofList_toList]
    rfl

theorem readStepPath?_pathLiteral {path : List String} (some_key : path ≠ [])
    (apart : ∀ key ∈ path, '"' ∉ key.toList) :
    readStepPath? (Dialect.sqlite.pathLiteral path).toList = some path := by
  have some_part : path.map quoted ≠ [] := by simpa using some_key
  have steps := Text.cons_join '.' some_part
  have literal : (Dialect.sqlite.pathLiteral path).toList =
      '$' :: '.' :: (Text.join (String.singleton '.') (path.map quoted)).toList := by
    simp [Dialect.pathLiteral]
  rw [literal, steps]
  exact readSteps?_quoted apart

/-! ## Arrays -/

/-- The blanks that do not count around the elements of an array. -/
def arrayBlanks : List Char := [' ', '\t', '\n', '\x0b', '\x0c', '\r']

/-- The signs that no bare element holds. -/
def arraySigns : List Char := ['\x7b', '\x7d', ',', '"', '\\']

/-- A bare element of an array, no key if it is the word null. -/
def readElement? (text : List Char) : Option (Option String) :=
  let bare := Text.trim (· ∈ arrayBlanks) text
  if bare.isEmpty || bare.any (· ∈ arraySigns) then none
  else if Text.IsNullWord bare then some none
  else some (some (String.ofList bare))

/-- The elements of an array in braces. -/
def readArray? : List Char → Option (List (Option String))
  | '\x7b' :: rest =>
    if rest.getLast? = some '\x7d' then
      let inside := rest.dropLast
      if inside.all (· ∈ arrayBlanks) then some [] else (inside.splitOn ',').mapM readElement?
    else none
  | _ => none

/-- What is read in an array for a key. -/
def elementOf (key : String) : Option String :=
  let bare := Text.withoutFinalNewline key.toList
  if Text.IsNullWord bare then none else some (String.ofList bare)

theorem ne_of_isKeyChar {c : Char} (isKey : Text.isKeyChar c = true) {others : List Char}
    (foreign : others.all (fun d => !Text.isKeyChar d) = true) : c ∉ others := by
  intro member
  have other := List.all_eq_true.mp foreign c member
  rw [isKey] at other
  cases other

/-- A key without its line end is not empty, and neither blanks nor signs are in it. -/
theorem bare_of_isJsonKey {key : String} (valid : Text.isJsonKey key = true) :
    Text.withoutFinalNewline key.toList ≠ [] ∧
      ∀ c ∈ Text.withoutFinalNewline key.toList, c ∉ arrayBlanks ∧ c ∉ arraySigns := by
  simp only [Text.isJsonKey, Text.isBareKey, Bool.and_eq_true, List.all_eq_true] at valid
  obtain ⟨some_char, chars⟩ := valid
  refine ⟨fun empty => by simp [empty] at some_char, fun c member => ?_⟩
  have isKey := chars c member
  exact ⟨ne_of_isKeyChar isKey (by decide), ne_of_isKeyChar isKey (by decide)⟩

theorem readElement?_key {key : String} (valid : Text.isJsonKey key = true) :
    readElement? key.toList = some (elementOf key) := by
  obtain ⟨some_char, apart⟩ := bare_of_isJsonKey valid
  obtain ⟨ending, whole, final⟩ := Text.withoutFinalNewline_parts key.toList
  have around : ∀ c ∈ ending, decide (c ∈ arrayBlanks) = true := by
    rcases final with rfl | rfl
    · exact fun c => nofun
    · intro c member
      rw [List.mem_singleton.mp member]
      rfl
  have bare : Text.trim (· ∈ arrayBlanks) key.toList = Text.withoutFinalNewline key.toList := by
    have trimmed := Text.trim_solid (List.head?_eq_some_head some_char)
      (List.getLast?_eq_some_getLast some_char)
      (decide_eq_false (apart _ (List.head_mem some_char)).1)
      (decide_eq_false (apart _ (List.getLast_mem some_char)).1) around
    rw [← whole] at trimmed
    exact trimmed
  have clear : (Text.withoutFinalNewline key.toList).any (· ∈ arraySigns) = false := by
    rw [List.any_eq_false]
    intro c member
    simpa using (apart c member).2
  have given : (Text.withoutFinalNewline key.toList).isEmpty = false := by
    simpa using some_char
  unfold readElement? elementOf
  simp only [bare, clear, given, Bool.or_self, Bool.false_eq_true, if_false]
  split
  · rfl
  · rfl

theorem mapM_readElement? {path : List String} (valid : ∀ key ∈ path, Text.isJsonKey key = true) :
    (path.map String.toList).mapM readElement? = some (path.map elementOf) := by
  induction path with
  | nil => rfl
  | cons key rest ih =>
    obtain ⟨first, others⟩ := List.forall_mem_cons.mp valid
    rw [List.map_cons, List.mapM_cons, readElement?_key first, ih others]
    rfl

theorem readArray?_pathLiteral {path : List String} (some_key : path ≠ [])
    (valid : ∀ key ∈ path, Text.isJsonKey key = true) :
    readArray? (Dialect.postgresql.pathLiteral path).toList = some (path.map elementOf) := by
  have literal : (Dialect.postgresql.pathLiteral path).toList =
      '\x7b' :: ((Text.join (String.singleton ',') path).toList ++ ['\x7d']) := by
    simp [Dialect.pathLiteral]
  have apart : ∀ key ∈ path, ',' ∉ key.toList := by
    intro key inside member
    rcases Text.isKeyChar_of_isJsonKey (valid key inside) member with isKey | newline
    · exact absurd isKey (by decide)
    · exact absurd newline (by decide)
  have elements : (Text.join (String.singleton ',') path).toList.splitOn ',' =
      path.map String.toList := by
    have split := congrArg (List.map String.toList) (Text.split_join ',' some_key apart)
    simpa [Text.split, Text.pieces_singleton, Function.comp_def] using split
  -- the first character of the first key is no blank
  have given : (Text.join (String.singleton ',') path).toList.all (· ∈ arrayBlanks) = false := by
    obtain ⟨key, rest, rfl⟩ := List.exists_cons_of_ne_nil some_key
    obtain ⟨some_char, solid⟩ := bare_of_isJsonKey (valid key List.mem_cons_self)
    obtain ⟨c, inside⟩ := List.exists_mem_of_ne_nil _ some_char
    have member : c ∈ ',' :: (Text.join (String.singleton ',') (key :: rest)).toList := by
      rw [Text.cons_join ',' some_key, List.flatMap_cons]
      have within := Text.mem_of_mem_withoutFinalNewline inside
      exact List.mem_append_left _ (List.mem_cons_of_mem _ within)
    have noMark : c ≠ ',' := by
      rintro rfl
      exact (solid _ inside).2 (by decide)
    rw [List.all_eq_false]
    exact ⟨c, (List.mem_cons.mp member).resolve_left noMark, by simpa using (solid c inside).1⟩
  simp only [literal, readArray?, List.getLast?_concat, List.dropLast_concat, if_true, given,
    Bool.false_eq_true, if_false, elements]
  exact mapM_readElement? valid

theorem elementOf_eq_some_iff {key : String} (valid : Text.isJsonKey key = true) :
    elementOf key = some key ↔ Text.PlainKey key := by
  unfold elementOf Text.PlainKey
  by_cases clear : '\n' ∈ key.toList
  · -- a line end is never read
    have gone : '\n' ∉ Text.withoutFinalNewline key.toList := fun member =>
      ((bare_of_isJsonKey valid).2 _ member).1 (by decide)
    constructor
    · intro same
      simp only [Option.ite_none_left_eq_some, Option.some.injEq] at same
      rw [← same.2, String.toList_ofList] at clear
      exact absurd clear gone
    · rintro ⟨apart, _⟩
      exact absurd clear apart
  · simp [Text.withoutFinalNewline_eq clear, clear]

/-! ## Literals in expressions -/

def Token.literal? : Token → Option (List Char)
  | .quoted '\'' text => some text
  | _ => none

/-- What stands in single quotes in a text. -/
def literals (text : String) : List (List Char) :=
  (tokens (Piece.ofText text.toList)).filterMap Token.literal?

/-- A text that ends outside of words and quotes. -/
def Complete (text : String) : Prop := ∃ ts, Closed (Piece.ofText text.toList) ts

theorem complete_qualify {column : String} {table : Option String} {expr : String}
    (ok : qualify column table = .ok expr) : Complete expr := by
  obtain ⟨ts, closed, _⟩ := qualify_closed ok
  exact ⟨ts, closed⟩

variable {d : Dialect} {expr text : String} {path other : List String}

/-- The literal of a path comes last. -/
theorem literals_extracted (complete : Complete expr)
    (valid : ∀ key ∈ path, Text.isJsonKey key = true) :
    (literals (d.extracted expr path)).getLast? = some (d.pathLiteral path).toList := by
  obtain ⟨ts, closed⟩ := complete
  have ends : ∃ before, d.extractedTokens ts (d.pathLiteral path).toList =
      before ++ [.quoted '\'' (d.pathLiteral path).toList, .sign ')'] := by
    cases d with
    | sqlite =>
      refine ⟨.word "json_extract".toList :: .sign '(' :: ts ++ [.sign ','], ?_⟩
      simp [Dialect.extractedTokens, wrapped]
    | postgresql =>
      refine ⟨.sign '(' :: wrapped ts ++ [.sign ':', .sign ':', .word "jsonb".toList, .sign '#',
        .sign '>', .sign '>'], ?_⟩
      simp [Dialect.extractedTokens, wrapped]
  obtain ⟨before, ends⟩ := ends
  have last : [Token.quoted '\'' (d.pathLiteral path).toList, .sign ')'].filterMap Token.literal? =
      [(d.pathLiteral path).toList] := rfl
  rw [literals, (closed_extracted valid closed).reads.tokens, ends, List.filterMap_append, last,
    List.getLast?_concat]

/-- The keys that a database reads in a path literal. -/
def Dialect.readPath? : Dialect → List Char → Option (List (Option String))
  | .sqlite, text => (·.map some) <$> readStepPath? text
  | .postgresql, text => readArray? text

/-- The keys that a database reads in the last literal of an expression. -/
def Dialect.address? (d : Dialect) (text : String) : Option (List (Option String)) :=
  (literals text).getLast?.bind d.readPath?

theorem jsonExtract_eq_ok_iff : d.jsonExtract expr path = .ok text ↔
    path ≠ [] ∧ (∀ key ∈ path, Text.isJsonKey key = true) ∧ text = d.extracted expr path := by
  refine ⟨jsonExtract_ok, ?_⟩
  rintro ⟨some_key, valid, rfl⟩
  have given : path.isEmpty = false := by simpa using some_key
  unfold Dialect.jsonExtract
  rw [given, checkPath_of valid]
  cases d with
  | sqlite => rfl
  | postgresql => rfl

/-- What a database reads for the keys of a path. -/
def Dialect.readKey : Dialect → String → Option String
  | .sqlite, key => some key
  | .postgresql, key => elementOf key

theorem address?_extracted (complete : Complete expr) (some_key : path ≠ [])
    (valid : ∀ key ∈ path, Text.isJsonKey key = true) :
    d.address? (d.extracted expr path) = some (path.map d.readKey) := by
  rw [Dialect.address?, literals_extracted complete valid, Option.bind_some]
  cases d with
  | sqlite =>
    have apart : ∀ key ∈ path, '"' ∉ key.toList := by
      intro key inside member
      rcases Text.isKeyChar_of_isJsonKey (valid key inside) member with isKey | newline
      · exact absurd isKey (by decide)
      · exact absurd newline (by decide)
    rw [Dialect.readPath?, readStepPath?_pathLiteral some_key apart]
    rfl
  | postgresql => exact readArray?_pathLiteral some_key valid

theorem map_readKey_iff (valid : ∀ key ∈ path, Text.isJsonKey key = true) :
    path.map d.readKey = path.map some ↔ d = .sqlite ∨ ∀ key ∈ path, Text.PlainKey key := by
  rw [List.map_inj_left]
  cases d with
  | sqlite => simp [Dialect.readKey]
  | postgresql =>
    simp only [reduceCtorEq, false_or]
    exact forall_congr' fun key => forall_congr' fun member =>
      elementOf_eq_some_iff (valid key member)

/-- A path that is accepted reaches the one database as it is, whatever its keys are, and the other
exactly if no key of it is the word null or has a line end: there the word null stands for no key, and
a line end is lost.  Apart from such keys, different paths lead to different places, and both databases
accept the same paths and read the same keys. -/
theorem json_paths_arrive (complete : Complete expr) (ok : d.jsonExtract expr path = .ok text) :
    (d.address? text = some (path.map some) ↔ d = .sqlite ∨ ∀ key ∈ path, Text.PlainKey key) ∧
    d.address? text = some (path.map d.readKey) ∧
    (∀ other written, d.jsonExtract expr other = .ok written →
      (d = .sqlite ∨ ∀ key ∈ path ++ other, Text.PlainKey key) →
      d.address? written = d.address? text → other = path) ∧
    ∀ e : Dialect, ∃ written, e.jsonExtract expr path = .ok written ∧
      ((∀ key ∈ path, Text.PlainKey key) → e.address? written = d.address? text) := by
  have arrives : ∀ (e : Dialect) path text, e.jsonExtract expr path = .ok text →
      e.address? text = some (path.map e.readKey) ∧
      (e = .sqlite ∨ (∀ key ∈ path, Text.PlainKey key) → path.map e.readKey = path.map some) := by
    intro e path text ok
    obtain ⟨some_key, valid, rfl⟩ := jsonExtract_ok ok
    exact ⟨address?_extracted complete some_key valid, (map_readKey_iff valid).mpr⟩
  obtain ⟨some_key, valid, _⟩ := jsonExtract_ok ok
  obtain ⟨address, unchanged⟩ := arrives d path text ok
  refine ⟨?_, address, fun other written other_ok plain same => ?_, fun e => ?_⟩
  · rw [address, Option.some.injEq]
    exact map_readKey_iff valid
  · obtain ⟨other_address, other_unchanged⟩ := arrives d other written other_ok
    have own := unchanged (plain.imp_right fun all key member => all key (List.mem_append_left _ member))
    have others := other_unchanged
      (plain.imp_right fun all key member => all key (List.mem_append_right _ member))
    rw [address, other_address, own, others, Option.some.injEq] at same
    exact List.map_injective_iff.mpr (fun _ _ => Option.some.inj) same
  · have written : e.jsonExtract expr path = .ok (e.extracted expr path) :=
      jsonExtract_eq_ok_iff.mpr ⟨some_key, valid, rfl⟩
    refine ⟨e.extracted expr path, written, fun plain => ?_⟩
    obtain ⟨other_address, other_unchanged⟩ := arrives e path _ written
    rw [address, other_address, unchanged (Or.inr plain), other_unchanged (Or.inr plain)]

namespace Sample

theorem two_keys_arrive : Complete "\"meta\"" ∧
    Dialect.postgresql.jsonExtract "\"meta\"" ["size", "w-2"] =
      .ok "((\"meta\")::jsonb #>> '\x7bsize,w-2\x7d')" ∧
    Dialect.postgresql.address? "((\"meta\")::jsonb #>> '\x7bsize,w-2\x7d')" =
      some [some "size", some "w-2"] := by
  have named : qualify "meta" none = .ok "\"meta\"" := rfl
  have complete : Complete "\"meta\"" := complete_qualify named
  have ok : Dialect.postgresql.jsonExtract "\"meta\"" ["size", "w-2"] =
      .ok "((\"meta\")::jsonb #>> '\x7bsize,w-2\x7d')" := rfl
  exact ⟨complete, ok, (json_paths_arrive complete ok).1.mpr (Or.inr (by decide))⟩

/-- The key null is accepted and read as no key, and a key with a line end as the one without it. -/
theorem null_key_lost :
    Dialect.postgresql.jsonExtract "\"meta\"" ["null"] =
      .ok "((\"meta\")::jsonb #>> '\x7bnull\x7d')" ∧
    Dialect.postgresql.address? "((\"meta\")::jsonb #>> '\x7bnull\x7d')" ≠ some [some "null"] ∧
    Dialect.postgresql.jsonExtract "\"meta\"" ["w\n"] =
      .ok "((\"meta\")::jsonb #>> '\x7bw\n\x7d')" ∧
    Dialect.postgresql.address? "((\"meta\")::jsonb #>> '\x7bw\n\x7d')" =
      Dialect.postgresql.address? "((\"meta\")::jsonb #>> '\x7bw\x7d')" :=
  ⟨rfl, by decide, rfl, by decide⟩

end Sample

end Sql

end Curator
