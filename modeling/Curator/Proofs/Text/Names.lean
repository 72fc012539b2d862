import Curator.Schema.Basic
import Curator.Text.Identifier
import Mathlib.Data.List.Basic
/-!
# The characters of names

Which characters names can hold, and where a text is cut at a mark.  No identifier holds a dot, a
dash, a quote or a placeholder, so names between dots and keys behind arrows can be told apart again.
-/

set_option autoImplicit false

namespace Curator.Text

/-! ## Cutting at a mark -/

/-- Cutting loses no character but those of the mark. -/
theorem mem_piecesFrom {mark : List Char} (some_mark : mark ≠ []) {c : Char} (skip : Nat)
    (text : List Char) (member : c ∈ text) :
    c ∈ text.take skip ∨ c ∈ mark ∨ ∃ piece ∈ piecesFrom mark skip text, c ∈ piece := by
  fun_induction piecesFrom mark skip text with
  | case1 => cases member
  | case2 skip d rest ih =>
    rcases List.mem_cons.mp member with rfl | later
    · exact Or.inl List.mem_cons_self
    · rcases ih later with taken | found
      · exact Or.inl (List.mem_cons_of_mem d taken)
      · exact Or.inr found
  | case3 d rest front ih =>
    obtain ⟨first, others, rfl⟩ := List.exists_cons_of_ne_nil some_mark
    obtain ⟨same, front⟩ : first = d ∧ others.isPrefixOf rest = true := by
      simpa [List.isPrefixOf] using front
    rcases List.mem_cons.mp member with rfl | later
    · exact Or.inr (Or.inl (same ▸ List.mem_cons_self))
    · rcases ih later with taken | inside | ⟨piece, found, inside⟩
      · obtain ⟨tail, rfl⟩ := List.isPrefixOf_iff_prefix.mp front
        refine Or.inr (Or.inl (List.mem_cons_of_mem first ?_))
        simpa using taken
      · exact Or.inr (Or.inl inside)
      · exact Or.inr (Or.inr ⟨piece, List.mem_cons_of_mem _ found, inside⟩)
  | case4 d rest front empty ih =>
    rcases List.mem_cons.mp member with rfl | later
    · exact Or.inr (Or.inr ⟨[c], by simp, by simp⟩)
    · rcases ih later with taken | inside | ⟨piece, found, inside⟩
      · simp at taken
      · exact Or.inr (Or.inl inside)
      · simp [empty] at found
  | case5 d rest front piece others found ih =>
    rcases List.mem_cons.mp member with rfl | later
    · exact Or.inr (Or.inr ⟨c :: piece, by simp, by simp⟩)
    · rcases ih later with taken | inside | ⟨other, held, inside⟩
      · simp at taken
      · exact Or.inr (Or.inl inside)
      · rw [found] at held
        rcases List.mem_cons.mp held with rfl | held
        · exact Or.inr (Or.inr ⟨d :: other, by simp, List.mem_cons_of_mem d inside⟩)
        · exact Or.inr (Or.inr ⟨other, List.mem_cons_of_mem _ held, inside⟩)

theorem mem_pieces {mark : List Char} (some_mark : mark ≠ []) {c : Char} {text : List Char}
    (member : c ∈ text) : c ∈ mark ∨ ∃ piece ∈ pieces mark text, c ∈ piece := by
  rcases mem_piecesFrom some_mark 0 text member with taken | found
  · simp at taken
  · exact found

theorem piecesFrom_ne_nil (mark : List Char) (skip : Nat) (text : List Char) :
    piecesFrom mark skip text ≠ [] := by
  fun_induction piecesFrom mark skip text with
  | case1 => simp
  | case2 skip d rest ih => exact ih
  | case3 d rest front ih => simp
  | case4 d rest front empty ih => simp
  | case5 d rest front piece others found ih => simp

/-- Cutting at a single character is the library's splitting. -/
theorem pieces_singleton (mark : Char) (text : List Char) :
    pieces [mark] text = text.splitOn mark := by
  induction text with
  | nil => rfl
  | cons c rest ih =>
    rw [List.splitOn_cons_eq_if_modifyHead, ← ih]
    unfold pieces
    rw [piecesFrom.eq_def]
    simp only [List.isPrefixOf, Bool.and_true, beq_iff_eq]
    by_cases same : mark = c
    · subst same
      simp
    · have other : ¬ c = mark := fun equal => same equal.symm
      simp only [if_neg same, if_neg other]
      cases found : piecesFrom [mark] 0 rest with
      | nil => exact absurd found (piecesFrom_ne_nil [mark] 0 rest)
      | cons piece others => rfl

/-- No part holds what a list is cut at. -/
theorem false_of_mem_splitOnP {α : Type} {p : α → Bool} {xs part : List α}
    (member : part ∈ xs.splitOnP p) : ∀ x ∈ part, p x = false := by
  induction xs generalizing part with
  | nil =>
    rw [List.splitOnP_nil, List.mem_singleton] at member
    simp [member]
  | cons x rest ih =>
    rw [List.splitOnP_cons_eq_if_modifyHead] at member
    by_cases cut : p x = true
    · rw [if_pos cut] at member
      rcases List.mem_cons.mp member with rfl | member
      · exact nofun
      · exact ih member
    · rw [if_neg cut] at member
      obtain ⟨first, others, parts⟩ := List.exists_cons_of_ne_nil (List.splitOnP_ne_nil p rest)
      rw [parts] at member ih
      rcases List.mem_cons.mp member with rfl | member
      · exact List.forall_mem_cons.mpr ⟨by simpa using cut, ih List.mem_cons_self⟩
      · exact ih (List.mem_cons_of_mem first member)

theorem not_mem_of_mem_splitOn {mark : Char} {text piece : List Char}
    (member : piece ∈ text.splitOn mark) : mark ∉ piece := by
  intro inside
  have apart := false_of_mem_splitOnP member mark inside
  simp at apart

/-- Parts with a mark between them are told apart again. -/
theorem splitOnP_intercalate {α : Type} {p : α → Bool} {mark : α} (cuts : p mark = true)
    {parts : List (List α)} (some_part : parts ≠ [])
    (apart : ∀ part ∈ parts, ∀ x ∈ part, p x = false) :
    ([mark].intercalate parts).splitOnP p = parts := by
  induction parts with
  | nil => exact absurd rfl some_part
  | cons part others ih =>
    obtain ⟨own, later⟩ := List.forall_mem_cons.mp apart
    cases others with
    | nil =>
      rw [List.intercalate_singleton]
      exact List.splitOnP_eq_singleton own
    | cons next more =>
      have split := List.splitOnP_append_cons_of_forall_mem own mark cuts
        ([mark].intercalate (next :: more))
      rw [List.intercalate_cons_cons, List.append_assoc, List.singleton_append, split,
        ih (List.cons_ne_nil next more) later]

/-! ## Names between dots -/

theorem not_mem_of_mem_split (mark : Char) {text part : String}
    (member : part ∈ split text (String.singleton mark)) : mark ∉ part.toList := by
  simp only [split, String.toList_singleton, pieces_singleton, List.mem_map] at member
  obtain ⟨piece, inside, rfl⟩ := member
  rw [String.toList_ofList]
  exact not_mem_of_mem_splitOn inside

theorem join_cons_cons (mark first second : String) (rest : List String) :
    join mark (first :: second :: rest) = first ++ mark ++ join mark (second :: rest) := by
  refine String.toList_inj.mp ?_
  simp only [join, String.toList_intercalate, String.toList_append, List.map_cons,
    List.intercalate_cons_cons]

theorem split_join (mark : Char) {parts : List String} (some_part : parts ≠ [])
    (apart : ∀ part ∈ parts, mark ∉ part.toList) :
    split (join (String.singleton mark) parts) (String.singleton mark) = parts := by
  have lists : (join (String.singleton mark) parts).toList =
      [mark].intercalate (parts.map String.toList) := by
    simp [join, String.toList_intercalate]
  rw [split, lists, String.toList_singleton, pieces_singleton, List.splitOn_intercalate]
  · simp
  · intro piece member
    obtain ⟨part, inside, rfl⟩ := List.mem_map.mp member
    exact apart part inside
  · simpa using some_part

theorem split_ne_nil (text mark : String) : split text mark ≠ [] := by
  rw [split, ne_eq, List.map_eq_nil_iff]
  exact piecesFrom_ne_nil mark.toList 0 text.toList

theorem join_split (mark : Char) (text : String) :
    join (String.singleton mark) (split text (String.singleton mark)) = text := by
  refine String.toList_inj.mp ?_
  simp [join, split, String.toList_intercalate, pieces_singleton, Function.comp_def,
    List.intercalate_splitOn]

/-! ## Characters -/

theorem withoutFinalNewline_parts (text : List Char) : ∃ ending,
    text = withoutFinalNewline text ++ ending ∧ (ending = [] ∨ ending = ['\n']) := by
  unfold withoutFinalNewline
  split
  · rename_i last
    obtain ⟨front, rfl⟩ := List.getLast?_eq_some_iff.mp last
    exact ⟨['\n'], by simp, Or.inr rfl⟩
  · exact ⟨[], by simp, Or.inl rfl⟩

theorem mem_withoutFinalNewline {text : List Char} {c : Char} (member : c ∈ text) :
    c ∈ withoutFinalNewline text ∨ c = '\n' := by
  unfold withoutFinalNewline
  split
  · rename_i last
    obtain ⟨front, rfl⟩ := List.getLast?_eq_some_iff.mp last
    rcases List.mem_append.mp member with inside | final
    · exact Or.inl (by simpa using inside)
    · exact Or.inr (List.mem_singleton.mp final)
  · exact Or.inl member

theorem mem_of_mem_withoutFinalNewline {text : List Char} {c : Char}
    (member : c ∈ withoutFinalNewline text) : c ∈ text := by
  unfold withoutFinalNewline at member
  split at member
  · exact (List.dropLast_sublist text).subset member
  · exact member

/-- The characters of identifiers: letters, digits, underscores, and a line end. -/
def IsNameChar (c : Char) : Prop := isNameRest c = true ∨ c = '\n'

instance (c : Char) : Decidable (IsNameChar c) :=
  inferInstanceAs (Decidable (isNameRest c = true ∨ c = '\n'))

theorem isNameChar_of_isIdentifier {name : String} (valid : isIdentifier name = true) {c : Char}
    (member : c ∈ name.toList) : IsNameChar c := by
  rcases mem_withoutFinalNewline member with inside | final
  · refine Or.inl ?_
    unfold isIdentifier at valid
    cases found : withoutFinalNewline name.toList with
    | nil => simp [found] at inside
    | cons first rest =>
      rw [found, isBareIdentifier, Bool.and_eq_true, List.all_eq_true] at valid
      rw [found] at inside
      rcases List.mem_cons.mp inside with rfl | inside
      · have start := valid.1
        simp only [isNameStart, isNameRest, Char.isAlphanum, Bool.or_eq_true] at start ⊢
        tauto
      · exact valid.2 c inside
  · exact Or.inr final

theorem isKeyChar_of_isJsonKey {key : String} (valid : isJsonKey key = true) {c : Char}
    (member : c ∈ key.toList) : isKeyChar c = true ∨ c = '\n' := by
  rcases mem_withoutFinalNewline member with inside | final
  · simp only [isJsonKey, isBareKey, Bool.and_eq_true, List.all_eq_true] at valid
    exact Or.inl (valid.2 c inside)
  · exact Or.inr final

/-- The characters of output names: those of identifiers, dashes, and the marks between parts. -/
def IsLabelChar (c : Char) : Prop := isKeyChar c = true ∨ c = '.' ∨ c = '>' ∨ c = '\n'

theorem IsNameChar.isLabelChar {c : Char} (h : IsNameChar c) : IsLabelChar c := by
  rcases h with rest | final
  · refine Or.inl ?_
    simp only [isNameRest, isKeyChar, Bool.or_eq_true] at rest ⊢
    tauto
  · exact Or.inr (Or.inr (Or.inr final))

theorem isLabelChar_of_isBareSegment {text : List Char} (valid : isBareSegment text = true)
    {c : Char} (member : c ∈ text) : IsLabelChar c := by
  rcases mem_pieces (show arrow ≠ [] by decide) member with inArrow | ⟨piece, inside, member⟩
  · rcases List.mem_cons.mp inArrow with rfl | inArrow
    · exact Or.inl (by decide)
    · exact Or.inr (Or.inr (Or.inl (List.mem_singleton.mp inArrow)))
  · unfold isBareSegment at valid
    cases found : pieces arrow text with
    | nil => simp [found] at inside
    | cons column keys =>
      rw [found, Bool.and_eq_true, List.all_eq_true] at valid
      rw [found] at inside
      rcases List.mem_cons.mp inside with rfl | inside
      · cases piece with
        | nil => cases member
        | cons first rest =>
          rw [isBareIdentifier, Bool.and_eq_true, List.all_eq_true] at valid
          refine IsNameChar.isLabelChar (Or.inl ?_)
          rcases List.mem_cons.mp member with rfl | member
          · have start := valid.1.1
            simp only [isNameStart, isNameRest, Char.isAlphanum, Bool.or_eq_true] at start ⊢
            tauto
          · exact valid.1.2 c member
      · have key := valid.2 piece inside
        rw [isBareKey, Bool.and_eq_true, List.all_eq_true] at key
        exact Or.inl (key.2 c member)

theorem isLabelChar_of_isAlias {name : String} (valid : isAlias name = true) {c : Char}
    (member : c ∈ name.toList) : IsLabelChar c := by
  rcases mem_withoutFinalNewline member with inside | final
  · rcases mem_pieces (show ['.'] ≠ [] by decide) inside with dot | ⟨piece, held, inside⟩
    · exact Or.inr (Or.inl (List.mem_singleton.mp dot))
    · unfold isAlias at valid
      exact isLabelChar_of_isBareSegment (List.all_eq_true.mp valid piece held) inside
  · exact Or.inr (Or.inr (Or.inr final))

theorem not_mem_of_isIdentifier {name : String} (valid : isIdentifier name = true) {c : Char}
    (foreign : ¬ IsNameChar c) : c ∉ name.toList :=
  fun member => foreign (isNameChar_of_isIdentifier valid member)

/-! ## Names without keys -/

theorem pieces_of_not_mem {first : Char} {others text : List Char} (apart : first ∉ text) :
    pieces (first :: others) text = [text] := by
  unfold pieces
  induction text with
  | nil => rfl
  | cons c rest ih =>
    simp only [List.mem_cons, not_or] at apart
    rw [piecesFrom.eq_def]
    simp [List.isPrefixOf, apart.1, ih apart.2]

theorem cut?_of_not_mem {first : Char} {others text : List Char} (apart : first ∉ text) :
    cut? (first :: others) text = none := by
  induction text with
  | nil => rfl
  | cons c rest ih =>
    simp only [List.mem_cons, not_or] at apart
    simp [cut?, List.isPrefixOf, apart.1, ih apart.2]

theorem isAlias_of_isIdentifier {name : String} (valid : isIdentifier name = true) :
    isAlias name = true := by
  have dot : '.' ∉ withoutFinalNewline name.toList := fun member =>
    not_mem_of_isIdentifier valid (by decide) (mem_of_mem_withoutFinalNewline member)
  have dash : '-' ∉ withoutFinalNewline name.toList := fun member =>
    not_mem_of_isIdentifier valid (by decide) (mem_of_mem_withoutFinalNewline member)
  have segment : isBareSegment (withoutFinalNewline name.toList) = true := by
    rw [isBareSegment, arrow, pieces_of_not_mem dash]
    simpa using (show isBareIdentifier (withoutFinalNewline name.toList) = true from valid)
  rw [isAlias, pieces_of_not_mem dot]
  simpa using segment

end Curator.Text

namespace Curator

theorem baseField_of_isIdentifier {name : String} (valid : Text.isIdentifier name = true) :
    baseField name = name := by
  have apart : '-' ∉ name.toList := Text.not_mem_of_isIdentifier valid (by decide)
  have none_found : Text.cut? jsonArrow.toList name.toList = none :=
    @Text.cut?_of_not_mem _ ['>'] _ apart
  simp [baseField, Text.splitOnce?, none_found]

theorem jsonPath_of_isIdentifier {name : String} (valid : Text.isIdentifier name = true) :
    jsonPath name = [] := by
  have apart : '-' ∉ name.toList := Text.not_mem_of_isIdentifier valid (by decide)
  have whole : Text.pieces jsonArrow.toList name.toList = [name.toList] :=
    @Text.pieces_of_not_mem _ ['>'] _ apart
  simp [jsonPath, Text.split, whole]

/-!
## Labels

Names put together of names: the aliases of joined tables, which have a number behind them, and the
labels of columns, which have dots and arrows between their parts.  Where no part holds a line end,
what is put together is as well-formed as its parts.
-/

namespace Text

theorem piecesFrom_drop (mark : List Char) (skip : Nat) (text : List Char) :
    piecesFrom mark skip text = piecesFrom mark 0 (text.drop skip) := by
  induction text generalizing skip with
  | nil => simp [piecesFrom]
  | cons c rest ih =>
    cases skip with
    | zero => rfl
    | succ skip => rw [piecesFrom, ih, List.drop_succ_cons]

/-- The first piece of a text ends at the first mark; the others are the pieces behind it. -/
theorem pieces_eq_cut? {mark : List Char} (some_mark : mark ≠ []) (text : List Char) :
    pieces mark text = match cut? mark text with
      | none => [text]
      | some (before, after) => before :: pieces mark after := by
  obtain ⟨first, others, rfl⟩ := List.exists_cons_of_ne_nil some_mark
  induction text with
  | nil => rfl
  | cons c rest ih =>
    unfold pieces at ih ⊢
    rw [piecesFrom.eq_def, cut?]
    by_cases front : (first :: others).isPrefixOf (c :: rest) = true
    · simp only [if_pos front, List.length_cons, List.drop_succ_cons]
      rw [piecesFrom_drop]
      simp
    · simp only [if_neg front, ih]
      cases cut? (first :: others) rest with
      | none => rfl
      | some found => rfl

theorem cut?_append {mark : Char} {before : List Char} (apart : mark ∉ before) (after : List Char) :
    cut? [mark] (before ++ mark :: after) = some (before, after) := by
  induction before with
  | nil => simp [cut?, List.isPrefixOf]
  | cons c rest ih =>
    simp only [List.mem_cons, not_or] at apart
    simp [cut?, List.isPrefixOf, apart.1, ih apart.2]

theorem append_of_cut? {mark : Char} {text before after : List Char}
    (found : cut? [mark] text = some (before, after)) : text = before ++ mark :: after := by
  induction text generalizing before after with
  | nil => cases found
  | cons c rest ih =>
    rw [cut?] at found
    split at found
    · rename_i front
      cases found
      simp only [List.isPrefixOf, Bool.and_true, beq_iff_eq] at front
      rw [front]
      rfl
    · obtain ⟨⟨front, back⟩, later, same⟩ := Option.map_eq_some_iff.mp found
      cases same
      rw [ih later]
      rfl

theorem mem_of_mem_piecesFrom {mark : List Char} {c : Char} (skip : Nat) (text : List Char)
    {piece : List Char} (found : piece ∈ piecesFrom mark skip text) (member : c ∈ piece) :
    c ∈ text := by
  fun_induction piecesFrom mark skip text generalizing piece with
  | case1 =>
    rw [List.mem_singleton.mp found] at member
    exact member
  | case2 skip d rest ih => exact List.mem_cons_of_mem d (ih found member)
  | case3 d rest front ih =>
    rcases List.mem_cons.mp found with rfl | found
    · cases member
    · exact List.mem_cons_of_mem d (ih found member)
  | case4 d rest front empty ih =>
    rw [List.mem_singleton.mp found] at member
    rw [List.mem_singleton.mp member]
    exact List.mem_cons_self
  | case5 d rest front first others found' ih =>
    rw [found'] at ih
    rcases List.mem_cons.mp found with rfl | found
    · rcases List.mem_cons.mp member with rfl | member
      · exact List.mem_cons_self
      · exact List.mem_cons_of_mem d (ih List.mem_cons_self member)
    · exact List.mem_cons_of_mem d (ih (List.mem_cons_of_mem first found) member)

theorem mem_of_mem_split {text mark part : String} {c : Char} (found : part ∈ split text mark)
    (member : c ∈ part.toList) : c ∈ text.toList := by
  obtain ⟨piece, inside, rfl⟩ := List.mem_map.mp found
  rw [String.toList_ofList] at member
  exact mem_of_mem_piecesFrom 0 text.toList inside member

/-! ### Names without line ends -/

theorem withoutFinalNewline_eq {text : List Char} (clear : '\n' ∉ text) :
    withoutFinalNewline text = text := by
  unfold withoutFinalNewline
  split
  · rename_i last
    exact absurd (List.mem_of_getLast? last) clear
  · rfl

theorem isBareIdentifier_of {name : String} (valid : isIdentifier name = true)
    (clear : '\n' ∉ name.toList) : isBareIdentifier name.toList = true := by
  rw [isIdentifier, withoutFinalNewline_eq clear] at valid
  exact valid

theorem isBareKey_of {key : String} (valid : isJsonKey key = true) (clear : '\n' ∉ key.toList) :
    isBareKey key.toList = true := by
  rw [isJsonKey, withoutFinalNewline_eq clear] at valid
  exact valid

/-- A number behind an identifier leaves it one. -/
theorem isIdentifier_numbered {name : String} (valid : isIdentifier name = true)
    (clear : '\n' ∉ name.toList) (n : Nat) : isIdentifier (name ++ "_" ++ toString n) = true := by
  have digits : ∀ c ∈ Nat.toDigits 10 n, isNameRest c = true ∧ c ≠ '\n' := by
    intro c member
    have digit := Nat.isDigit_of_mem_toDigits (by decide) (by decide) member
    refine ⟨by simp [isNameRest, Char.isAlphanum, digit], ?_⟩
    rintro rfl
    exact absurd digit (by decide)
  have chars : (name ++ "_" ++ toString n).toList = name.toList ++ '_' :: Nat.toDigits 10 n := by
    simp
  have bare := isBareIdentifier_of valid clear
  rw [isIdentifier, chars]
  generalize name.toList = text at bare clear ⊢
  rw [withoutFinalNewline_eq]
  · cases text with
    | nil => cases bare
    | cons c rest =>
      rw [isBareIdentifier, Bool.and_eq_true, List.all_eq_true] at bare
      rw [List.cons_append, isBareIdentifier, Bool.and_eq_true, List.all_eq_true]
      refine ⟨bare.1, fun d member => ?_⟩
      rcases List.mem_append.mp member with member | member
      · exact bare.2 d member
      · rcases List.mem_cons.mp member with rfl | member
        · rfl
        · exact (digits d member).1
  · intro member
    rcases List.mem_append.mp member with member | member
    · exact clear member
    · rcases List.mem_cons.mp member with same | member
      · cases same
      · exact (digits _ member).2 rfl

end Text

/-- A field name is its column and the keys inside the column, with arrows between them. -/
theorem split_arrow (name : String) :
    Text.split name jsonArrow = baseField name :: jsonPath name := by
  have some_mark : jsonArrow.toList ≠ [] := by decide
  have first := Text.pieces_eq_cut? some_mark name.toList
  unfold jsonPath baseField Text.split Text.splitOnce?
  cases cut : Text.cut? jsonArrow.toList name.toList with
  | none => simp [first, cut]
  | some found => simp [first, cut]

namespace Text

theorem isBareSegment_of {name : String} (column : isIdentifier (baseField name) = true)
    (keys : ∀ key ∈ jsonPath name, isJsonKey key = true) (clear : '\n' ∉ name.toList) :
    isBareSegment name.toList = true := by
  have parts := split_arrow name
  have within : ∀ part ∈ split name jsonArrow, '\n' ∉ part.toList :=
    fun part found member => clear (mem_of_mem_split found member)
  rw [parts] at within
  unfold isBareSegment
  have arrow_eq : arrow = jsonArrow.toList := rfl
  rw [split] at parts
  rw [arrow_eq]
  cases found : pieces jsonArrow.toList name.toList with
  | nil => simp [found] at parts
  | cons first others =>
    rw [found, List.map_cons, List.cons.injEq] at parts
    obtain ⟨firstPart, otherParts⟩ := parts
    simp only [Bool.and_eq_true, List.all_eq_true]
    constructor
    · have bare := isBareIdentifier_of column (within _ List.mem_cons_self)
      rw [← firstPart, String.toList_ofList] at bare
      exact bare
    · intro piece member
      have part : String.ofList piece ∈ jsonPath name := by
        rw [← otherParts]
        exact List.mem_map_of_mem member
      have bare := isBareKey_of (keys _ part) (within _ (List.mem_cons_of_mem _ part))
      rw [String.toList_ofList] at bare
      exact bare

/-- A label without line ends is well-formed if each part between its dots is. -/
theorem isAlias_of {label : String} (clear : '\n' ∉ label.toList)
    (parts : ∀ part ∈ split label ".", isIdentifier (baseField part) = true ∧
      ∀ key ∈ jsonPath part, isJsonKey key = true) : isAlias label = true := by
  rw [isAlias, withoutFinalNewline_eq clear, List.all_eq_true]
  intro piece found
  have part : String.ofList piece ∈ split label "." := List.mem_map_of_mem found
  have within : '\n' ∉ (String.ofList piece).toList := fun member =>
    clear (mem_of_mem_split part member)
  obtain ⟨column, keys⟩ := parts _ part
  have bare := isBareSegment_of column keys within
  rw [String.toList_ofList] at bare
  exact bare

end Text

end Curator
