import Curator.Proofs.Text.Integers
import Curator.Proofs.Text.Names
import Curator.Transform.Basic
/-!
# Slugs

A slug is made of the words of a text, the runs of small letters and digits in it once it is cut at its
humps and lower-cased, with single dashes between them.  Whatever the other characters are and whatever
becomes of them in lower case, nothing but words is left of a text, and a slug is its own slug.
-/

set_option autoImplicit false

namespace Curator

namespace Transform

/-- A run of small letters and digits. -/
def IsSlugWord (word : String) : Prop :=
  word ≠ "" ∧ ∀ c ∈ word.toList, isSlugChar c = true

/-- Words with single dashes between them; a text without words is empty. -/
def IsSlug (text : String) : Prop :=
  ∃ words : List String, (∀ word ∈ words, IsSlugWord word) ∧ text = Text.join "-" words

/-- The runs of slug characters in a text. -/
def slugRuns (text : List Char) : List (List Char) :=
  (text.splitOnP (!isSlugChar ·)).filter (!·.isEmpty)

/-- The words of a text. -/
def slugWords (text : String) : List String :=
  (slugRuns (Text.lowerChars (splitHumps text.toList))).map String.ofList

section

variable {c : Char} {text : List Char} {runs : List (List Char)}

/-! ## Runs between dashes -/

theorem splitOnP_word (word : isSlugChar c = true) {first : List Char} {others : List (List Char)}
    (parts : text.splitOnP (!isSlugChar ·) = first :: others) :
    (c :: text).splitOnP (!isSlugChar ·) = (c :: first) :: others := by
  rw [List.splitOnP_cons_eq_if_modifyHead, parts, word]
  rfl

theorem splitOnP_other (other : isSlugChar c = false) (text : List Char) :
    (c :: text).splitOnP (!isSlugChar ·) = [] :: text.splitOnP (!isSlugChar ·) := by
  rw [List.splitOnP_cons_eq_if_modifyHead, other]
  rfl

theorem intercalate_dash (run : List Char) (runs : List (List Char)) :
    ['-'].intercalate (run :: runs) = run ++ runs.flatMap ('-' :: ·) := by
  induction runs generalizing run with
  | nil => simp
  | cons next more ih =>
    rw [List.intercalate_cons_cons, ih, List.flatMap_cons, List.append_assoc, List.singleton_append,
      List.cons_append]

theorem ne_dash (word : isSlugChar c = true) : c ≠ '-' := by
  rintro rfl
  exact absurd word (by decide)

theorem dashRuns_word (word : isSlugChar c = true) (text : List Char) :
    dashRuns (c :: text) = c :: dashRuns text := by
  rw [dashRuns, if_pos word]

/-- A character that a slug does not hold becomes a dash, unless there is a dash behind it. -/
theorem dashRuns_other (other : isSlugChar c = false) (text : List Char) :
    dashRuns (c :: text) =
      if (dashRuns text).head? = some '-' then dashRuns text else '-' :: dashRuns text := by
  rw [dashRuns, other]
  simp only [Bool.false_eq_true, if_false]
  split
  · rename_i more found
    rw [found]
    rfl
  · rename_i apart
    have begins : (dashRuns text).head? ≠ some '-' := by
      intro dash
      obtain ⟨more, found⟩ := List.head?_eq_some_iff.mp dash
      exact apart more found
    rw [if_neg begins]

/-- A dash stands in front exactly where a text begins with another character. -/
theorem dashRuns_begins {first : List Char} {others : List (List Char)}
    (parts : text.splitOnP (!isSlugChar ·) = first :: others) :
    text = [] ∨ (first = [] ∧ (dashRuns text).head? = some '-') ∨
      (first ≠ [] ∧ (dashRuns text).head? ≠ some '-') := by
  cases text with
  | nil => exact Or.inl rfl
  | cons c rest =>
    cases word : isSlugChar c with
    | true =>
      obtain ⟨run, more, inside⟩ := List.exists_cons_of_ne_nil
        (List.splitOnP_ne_nil (fun c => !isSlugChar c) rest)
      rw [splitOnP_word word inside] at parts
      cases parts
      refine Or.inr (Or.inr ⟨List.cons_ne_nil c run, ?_⟩)
      rw [dashRuns_word word, List.head?_cons, ne_eq, Option.some.injEq]
      exact ne_dash word
    | false =>
      rw [splitOnP_other word] at parts
      cases parts
      refine Or.inr (Or.inl ⟨rfl, ?_⟩)
      rw [dashRuns_other word]
      split
      · assumption
      · rfl

/-- Behind a part of a word there is a dash only before the next word. -/
theorem trimEnd_dashRuns {first : List Char} {others : List (List Char)}
    (parts : text.splitOnP (!isSlugChar ·) = first :: others) :
    Text.trimEnd (· == '-') (dashRuns text) =
      first ++ (others.filter (!·.isEmpty)).flatMap ('-' :: ·) := by
  induction text generalizing first others with
  | nil =>
    cases parts
    rfl
  | cons c rest ih =>
    obtain ⟨run, more, inside⟩ := List.exists_cons_of_ne_nil
      (List.splitOnP_ne_nil (fun c => !isSlugChar c) rest)
    have behind := ih inside
    cases word : isSlugChar c with
    | true =>
      rw [splitOnP_word word inside] at parts
      cases parts
      have solid : (c == '-') = false := by simpa using ne_dash word
      rw [dashRuns_word word, Text.trimEnd_cons, solid, behind, if_neg (by simp), List.cons_append]
    | false =>
      rw [splitOnP_other word, inside] at parts
      cases parts
      rw [List.nil_append, dashRuns_other word]
      rcases dashRuns_begins inside with rfl | ⟨rfl, dash⟩ | ⟨some_letter, letter⟩
      · cases inside
        rfl
      · rw [if_pos dash, behind]
        rfl
      · have given : run.isEmpty = false := by simpa using some_letter
        rw [if_neg letter, Text.trimEnd_cons, behind, if_neg (by simp [some_letter]), List.filter_cons,
          given]
        rfl

theorem trim_dashRuns (text : List Char) :
    Text.trim (· == '-') (dashRuns text) = ['-'].intercalate (slugRuns text) := by
  induction text with
  | nil => rfl
  | cons c rest ih =>
    obtain ⟨run, more, inside⟩ := List.exists_cons_of_ne_nil
      (List.splitOnP_ne_nil (fun c => !isSlugChar c) rest)
    cases word : isSlugChar c with
    | true =>
      have solid : (c == '-') = false := by simpa using ne_dash word
      have front : (c :: dashRuns rest).dropWhile (· == '-') = c :: dashRuns rest :=
        Text.dropWhile_solid fun d member => by cases member; exact solid
      have runs : slugRuns (c :: rest) = (c :: run) :: more.filter (!·.isEmpty) := by
        rw [slugRuns, splitOnP_word word inside]
        rfl
      rw [dashRuns_word word, Text.trim, front, Text.trimEnd_cons, solid, trimEnd_dashRuns inside,
        if_neg (by simp), runs, intercalate_dash, List.cons_append]
    | false =>
      have runs : slugRuns (c :: rest) = slugRuns rest := by
        rw [slugRuns, splitOnP_other word]
        rfl
      have front : (dashRuns (c :: rest)).dropWhile (· == '-') =
          (dashRuns rest).dropWhile (· == '-') := by
        rw [dashRuns_other word]
        split
        · rfl
        · rfl
      rw [runs, ← ih, Text.trim, Text.trim, front]

/-! ## Slugs of slugs -/

theorem slugRuns_intercalate (solid : ∀ run ∈ runs, run ≠ [] ∧ ∀ c ∈ run, isSlugChar c = true) :
    slugRuns (['-'].intercalate runs) = runs := by
  cases runs with
  | nil => rfl
  | cons run more =>
    have apart : ∀ part ∈ run :: more, ∀ c ∈ part, (!isSlugChar c) = false := by
      intro part member c inside
      rw [(solid part member).2 c inside]
      rfl
    rw [slugRuns, Text.splitOnP_intercalate (by decide) (List.cons_ne_nil run more) apart,
      List.filter_eq_self]
    intro part member
    simpa using (solid part member).1

theorem mem_slugRuns {run : List Char} (member : run ∈ slugRuns text) :
    run ≠ [] ∧ ∀ c ∈ run, isSlugChar c = true := by
  obtain ⟨part, given⟩ := List.mem_filter.mp member
  refine ⟨by simpa using given, fun c inside => ?_⟩
  simpa using Text.false_of_mem_splitOnP part c inside

/-- The characters of a slug. -/
theorem small_of_slug (slug : isSlugChar c = true ∨ c = '-') :
    c.toNat < 128 ∧ c.isUpper = false ∧ c.toLower = c := by
  have range : (97 ≤ c.toNat ∧ c.toNat ≤ 122) ∨ (45 ≤ c.toNat ∧ c.toNat ≤ 57) := by
    rcases slug with word | rfl
    · simp only [isSlugChar, Bool.or_eq_true, Bool.and_eq_true, decide_eq_true_eq] at word
      rcases word with ⟨low, high⟩ | ⟨low, high⟩
      · exact Or.inl ⟨low, high⟩
      · have above : 48 ≤ c.toNat := low
        have below : c.toNat ≤ 57 := high
        omega
    · exact Or.inr (by decide)
  have outside : ¬ (65 ≤ c.toNat ∧ c.toNat ≤ 90) := by omega
  refine ⟨by omega, ?_, ?_⟩
  · cases upper : c.isUpper with
    | false => rfl
    | true =>
      have capital : c.val ≥ 'A'.val ∧ c.val ≤ 'Z'.val := of_decide_eq_true upper
      exact absurd capital outside
  · unfold Char.toLower
    split
    · rename_i capital
      exact absurd capital outside
    · rfl

theorem splitHumps_eq (small : ∀ c ∈ text, c.isUpper = false) : splitHumps text = text := by
  fun_induction splitHumps text with
  | case1 a b rest hump ih =>
    have capital : b.isUpper = true := (Bool.and_eq_true_iff.mp hump).2
    rw [small b (by simp)] at capital
    cases capital
  | case2 a b rest hump ih => rw [ih fun c member => small c (List.mem_cons_of_mem a member)]
  | case3 => rfl

/-- A slug is split into its own words. -/
theorem slugChars_slug (solid : ∀ run ∈ runs, run ≠ [] ∧ ∀ c ∈ run, isSlugChar c = true) :
    slugChars (['-'].intercalate runs) = ['-'].intercalate runs := by
  have chars : ∀ c ∈ ['-'].intercalate runs, isSlugChar c = true ∨ c = '-' := by
    intro c member
    cases runs with
    | nil => cases member
    | cons run more =>
      rw [intercalate_dash, List.mem_append, List.mem_flatMap] at member
      rcases member with inside | ⟨next, listed, inside⟩
      · exact Or.inl ((solid run List.mem_cons_self).2 c inside)
      · rcases List.mem_cons.mp inside with rfl | inside
        · exact Or.inr rfl
        · exact Or.inl ((solid next (List.mem_cons_of_mem run listed)).2 c inside)
  have small := fun c member => small_of_slug (chars c member)
  have whole : splitHumps (['-'].intercalate runs) = ['-'].intercalate runs :=
    splitHumps_eq fun c member => (small c member).2.1
  have lower : Text.lowerChars (['-'].intercalate runs) = ['-'].intercalate runs := by
    rw [Text.lowerChars, Text.lowerFrom_eq [] fun c member => (small c member).1]
    exact (List.map_congr_left fun c member => (small c member).2.2).trans (List.map_id _)
  rw [slugChars, whole, lower, trim_dashRuns, slugRuns_intercalate solid]

/-! ## Slugs of texts -/

theorem ofList_intercalate (runs : List (List Char)) :
    String.ofList (['-'].intercalate runs) = Text.join "-" (runs.map String.ofList) := by
  refine String.toList_inj.mp ?_
  simp [Text.join, String.toList_intercalate]

theorem apply_slug (text : String) :
    apply .slug (.str text) = .ok (.str (Text.join "-" (slugWords text))) := by
  rw [apply, slugChars, trim_dashRuns, ofList_intercalate, slugWords]

theorem isSlugWord_of_mem {text word : String} (member : word ∈ slugWords text) :
    IsSlugWord word := by
  obtain ⟨run, found, rfl⟩ := List.mem_map.mp member
  obtain ⟨some_char, chars⟩ := mem_slugRuns found
  refine ⟨by simpa using some_char, ?_⟩
  rw [String.toList_ofList]
  exact chars

/-- A slug is its own slug. -/
theorem apply_slug_of_isSlug {text : String} (slug : IsSlug text) :
    apply .slug (.str text) = .ok (.str text) := by
  obtain ⟨words, solid, rfl⟩ := slug
  have runs : ∀ run ∈ words.map String.toList, run ≠ [] ∧ ∀ c ∈ run, isSlugChar c = true := by
    intro run member
    obtain ⟨word, listed, rfl⟩ := List.mem_map.mp member
    exact ⟨by simpa using (solid word listed).1, (solid word listed).2⟩
  have text : (Text.join "-" words).toList = ['-'].intercalate (words.map String.toList) := by
    simp [Text.join, String.toList_intercalate]
  rw [apply, text, slugChars_slug runs, ← text, String.ofList_toList]

end

/-- The slug of a text is made of the words of the text, runs of small letters and digits, with single
dashes between them; it is empty if there are no words.  The slug of a slug is the same slug, and the
texts that are their own slugs are the slugs. -/
theorem slugs_are_words (text : String) :
    (apply .slug (.str text) = .ok (.str (Text.join "-" (slugWords text))) ∧
      ∀ word ∈ slugWords text, IsSlugWord word) ∧
    apply .slug (.str (Text.join "-" (slugWords text))) =
      .ok (.str (Text.join "-" (slugWords text))) ∧
    (apply .slug (.str text) = .ok (.str text) ↔ IsSlug text) := by
  have words : ∀ word ∈ slugWords text, IsSlugWord word := fun word => isSlugWord_of_mem
  refine ⟨⟨apply_slug text, words⟩, apply_slug_of_isSlug ⟨_, words, rfl⟩, fun same => ?_,
    apply_slug_of_isSlug⟩
  have own := (apply_slug text).symm.trans same
  have joined : Text.join "-" (slugWords text) = text := Value.str.inj (Except.ok.inj own)
  exact ⟨slugWords text, words, joined.symm⟩

/-- A capital whose lower case is a small letter and a mark on it. -/
example : slugWords "camelCase, aİB" = ["camel", "case", "ai", "b"] := by decide +kernel

end Transform

end Curator
