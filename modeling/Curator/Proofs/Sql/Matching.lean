import Curator.Proofs.Sql.Predicates
import Mathlib.Data.List.Infix
/-!
# Patterns of LIKE

What a pattern matches, and that escaping an operand takes the meaning of wildcards from it: whatever
its characters are, the operators that look for text find it as it stands.
-/

set_option autoImplicit false

namespace Curator.Sql

open Outcome

/-! ## Matching -/

/-- A part of a pattern: a character as it stands, any one character, or a run of any characters. -/
inductive LikePart where
  | exactly (c : Char)
  | one
  | run
  deriving DecidableEq, Repr

def LikePart.ofChar : Char → LikePart
  | '%' => .run
  | '_' => .one
  | c => .exactly c

/-- The parts of a pattern.  A character behind the escape character stands for itself. -/
def likeParts (escape : Char) : List Char → List LikePart
  | [] => []
  | [c] => [.ofChar c]
  | c :: next :: rest =>
    if c = escape then .exactly next :: likeParts escape rest
    else .ofChar c :: likeParts escape (next :: rest)

/-- Whether a text is made up as the parts say.  A run may end anywhere. -/
def isMadeUp : List LikePart → List Char → Bool
  | [], text => text.isEmpty
  | .exactly _ :: _, [] => false
  | .exactly c :: rest, x :: text => x == c && isMadeUp rest text
  | .one :: _, [] => false
  | .one :: rest, _ :: text => isMadeUp rest text
  | .run :: rest, text => text.tails.any fun behind => isMadeUp rest behind

/-- Whether a text matches a pattern with an escape character. -/
def isLike (escape : Char) (pattern text : String) : Bool :=
  isMadeUp (likeParts escape pattern.toList) text.toList

section

variable {parts : List LikePart} {text : List Char}

theorem isMadeUp_exactly (word : List Char) :
    isMadeUp (word.map .exactly ++ parts) text = true ↔
      ∃ behind, text = word ++ behind ∧ isMadeUp parts behind = true := by
  induction word generalizing text with
  | nil => simp
  | cons c rest ih =>
    cases text with
    | nil => simp [isMadeUp]
    | cons x others =>
      simp only [List.map_cons, List.cons_append, isMadeUp, Bool.and_eq_true, beq_iff_eq, ih,
        List.cons.injEq]
      constructor
      · rintro ⟨rfl, behind, rfl, made⟩
        exact ⟨behind, ⟨rfl, rfl⟩, made⟩
      · rintro ⟨behind, ⟨rfl, rfl⟩, made⟩
        exact ⟨rfl, behind, rfl, made⟩

theorem isMadeUp_run : isMadeUp (.run :: parts) text = true ↔
    ∃ before behind, text = before ++ behind ∧ isMadeUp parts behind = true := by
  rw [isMadeUp, List.any_eq_true]
  constructor
  · rintro ⟨behind, tail, made⟩
    obtain ⟨before, rfl⟩ := (List.mem_tails behind text).mp tail
    exact ⟨before, behind, rfl, made⟩
  · rintro ⟨before, behind, rfl, made⟩
    exact ⟨behind, (List.mem_tails _ _).mpr (List.suffix_append before behind), made⟩

theorem isMadeUp_last_run : isMadeUp [.run] text = true :=
  isMadeUp_run.mpr ⟨text, [], (List.append_nil text).symm, rfl⟩

end

/-! ## Escaped operands -/

theorem likeParts_escaped (word rest : List Char) :
    likeParts '\\' (word.flatMap escapeLikeChar ++ rest) =
      word.map .exactly ++ likeParts '\\' rest := by
  induction word with
  | nil => rfl
  | cons c others ih =>
    have one : ∀ more, likeParts '\\' (escapeLikeChar c ++ more) =
        .exactly c :: likeParts '\\' more := by
      intro more
      unfold escapeLikeChar
      split
      · rfl
      · rename_i plain
        simp only [not_or] at plain
        have part : LikePart.ofChar c = .exactly c := by
          unfold LikePart.ofChar
          split
          · exact absurd rfl plain.2.1
          · exact absurd rfl plain.2.2
          · rfl
        cases more with
        | nil => simp [likeParts, part]
        | cons next more => simp [likeParts, part, plain.1]
    rw [List.flatMap_cons, List.append_assoc, one, ih, List.map_cons, List.cons_append]

/-- A text has another at a place. -/
def LikePlace.Has (place : LikePlace) (text word : String) : Prop :=
  match place with
  | .anywhere => word.toList <:+: text.toList
  | .atStart => word.toList <+: text.toList
  | .atEnd => word.toList <:+ text.toList

/-- The pattern for a place finds an escaped word there and nothing else. -/
theorem isLike_escaped (place : LikePlace) (word text : String) :
    isLike '\\' (likePattern place (escapeLike word)) text = true ↔ place.Has text word := by
  have before : ∀ behind, likeParts '\\' ('%' :: behind) = .run :: likeParts '\\' behind := by
    intro behind
    cases behind <;> rfl
  have only : likeParts '\\' (word.toList.flatMap escapeLikeChar) = word.toList.map .exactly := by
    have alone := likeParts_escaped word.toList []
    rw [List.append_nil] at alone
    exact alone.trans (List.append_nil _)
  cases place with
  | anywhere =>
    have parts : likeParts '\\' (likePattern .anywhere (escapeLike word)).toList =
        .run :: (word.toList.map .exactly ++ [.run]) := by
      simp only [likePattern, escapeLike, String.toList_append, String.toList_ofList]
      exact (before _).trans (congrArg _ (likeParts_escaped word.toList ['%']))
    rw [isLike, parts, isMadeUp_run]
    constructor
    · rintro ⟨front, behind, whole, made⟩
      obtain ⟨rest, rfl, _⟩ := isMadeUp_exactly word.toList |>.mp made
      exact ⟨front, rest, (List.append_assoc _ _ _).trans whole.symm⟩
    · rintro ⟨front, rest, whole⟩
      exact ⟨front, word.toList ++ rest, by rw [← whole, List.append_assoc],
        (isMadeUp_exactly word.toList).mpr ⟨rest, rfl, isMadeUp_last_run⟩⟩
  | atStart =>
    have parts : likeParts '\\' (likePattern .atStart (escapeLike word)).toList =
        word.toList.map .exactly ++ [.run] := by
      simp only [likePattern, escapeLike, String.toList_append, String.toList_ofList]
      exact likeParts_escaped word.toList ['%']
    rw [isLike, parts, isMadeUp_exactly]
    constructor
    · rintro ⟨rest, whole, _⟩
      exact ⟨rest, whole.symm⟩
    · rintro ⟨rest, whole⟩
      exact ⟨rest, whole.symm, isMadeUp_last_run⟩
  | atEnd =>
    have parts : likeParts '\\' (likePattern .atEnd (escapeLike word)).toList =
        .run :: (word.toList.map .exactly ++ []) := by
      simp only [likePattern, escapeLike, String.toList_append, String.toList_ofList]
      exact (before _).trans (congrArg _ (only.trans (List.append_nil _).symm))
    rw [isLike, parts, isMadeUp_run]
    constructor
    · rintro ⟨front, behind, whole, made⟩
      obtain ⟨rest, rfl, ends⟩ := (isMadeUp_exactly word.toList).mp made
      have none : rest = [] := by simpa [isMadeUp] using ends
      subst none
      exact ⟨front, by rw [whole, List.append_nil]⟩
    · rintro ⟨front, whole⟩
      exact ⟨front, word.toList, whole.symm, (isMadeUp_exactly word.toList).mpr
        ⟨[], (List.append_nil _).symm, rfl⟩⟩

/-! ## Lower case -/

/-- The characters that are escaped. -/
def Special (c : Char) : Prop := c = '\\' ∨ c = '%' ∨ c = '_'

instance (c : Char) : Decidable (Special c) :=
  inferInstanceAs (Decidable (c = '\\' ∨ c = '%' ∨ c = '_'))

theorem escapeLikeChar_plain {c : Char} (plain : ¬ Special c) : escapeLikeChar c = [c] :=
  if_neg plain

/-- The runs of capital letters lead past the characters that are escaped. -/
theorem special_lt {n : Nat} (far : 128 ≤ n) : 96 ≤ Text.mapByRuns Text.lowerRuns n := by
  have runs : ∀ run ∈ Text.lowerRuns, (96 : Int) ≤ run.first + run.offset := by decide +kernel
  unfold Text.mapByRuns
  split
  · rename_i run found
    have inside := List.find?_some found
    simp only [Bool.and_eq_true, decide_eq_true_eq] at inside
    have image := runs run (List.mem_of_find?_eq_some found)
    omega
  · omega

theorem not_special_ofNat {n : Nat} (far : 96 ≤ n) : ¬ Special (Char.ofNat n) := by
  by_cases valid : n.isValidChar
  · have code : (Char.ofNat n).toNat = n :=
      congrArg Char.toNat (dif_pos valid : Char.ofNat n = Char.ofNatAux n valid)
    rintro (same | same | same)
    all_goals
      rw [same] at code
      revert code
      simp only [Char.reduceToNat]
      omega
  · have zero : Char.ofNat n = Char.ofNat 0 := dif_neg valid
    rw [zero]
    decide

/-- Only an escaped character has an escaped character for its small form. -/
theorem lowerChar_plain {c : Char} (plain : ¬ Special c) : ∀ x ∈ Text.lowerChar c, ¬ Special x := by
  unfold Text.lowerChar
  split
  · rename_i ascii
    have all : ∀ n < 128, ¬ Special (Char.ofNat n) → ¬ Special (Char.ofNat n).toLower := by decide
    have here := all c.toNat ascii
    rw [Char.ofNat_toNat] at here
    simpa using here plain
  · split
    · -- the capital i with a dot is two characters when small
      rw [List.forall_mem_cons, List.forall_mem_singleton]
      decide
    · rename_i far _
      simpa using not_special_ofNat (special_lt (Nat.le_of_not_lt far))

theorem lowerChar_special {c : Char} (special : Special c) : Text.lowerChar c = [c] := by
  rcases special with rfl | rfl | rfl <;> rfl

theorem flatMap_plain {text : List Char} (plain : ∀ c ∈ text, ¬ Special c) :
    text.flatMap escapeLikeChar = text := by
  induction text with
  | nil => rfl
  | cons c rest ih =>
    obtain ⟨first, others⟩ := List.forall_mem_cons.mp plain
    rw [List.flatMap_cons, escapeLikeChar_plain first, ih others, List.singleton_append]

theorem meetsCased_cons (c : Char) (rest : List Char) : Text.meetsCased (c :: rest) =
    if Text.inRanges Text.caseIgnorableRanges c then Text.meetsCased rest
    else Text.inRanges Text.casedRanges c := by
  unfold Text.meetsCased
  rw [List.dropWhile_cons]
  cases Text.inRanges Text.caseIgnorableRanges c <;> rfl

/-- Escaping changes nothing about the case around a place in a text, whichever way it is read. -/
theorem meetsCased_flatMap {escaped : Char → List Char}
    (plain : ∀ c, ¬ Special c → escaped c = [c])
    (special : ∀ c, Special c → ∃ x more, escaped c = x :: more ∧ Special x) (text : List Char) :
    Text.meetsCased (text.flatMap escaped) = Text.meetsCased text := by
  have apart : ∀ c, Special c → Text.inRanges Text.caseIgnorableRanges c = false ∧
      Text.inRanges Text.casedRanges c = false := by
    rintro c (rfl | rfl | rfl)
    all_goals decide +kernel
  induction text with
  | nil => rfl
  | cons c rest ih =>
    rw [List.flatMap_cons, meetsCased_cons c rest]
    by_cases here : Special c
    · obtain ⟨x, more, first, too⟩ := special c here
      rw [first, List.cons_append, meetsCased_cons, (apart c here).1, (apart c here).2,
        (apart x too).1, (apart x too).2]
      rfl
    · rw [plain c here, List.singleton_append, meetsCased_cons, ih]

theorem lowerFrom_escaped (before text : List Char) :
    Text.lowerFrom (before.flatMap fun c => (escapeLikeChar c).reverse)
      (text.flatMap escapeLikeChar) = (Text.lowerFrom before text).flatMap escapeLikeChar := by
  have special : ∀ c, Special c → escapeLikeChar c = ['\\', c] := fun c here => if_pos here
  -- a sigma is final by what stands on both sides of it, and one side is held in reverse
  have behind : ∀ rest, Text.meetsCased (rest.flatMap escapeLikeChar) = Text.meetsCased rest :=
    meetsCased_flatMap (fun c => escapeLikeChar_plain) fun c here =>
      ⟨'\\', [c], special c here, Or.inl rfl⟩
  have ahead : ∀ before, Text.meetsCased (before.flatMap fun c => (escapeLikeChar c).reverse) =
      Text.meetsCased before :=
    meetsCased_flatMap (fun c plain => by rw [escapeLikeChar_plain plain]; rfl)
      fun c here => ⟨c, ['\\'], by rw [special c here]; rfl, here⟩
  induction text generalizing before with
  | nil => rfl
  | cons c rest ih =>
    have next := ih (c :: before)
    rw [List.flatMap_cons] at next ⊢
    rw [Text.lowerFrom, List.flatMap_append, ← next]
    by_cases here : Special c
    · have small : c.toNat ≠ 0x3A3 := by
        rcases here with rfl | rfl | rfl <;> decide
      have slash : Text.lowerChar '\\' = ['\\'] := lowerChar_special (Or.inl rfl)
      rw [special c here, if_neg small, lowerChar_special here]
      simp only [List.cons_append, List.nil_append, Text.lowerFrom, if_neg small,
        lowerChar_special here, slash, List.flatMap_cons, List.flatMap_nil, special c here]
      rfl
    · rw [escapeLikeChar_plain here, List.singleton_append, Text.lowerFrom, ahead, behind]
      congr 1
      split
      · -- a capital sigma has two small forms
        refine (flatMap_plain fun x member => ?_).symm
        rw [List.mem_singleton.mp member]
        split
        · decide
        · decide
      · exact (flatMap_plain (lowerChar_plain here)).symm

theorem lower_escapeLike (text : String) :
    Text.lower (escapeLike text) = escapeLike (Text.lower text) := by
  have chars := lowerFrom_escaped [] text.toList
  rw [Text.lower, escapeLike, escapeLike, Text.lower, String.toList_ofList, String.toList_ofList]
  exact congrArg String.ofList chars

/-! ## The operators that look for text -/

/-- The operator that looks for an operand at a place, or that looks for its absence. -/
def LikePlace.operator : LikePlace → Bool → Operator
  | .anywhere, true => .contains
  | .anywhere, false => .notContains
  | .atStart, true => .startsWith
  | .atStart, false => .notStartsWith
  | .atEnd, true => .endsWith
  | .atEnd, false => .notEndsWith

section

variable {operand : Value} {word : String} (plain : scalar operand = .ok operand)
  (written : operand.text? = .ok word) (expr mark : String)

include plain written

theorem liked_eq (place : LikePlace) (keyword : String) :
    liked place keyword expr operand mark =
      .ok ⟨expr ++ " " ++ keyword ++ " " ++ mark ++ " ESCAPE '\\'",
        [.str (likePattern place (escapeLike word))]⟩ := by
  unfold liked
  rw [plain, ok_bind, written]
  rfl

/-- Whatever the characters of an operand are, the operators that look for text look for it as it
stands.  The pattern that one binds matches the texts that have the operand at its place, and its
opposite binds the same pattern; the pattern of the operator that heeds no case matches the texts that
have the small form of the operand. -/
theorem patterns_are_literal :
    (∀ place : LikePlace, ∃ pattern,
      (place.operator true).render expr operand mark =
        .ok ⟨expr ++ " LIKE " ++ mark ++ " ESCAPE '\\'", [.str pattern]⟩ ∧
      (place.operator false).render expr operand mark =
        .ok ⟨expr ++ " NOT LIKE " ++ mark ++ " ESCAPE '\\'", [.str pattern]⟩ ∧
      ∀ text, isLike '\\' pattern text = true ↔ place.Has text word) ∧
    ∃ pattern, Operator.icontains.render expr operand mark =
        .ok ⟨"LOWER(CAST(" ++ expr ++ " AS TEXT)) LIKE " ++ mark ++ " ESCAPE '\\'",
          [.str pattern]⟩ ∧
      ∀ text, isLike '\\' pattern text = true ↔
        LikePlace.anywhere.Has text (Text.lower word) := by
  constructor
  · intro place
    refine ⟨likePattern place (escapeLike word), ?_, ?_, isLike_escaped place word⟩
    · have rendered := liked_eq plain written expr mark place "LIKE"
      simp only [String.append_assoc] at rendered ⊢
      cases place <;> exact rendered
    · have rendered := liked_eq plain written expr mark place "NOT LIKE"
      simp only [String.append_assoc] at rendered ⊢
      cases place <;> exact rendered
  · refine ⟨likePattern .anywhere (escapeLike (Text.lower word)), ?_, isLike_escaped .anywhere _⟩
    rw [← lower_escapeLike, Operator.render, likedInLowerCase, plain, ok_bind, written]
    rfl

end

end Curator.Sql

namespace Curator.Sample

open Sql

/-- A word with all the wildcards is found where it stands, and not where they would stand for it. -/
theorem wildcards_found : ∃ pattern,
    Operator.contains.render "\"title\"" (.str "5%_\\") "?" =
      .ok ⟨"\"title\" LIKE ? ESCAPE '\\'", [.str pattern]⟩ ∧
    isLike '\\' pattern "up 5%_\\ to" = true ∧ isLike '\\' pattern "up 50 to\\" = false := by
  have plain : scalar (.str "5%_\\") = .ok (.str "5%_\\") := rfl
  have written : (Value.str "5%_\\").text? = .ok "5%_\\" := rfl
  have literal := (patterns_are_literal plain written "\"title\"" "?").1
  obtain ⟨pattern, asked, _, finds⟩ := literal .anywhere
  refine ⟨pattern, asked, (finds _).mpr ?_, Bool.eq_false_iff.mpr fun found => ?_⟩
  · exact ⟨"up ".toList, " to".toList, by decide⟩
  · have absent : ¬ "5%_\\".toList <:+: "up 50 to\\".toList := by decide
    exact absent ((finds _).mp found)

end Curator.Sample
