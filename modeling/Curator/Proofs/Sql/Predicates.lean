import Curator.Proofs.Outcome
import Curator.Sql.Predicate
/-!
# Predicates that are made

What a predicate is when its operand is accepted: its text, with the operand left out of it, and its
parameters.
-/

set_option autoImplicit false

namespace Curator.Sql

open Outcome

variable {expr mark : String} {operand : Value} {f : Fragment}

theorem scalar_ok {operand v : Value} (ok : scalar operand = .ok v) : v = operand := by
  cases operand with
  | list items => cases ok
  | dict entries => cases ok
  | _ => exact (Except.ok.inj ok).symm

theorem mapM_scalar_ok {items values : List Value} (ok : items.mapM scalar = .ok values) :
    values = items := by
  have pairs := mapM_ok ok
  clear ok
  induction pairs with
  | nil => rfl
  | cons head _ ih => rw [scalar_ok head, ih]

theorem text?_ok {v : Value} {text : String} (ok : v.text? = .ok text) : text = v.text := by
  unfold Value.text? at ok
  split at ok
  · exact (Except.ok.inj ok).symm
  · cases ok

theorem compared_ok {symbol : String} (ok : compared symbol expr operand mark = .ok f) :
    f = ⟨expr ++ " " ++ symbol ++ " " ++ mark, [operand]⟩ := by
  obtain ⟨v, v_ok, ok⟩ := bind_ok ok
  cases scalar_ok v_ok
  exact (pure_ok ok).symm

/-- The pattern that finds a text at a place. -/
def likeOperand (place : LikePlace) (operand : Value) : Value :=
  .str (likePattern place (escapeLike operand.text))

/-- The pattern that finds a text in lower case. -/
def loweredOperand (operand : Value) : Value :=
  .str (likePattern .anywhere (Text.lower (escapeLike operand.text)))

theorem liked_ok {place : LikePlace} {keyword : String}
    (ok : liked place keyword expr operand mark = .ok f) :
    f = ⟨expr ++ " " ++ keyword ++ " " ++ mark ++ " ESCAPE '\\'", [likeOperand place operand]⟩ := by
  obtain ⟨v, v_ok, ok⟩ := bind_ok ok
  cases scalar_ok v_ok
  obtain ⟨text, text_ok, ok⟩ := bind_ok ok
  cases text?_ok text_ok
  exact (pure_ok ok).symm

theorem likedInLowerCase_ok (ok : likedInLowerCase expr operand mark = .ok f) :
    f = ⟨"LOWER(CAST(" ++ expr ++ " AS TEXT))" ++ " " ++ "LIKE" ++ " " ++ mark ++ " ESCAPE '\\'",
      [loweredOperand operand]⟩ := by
  obtain ⟨v, v_ok, ok⟩ := bind_ok ok
  cases scalar_ok v_ok
  obtain ⟨text, text_ok, ok⟩ := bind_ok ok
  cases text?_ok text_ok
  cases pure_ok ok
  have same : "LOWER(CAST(" ++ expr ++ " AS TEXT)) LIKE " =
      "LOWER(CAST(" ++ expr ++ " AS TEXT))" ++ " " ++ "LIKE" ++ " " := by
    apply String.toList_inj.mp
    simp
  rw [same]
  rfl

theorem listed_ok {keyword : String} (ok : listed keyword expr operand mark = .ok f) :
    ∃ items, operand = .list items ∧ items ≠ [] ∧
      f = ⟨expr ++ " " ++ keyword ++ " (" ++ Text.join ", " (items.map fun _ => mark) ++ ")",
        items⟩ := by
  unfold listed at ok
  split at ok
  · rename_i first rest
    obtain ⟨values, values_ok, ok⟩ := bind_ok ok
    cases mapM_scalar_ok values_ok
    exact ⟨first :: rest, rfl, by simp, (pure_ok ok).symm⟩
  · cases ok

/-- A test for null or for its absence. -/
def nullTest (null : Bool) (expr : String) : Fragment :=
  ⟨if null then expr ++ " IS NULL" else expr ++ " IS NOT NULL", []⟩

theorem nullCheck_ok {wantNull : Bool} (ok : nullCheck wantNull expr operand = .ok f) :
    ∃ asked, flag operand = .ok asked ∧ f = nullTest (asked == wantNull) expr := by
  obtain ⟨asked, asked_ok, ok⟩ := bind_ok ok
  exact ⟨asked, asked_ok, (pure_ok ok).symm⟩

theorem ranged_ok (ok : ranged expr operand mark = .ok f) :
    ∃ low high, operand = .list [low, high] ∧
      f = ⟨expr ++ " BETWEEN " ++ mark ++ " AND " ++ mark, [low, high]⟩ := by
  unfold ranged at ok
  split at ok
  · rename_i low high
    obtain ⟨_, low_ok, ok⟩ := bind_ok ok
    obtain ⟨_, high_ok, ok⟩ := bind_ok ok
    cases scalar_ok low_ok
    cases scalar_ok high_ok
    exact ⟨low, high, rfl, (pure_ok ok).symm⟩
  · cases ok

/-- Equality tests for null where the operand is null, and compares otherwise. -/
theorem eq_ok (ok : Operator.eq.render expr operand mark = .ok f) :
    (operand.isNull = true ∧ f = nullTest true expr) ∨
      (operand.isNull = false ∧ compared "=" expr operand mark = .ok f) := by
  simp only [Operator.render] at ok
  split at ok
  · rename_i null
    exact Or.inl ⟨null, (Except.ok.inj ok).symm⟩
  · rename_i given
    exact Or.inr ⟨by simpa using given, ok⟩

theorem neq_ok (ok : Operator.neq.render expr operand mark = .ok f) :
    (operand.isNull = true ∧ f = nullTest false expr) ∨
      (operand.isNull = false ∧ compared "<>" expr operand mark = .ok f) := by
  simp only [Operator.render] at ok
  split at ok
  · rename_i null
    exact Or.inl ⟨null, (Except.ok.inj ok).symm⟩
  · rename_i given
    exact Or.inr ⟨by simpa using given, ok⟩

/-- A predicate has a blank behind its expression. -/
theorem Operator.render_spaced {operator : Operator}
    (ok : operator.render expr operand mark = .ok f) : ' ' ∈ f.sql.toList := by
  have nullTest_spaced : ∀ null : Bool, ' ' ∈ (nullTest null expr).sql.toList := by
    intro null
    cases null <;> simp [nullTest]
  cases operator with
  | eq =>
    rcases eq_ok ok with ⟨_, rfl⟩ | ⟨_, ok⟩
    · exact nullTest_spaced true
    · rw [compared_ok ok]
      simp
  | neq =>
    rcases neq_ok ok with ⟨_, rfl⟩ | ⟨_, ok⟩
    · exact nullTest_spaced false
    · rw [compared_ok ok]
      simp
  | lt | lte | gt | gte =>
    rw [compared_ok ok]
    simp
  | isIn | notIn =>
    obtain ⟨items, _, _, rfl⟩ := listed_ok ok
    simp
  | contains | notContains | startsWith | notStartsWith | endsWith | notEndsWith =>
    rw [liked_ok ok]
    simp
  | icontains =>
    rw [likedInLowerCase_ok ok]
    simp
  | isNull | isNotNull =>
    obtain ⟨asked, _, rfl⟩ := nullCheck_ok ok
    exact nullTest_spaced _
  | between =>
    obtain ⟨low, high, _, rfl⟩ := ranged_ok ok
    simp

end Curator.Sql

/-!
## Operands of one shape

Two operands that an operator makes the same text of: of an operand only its shape shows in the text
of a predicate, never its contents.
-/

namespace Curator.Sql

open Outcome

/-- Operands of one shape: both null, both single values other than null, or lists of one length. -/
inductive SameShape : Value → Value → Prop where
  | null : SameShape .null .null
  | single {a b : Value} (first : a.Plain) (some_first : a ≠ .null) (second : b.Plain)
      (some_second : b ≠ .null) : SameShape a b
  | list {xs ys : List Value} (length : xs.length = ys.length) : SameShape (.list xs) (.list ys)

/-- Whether an operator reads its operand as a truth value. -/
def Operator.checksNull : Operator → Bool
  | .isNull => true
  | .isNotNull => true
  | _ => false

/-- Operands of which an operator makes the same text. -/
def Operator.Alike (operator : Operator) (a b : Value) : Prop :=
  ∀ (expr mark : String) (f g : Fragment), operator.render expr a mark = .ok f →
    operator.render expr b mark = .ok g → f.sql = g.sql

theorem Operator.Alike.refl (operator : Operator) (a : Value) : operator.Alike a a := by
  intro expr mark f g first second
  rw [first] at second
  rw [Except.ok.inj second]

section

variable {a b : Value} {expr mark : String} {f g : Fragment}

theorem isNull_of_ne {v : Value} (given : v ≠ .null) : v.isNull = false := by
  cases v with
  | null => exact absurd rfl given
  | _ => rfl

/-- Operands of one shape are null together. -/
theorem SameShape.isNull (same : SameShape a b) : a.isNull = b.isNull := by
  cases same with
  | null => rfl
  | single _ some_first _ some_second => rw [isNull_of_ne some_first, isNull_of_ne some_second]
  | list _ => rfl

/-- A comparison with one value shows nothing of it. -/
theorem compared_alike {symbol : String} (first : compared symbol expr a mark = .ok f)
    (second : compared symbol expr b mark = .ok g) : f.sql = g.sql := by
  rw [compared_ok first, compared_ok second]

theorem Operator.alike_of_order {operator : Operator} (order : operator = .gt ∨ operator = .lt)
    (a b : Value) : operator.Alike a b := by
  intro expr mark f g first second
  rcases order with rfl | rfl
  · exact compared_alike first second
  · exact compared_alike first second

/-- A null check shows whether its operand asks for null or for its absence. -/
theorem Operator.alike_of_flag {operator : Operator} (checks : operator.checksNull = true)
    (same : flag a = flag b) : operator.Alike a b := by
  have check : ∀ {wantNull expr f g}, nullCheck wantNull expr a = .ok f →
      nullCheck wantNull expr b = .ok g → f.sql = g.sql := by
    intro wantNull expr f g first second
    obtain ⟨asked, first_asks, rfl⟩ := nullCheck_ok first
    obtain ⟨other, second_asks, rfl⟩ := nullCheck_ok second
    rw [same, second_asks] at first_asks
    cases first_asks
    rfl
  intro expr mark f g first second
  cases operator with
  | isNull | isNotNull => exact check first second
  | _ => cases checks

/-- Whether two values are equal shows no more of them than whether they are null. -/
theorem Operator.alike_of_isNull {operator : Operator} (equality : operator = .eq ∨ operator = .neq)
    (nulls : a.isNull = b.isNull) : operator.Alike a b := by
  intro expr mark f g first second
  rcases equality with rfl | rfl
  · rcases eq_ok first with ⟨null, rfl⟩ | ⟨given, first⟩
    · rcases eq_ok second with ⟨_, rfl⟩ | ⟨given, _⟩
      · rfl
      · simp [null, given] at nulls
    · rcases eq_ok second with ⟨null, _⟩ | ⟨_, second⟩
      · simp [null, given] at nulls
      · exact compared_alike first second
  · rcases neq_ok first with ⟨null, rfl⟩ | ⟨given, first⟩
    · rcases neq_ok second with ⟨_, rfl⟩ | ⟨given, _⟩
      · rfl
      · simp [null, given] at nulls
    · rcases neq_ok second with ⟨null, _⟩ | ⟨_, second⟩
      · simp [null, given] at nulls
      · exact compared_alike first second

/-- Every other operator shows no more than the shape of its operand. -/
theorem Operator.alike_of_shape {operator : Operator} (reads : operator.checksNull = false)
    (same : SameShape a b) : operator.Alike a b := by
  intro expr mark f g first second
  cases operator with
  | eq => exact alike_of_isNull (Or.inl rfl) same.isNull expr mark f g first second
  | neq => exact alike_of_isNull (Or.inr rfl) same.isNull expr mark f g first second
  | lt | lte | gt | gte => exact compared_alike first second
  | isIn | notIn =>
    obtain ⟨xs, rfl, _, rfl⟩ := listed_ok first
    obtain ⟨ys, rfl, _, rfl⟩ := listed_ok second
    cases same with
    | single plain _ _ _ => exact absurd rfl (plain.1 xs)
    | list length => simp only [List.map_const', length]
  | contains | notContains | startsWith | notStartsWith | endsWith | notEndsWith =>
    rw [liked_ok first, liked_ok second]
  | icontains => rw [likedInLowerCase_ok first, likedInLowerCase_ok second]
  | isNull | isNotNull => cases reads
  | between =>
    obtain ⟨_, _, _, rfl⟩ := ranged_ok first
    obtain ⟨_, _, _, rfl⟩ := ranged_ok second
    rfl

end

end Curator.Sql
