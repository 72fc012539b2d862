import Curator.Number.Binary64
import Mathlib.Algebra.Order.Floor.Div
/-!
# Quotients rounded up

The floating-point quotient of two natural numbers and the least integer that is not below it.  For a
dividend of at most 53 bits the one rounding on the way does no harm: it moves no quotient past an
integer, and onto one only where the quotient is too small for the format and becomes zero.
-/

set_option autoImplicit false

namespace Curator.Number

/-! ## The nearest integer -/

section

variable {num den k : Nat} (positive : 0 < den)

include positive

theorem nearestQuotient_le (below : num ≤ k * den) : nearestQuotient num den ≤ k := by
  have parts := Nat.div_add_mod num den
  have quotient : num / den ≤ k := Nat.div_le_of_le_mul (by rwa [Nat.mul_comm])
  unfold nearestQuotient
  simp only
  split
  · rename_i up
    -- what is rounded up is not whole
    have rest : 0 < num % den := by omega
    have less : num / den < k := by
      refine Nat.lt_of_mul_lt_mul_left (a := den) ?_
      rw [Nat.mul_comm den k]
      omega
    omega
  · exact quotient

theorem lt_nearestQuotient (above : 2 * (k * den) + den < 2 * num) :
    k < nearestQuotient num den := by
  have parts := Nat.div_add_mod num den
  have rest := Nat.mod_lt num positive
  have quotient : k ≤ num / den := by
    refine (Nat.le_div_iff_mul_le positive).mpr ?_
    omega
  unfold nearestQuotient
  simp only
  split
  · omega
  · rename_i down
    refine Nat.lt_of_le_of_ne quotient fun same => ?_
    rw [← same, Nat.mul_comm den k] at parts
    omega

theorem nearestQuotient_eq_zero (small : 2 * num ≤ den) : nearestQuotient num den = 0 := by
  have less : num < den := by omega
  simp only [nearestQuotient, Nat.div_eq_of_lt less, Nat.mod_eq_of_lt less]
  rw [if_neg]
  omega

end

/-! ## Scaling -/

theorem scaledByTwo_neg (num den p : Nat) :
    scaledByTwo num den (-(p : Int)) = (num * 2 ^ p, den) := by
  unfold scaledByTwo
  split
  · have none : p = 0 := by omega
    subst none
    simp
  · simp

namespace Binary64

theorem fraction_neg (m p : Nat) : fraction m (-(p : Int)) = (m, 2 ^ p) := by
  unfold fraction
  split
  · have none : p = 0 := by omega
    subst none
    simp
  · simp

/-- A fraction scaled beyond its bits has a significand of 53 bits. -/
theorem significand_full {num den r : Nat} (some_num : 0 < num)
    (enough : Nat.log2 den + 53 ≤ Nat.log2 num + r) : den * 2 ^ 52 ≤ num * 2 ^ r :=
  calc den * 2 ^ 52 ≤ 2 ^ (Nat.log2 den + 1) * 2 ^ 52 :=
        Nat.mul_le_mul_right _ (Nat.lt_log2_self (n := den)).le
    _ = 2 ^ (Nat.log2 den + 53) := by rw [← Nat.pow_add]
    _ ≤ 2 ^ (Nat.log2 num + r) := Nat.pow_le_pow_right Nat.two_pos enough
    _ = 2 ^ Nat.log2 num * 2 ^ r := Nat.pow_add ..
    _ ≤ num * 2 ^ r := Nat.mul_le_mul_right _ (Nat.log2_self_le some_num.ne')

/-- The guess of an exponent is cut off at the least one. -/
theorem cutoff_eq {num den r : Nat} (full : den * 2 ^ 52 ≤ num * 2 ^ r) :
    ∃ p : Nat, p ≤ 1074 ∧ max leastExponent (-(r : Int)) = -(p : Int) ∧
      (p = 1074 ∨ den * 2 ^ 52 ≤ num * 2 ^ p) := by
  unfold leastExponent
  rcases Nat.lt_or_ge 1074 r with beyond | within
  · exact ⟨1074, le_rfl, by omega, Or.inl rfl⟩
  · exact ⟨r, within, by omega, Or.inr full⟩

/-- The exponent for a fraction below `2 ^ 53` is not positive, and unless it is the least one the
significand has 53 bits with it. -/
theorem exponentFor_eq {num den : Nat} (some_num : 0 < num) (below : num < den * 2 ^ 53) :
    ∃ p : Nat, p ≤ 1074 ∧ exponentFor num den = -(p : Int) ∧
      (p = 1074 ∨ den * 2 ^ 52 ≤ num * 2 ^ p) := by
  have bits : Nat.log2 num < Nat.log2 den + 54 := by
    apply (Nat.log2_lt some_num.ne').mpr
    calc num < den * 2 ^ 53 := below
      _ ≤ 2 ^ (Nat.log2 den + 1) * 2 ^ 53 :=
        Nat.mul_le_mul_right _ (Nat.lt_log2_self (n := den)).le
      _ = 2 ^ (Nat.log2 den + 54) := by rw [← Nat.pow_add]
  unfold exponentFor
  rcases Nat.lt_or_ge (Nat.log2 den + 52) (Nat.log2 num) with more | less
  · -- the guess is one too many
    have guess : (Nat.log2 num : Int) - (Nat.log2 den : Int) - 52 = 1 := by omega
    have short : num < den * Nat.pow 2 (1 : Int).toNat * Nat.pow 2 52 := by
      calc num < den * 2 ^ 53 := below
        _ = den * Nat.pow 2 (1 : Int).toNat * Nat.pow 2 52 := by rw [Nat.mul_assoc]; rfl
    have scaled : scaledByTwo num den 1 = (num, den * Nat.pow 2 (1 : Int).toNat) := rfl
    simp only [guess, scaled, if_pos short]
    exact cutoff_eq (r := 0) (significand_full some_num (by omega))
  · obtain ⟨q, count⟩ : ∃ q, q + Nat.log2 num = Nat.log2 den + 52 :=
      ⟨Nat.log2 den + 52 - Nat.log2 num, by omega⟩
    have guess : (Nat.log2 num : Int) - (Nat.log2 den : Int) - 52 = -(q : Int) := by omega
    simp only [guess, scaledByTwo_neg]
    split
    · have less : -(q : Int) - 1 = -((q + 1 : Nat) : Int) := by omega
      rw [less]
      exact cutoff_eq (significand_full some_num (by omega))
    · rename_i enough
      exact cutoff_eq (Nat.not_lt.mp enough)

/-- A number with a negative exponent, rounded up. -/
theorem ceiling?_eq {m p k : Nat} (above : m ≤ k * 2 ^ p) (below : k * 2 ^ p < m + 2 ^ p) :
    ceiling? (.finite false m (-(p : Int))) = some (k : Int) := by
  have floor : (-(m : Int)).fdiv ((2 ^ p : Nat) : Int) = -(k : Int) := by
    generalize 2 ^ p = unit at above below
    rw [Int.fdiv_eq_ediv_of_nonneg _ (Int.natCast_nonneg unit)]
    have parts : ((k * unit - m : Nat) : Int) + (unit : Int) * -(k : Int) = -(m : Int) := by
      rw [Int.natCast_sub above, Int.natCast_mul, Int.mul_neg, Int.mul_comm (unit : Int)]
      omega
    exact ((Int.ediv_emod_unique (by omega)).mpr ⟨parts, by omega, by omega⟩).1
  simp only [ceiling?, ratio?, fraction_neg, Option.map_some, Bool.false_eq_true, if_false, floor,
    Int.neg_neg]

section

variable (negative : Bool) {num den p : Nat} (some_num : 0 < num)
  (exponent : exponentFor num den = -(p : Int))

include some_num exponent

theorem ofRatio_kept (kept : nearestQuotient (num * 2 ^ p) den ≠ Nat.pow 2 53) :
    ofRatio negative num den = .finite negative (nearestQuotient (num * 2 ^ p) den) (-(p : Int)) := by
  have inside : ¬ greatestExponent < -(p : Int) := by
    unfold greatestExponent
    omega
  unfold ofRatio
  rw [if_neg some_num.ne', exponent]
  simp only [scaledByTwo_neg]
  rw [if_neg kept]
  exact if_neg inside

/-- A significand of one bit too many is halved. -/
theorem ofRatio_carried (carried : nearestQuotient (num * 2 ^ p) den = Nat.pow 2 53) :
    ofRatio negative num den = .finite negative (Nat.pow 2 52) (-(p : Int) + 1) := by
  have inside : ¬ greatestExponent < -(p : Int) + 1 := by
    unfold greatestExponent
    omega
  unfold ofRatio
  rw [if_neg some_num.ne', exponent]
  simp only [scaledByTwo_neg]
  rw [if_pos carried]
  exact if_neg inside

end

/-- The quotient of a dividend of at most 53 bits, rounded up, is the rounded significand over a power
of two, rounded up. -/
theorem quotient?_ceiling {num den : Nat} (some_num : 0 < num) (small : num < 2 ^ 53)
    (positive : 0 < den) : ∃ p : Nat, p ≤ 1074 ∧ (p = 1074 ∨ den * 2 ^ 52 ≤ num * 2 ^ p) ∧
      ∀ k, nearestQuotient (num * 2 ^ p) den ≤ k * 2 ^ p →
        k * 2 ^ p < nearestQuotient (num * 2 ^ p) den + 2 ^ p →
        (quotient? (num : Int) (den : Int)).bind ceiling? = some (k : Int) := by
  obtain ⟨p, least, exponent, full⟩ :=
    exponentFor_eq some_num (small.trans_le (Nat.le_mul_of_pos_left _ positive))
  refine ⟨p, least, full, fun k above below => ?_⟩
  have natural : ∀ n : Nat, ((n : Int) < 0) = False := fun n =>
    eq_false (Int.not_lt.mpr (Int.natCast_nonneg n))
  have sign : (((num : Int) < 0) != ((den : Int) < 0)) = false := by
    simp only [natural, bne_self_eq_false]
  rw [quotient?, sign, Int.natAbs_natCast, Int.natAbs_natCast]
  by_cases carried : nearestQuotient (num * 2 ^ p) den = Nat.pow 2 53
  · -- without places behind the point the quotient is no larger than the dividend
    obtain ⟨q, rfl⟩ : ∃ q, p = q + 1 := by
      refine Nat.exists_eq_succ_of_ne_zero fun none => ?_
      subst none
      have bound : nearestQuotient (num * 2 ^ 0) den ≤ num :=
        nearestQuotient_le positive (by rw [Nat.pow_zero]; exact Nat.mul_le_mul_left num positive)
      rw [carried] at bound
      exact absurd small (Nat.not_lt.mpr bound)
    have halved : -((q + 1 : Nat) : Int) + 1 = -(q : Int) := by omega
    have double : Nat.pow 2 53 = Nat.pow 2 52 * 2 := by decide
    rw [ofRatio_carried false some_num exponent carried, halved]
    rw [carried, double, Nat.pow_succ, ← Nat.mul_assoc] at above below
    exact ceiling?_eq (by omega) (by omega)
  · rw [ofRatio_kept false some_num exponent carried]
    exact ceiling?_eq above below

/-! ## The quotient rounded up -/

/-- What a quotient has over a whole number is more than half a place of its significand. -/
theorem half_place {num den p whole rest : Nat} (small : num < 2 ^ 53)
    (seen : den < 2 * (num * 2 ^ 1074)) (full : p = 1074 ∨ den * 2 ^ 52 ≤ num * 2 ^ p)
    (parts : num = whole * den + rest) (some_rest : 0 < rest) : den < 2 * (rest * 2 ^ p) := by
  rcases Nat.eq_zero_or_pos whole with none | some_whole
  · have all : num = rest := by rw [parts, none, Nat.zero_mul, Nat.zero_add]
    subst all
    rcases full with rfl | full
    · exact seen
    · have some_place : 0 < num * 2 ^ p := Nat.mul_pos some_rest (Nat.two_pow_pos p)
      omega
  · have covered : den ≤ num := by
      have := Nat.le_mul_of_pos_left den some_whole
      omega
    have place : 2 ^ p ≤ rest * 2 ^ p := Nat.le_mul_of_pos_left _ some_rest
    rcases full with rfl | full
    · have deep : ∀ p, 53 ≤ p → 2 ^ 53 ≤ 2 ^ p := fun p => Nat.pow_le_pow_right Nat.two_pos
      calc den ≤ num := covered
        _ < 2 ^ 53 := small
        _ ≤ rest * 2 ^ 1074 := (deep 1074 (by decide)).trans place
        _ ≤ 2 * (rest * 2 ^ 1074) := Nat.le_mul_of_pos_left _ Nat.two_pos
    · have bound : num * 2 ^ p < 2 ^ 53 * 2 ^ p :=
        Nat.mul_lt_mul_of_pos_right small (Nat.two_pow_pos p)
      omega

/-- A whole number of times, and something over. -/
theorem exists_ceilDiv_parts {num den : Nat} (some_num : 0 < num) (positive : 0 < den) :
    ∃ whole rest, num ⌈/⌉ den = whole + 1 ∧ num = whole * den + rest ∧ 0 < rest ∧ rest ≤ den := by
  refine ⟨(num - 1) / den, (num - 1) % den + 1, ?_, ?_, Nat.succ_pos _,
    Nat.mod_lt _ positive⟩
  · rw [Nat.ceilDiv_eq_add_pred_div, ← Nat.add_div_right _ positive]
    congr 1
    omega
  · have parts := Nat.div_add_mod' (num - 1) den
    omega

theorem quotient?_zero (den : Nat) :
    (quotient? ((0 : Nat) : Int) (den : Int)).bind ceiling? = some 0 := by
  have natural : ¬ (den : Int) < 0 := Int.not_lt.mpr (Int.natCast_nonneg den)
  simp [quotient?, ofRatio, natural]
  decide

/-- The quotient of a dividend of at most 53 bits, rounded up, is exact unless it is so small that it
becomes zero. -/
theorem ceiling_quotient {num den : Nat} (small : num < 2 ^ 53) (positive : 0 < den) :
    (quotient? (num : Int) (den : Int)).bind ceiling? =
      some ((if 2 * (num * 2 ^ 1074) ≤ den then 0 else num ⌈/⌉ den : Nat) : Int) := by
  rcases Nat.eq_zero_or_pos num with rfl | some_num
  · rw [quotient?_zero, Nat.zero_mul, if_pos (Nat.zero_le den)]
    rfl
  obtain ⟨p, least, full, value⟩ := quotient?_ceiling some_num small positive
  split
  · rename_i tiny
    have grows : ∀ q, p ≤ q → num * 2 ^ p ≤ num * 2 ^ q := fun q more =>
      Nat.mul_le_mul_left num (Nat.pow_le_pow_right Nat.two_pos more)
    have zero := nearestQuotient_eq_zero positive
      ((Nat.mul_le_mul_left 2 (grows 1074 least)).trans tiny)
    have place := Nat.two_pow_pos p
    exact value 0 (by omega) (by omega)
  · rename_i seen
    obtain ⟨whole, rest, ceiling, parts, some_rest, rest_le⟩ :=
      exists_ceilDiv_parts some_num positive
    have half := half_place small (Nat.not_le.mp seen) full parts some_rest
    have scaled : num * 2 ^ p = whole * 2 ^ p * den + rest * 2 ^ p := by
      rw [parts, Nat.add_mul, Nat.mul_right_comm]
    rw [ceiling]
    refine value (whole + 1) (nearestQuotient_le positive ?_) ?_
    · rw [scaled, Nat.add_mul, Nat.one_mul, Nat.add_mul, Nat.mul_comm (2 ^ p) den]
      exact Nat.add_le_add_left (Nat.mul_le_mul_right _ rest_le) _
    · have past : whole * 2 ^ p < nearestQuotient (num * 2 ^ p) den :=
        lt_nearestQuotient positive (by omega)
      rw [Nat.add_mul, Nat.one_mul]
      exact Nat.add_lt_add_right past _

/-! ## Whole quotients -/

theorem truncated?_eq (negative : Bool) (k p : Nat) :
    truncated? (.finite negative (k * 2 ^ p) (-(p : Int))) =
      some (if negative then -(k : Int) else (k : Int)) := by
  have unit : ((2 ^ p : Nat) : Int) ≠ 0 := by
    have := Nat.two_pow_pos p
    omega
  simp only [truncated?, ratio?, fraction_neg, Option.map_some, Int.natCast_mul, Option.some.injEq]
  cases negative with
  | false => exact Int.mul_tdiv_cancel _ unit
  | true =>
    simp only [if_true, ← Int.neg_mul]
    exact Int.mul_tdiv_cancel _ unit

/-- The floating-point number nearest to a whole number of at most 53 bits is that number. -/
theorem ofRatio_whole (negative : Bool) {k den : Nat} (some_num : 0 < k) (small : k < 2 ^ 53)
    (positive : 0 < den) : ∃ x, ofRatio negative (k * den) den = x ∧ (∀ sign, x ≠ .infinite sign) ∧
      truncated? x = some (if negative then -(k : Int) else (k : Int)) := by
  obtain ⟨p, _, exponent, _⟩ := exponentFor_eq (Nat.mul_pos some_num positive)
    (by rw [Nat.mul_comm]; exact Nat.mul_lt_mul_of_pos_left small positive)
  have exact_quotient : nearestQuotient (k * den * 2 ^ p) den = k * 2 ^ p := by
    have whole : k * den * 2 ^ p = k * 2 ^ p * den := Nat.mul_right_comm ..
    rw [whole, nearestQuotient, Nat.mul_div_cancel _ positive, Nat.mul_mod_left]
    rw [if_neg]
    omega
  by_cases carried : k * 2 ^ p = Nat.pow 2 53
  · obtain ⟨q, rfl⟩ : ∃ q, p = q + 1 := by
      apply Nat.exists_eq_succ_of_ne_zero
      rintro rfl
      rw [Nat.pow_zero, Nat.mul_one] at carried
      exact Nat.ne_of_lt small carried
    have halved : -((q + 1 : Nat) : Int) + 1 = -(q : Int) := by omega
    have double : Nat.pow 2 53 = Nat.pow 2 52 * 2 := by decide
    have half : Nat.pow 2 52 = k * 2 ^ q := by
      rw [double, Nat.pow_succ, ← Nat.mul_assoc] at carried
      omega
    refine ⟨_, ofRatio_carried negative (Nat.mul_pos some_num positive) exponent
      (exact_quotient.trans carried), ?_, ?_⟩
    · intro sign same
      cases same
    · rw [halved, half]
      exact truncated?_eq negative k q
  · refine ⟨_, ofRatio_kept negative (Nat.mul_pos some_num positive) exponent
      (exact_quotient ▸ carried), ?_, ?_⟩
    · intro sign same
      cases same
    · rw [exact_quotient]
      exact truncated?_eq negative k p

/-- A quotient that is a whole number of at most 53 bits is that number. -/
theorem quotient?_whole {k : Int} {den : Nat} (small : k.natAbs < 2 ^ 53) (positive : 0 < den) :
    (quotient? (k * den) den).bind truncated? = some k := by
  have natural : ¬ (den : Int) < 0 := Int.not_lt.mpr (Int.natCast_nonneg den)
  rcases Nat.eq_zero_or_pos k.natAbs with none | some_num
  · have nothing : k = 0 := Int.natAbs_eq_zero.mp none
    have value := truncated?_eq false 0 1074
    rw [Nat.zero_mul] at value
    subst nothing
    simpa [quotient?, ofRatio, natural, zero, leastExponent] using value
  · obtain ⟨x, rounded, finite, value⟩ := ofRatio_whole (decide (k < 0)) some_num small positive
    have sign : (decide (k * (den : Int) < 0) != decide ((den : Int) < 0)) = decide (k < 0) := by
      by_cases below : k < 0
      · have product : k * (den : Int) < 0 := Int.mul_neg_of_neg_of_pos below (by omega)
        simp [natural, below, product]
      · have product : ¬ k * (den : Int) < 0 :=
          Int.not_lt.mpr (Int.mul_nonneg (Int.not_lt.mp below) (Int.natCast_nonneg den))
        simp [natural, below, product]
    have size : (if decide (k < 0) = true then -(k.natAbs : Int) else (k.natAbs : Int)) = k := by
      by_cases below : k < 0
      · simp only [below, decide_true, if_true]
        omega
      · simp only [below, decide_false, Bool.false_eq_true, if_false]
        omega
    rw [size] at value
    rw [quotient?, sign, Int.natAbs_mul, Int.natAbs_natCast, rounded]
    split
    · rename_i sign
      exact absurd rfl (finite sign)
    · exact value

end Binary64

end Curator.Number
