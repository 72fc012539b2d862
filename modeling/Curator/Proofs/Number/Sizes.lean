import Curator.Value.Basic
import Mathlib.Algebra.Order.Field.Basic
import Mathlib.Algebra.Order.Ring.Rat
import Mathlib.Data.Rat.Floor
import Mathlib.Order.Compare
import Mathlib.Order.WithBotTop
import Mathlib.Tactic.NormNum
/-!
# The sizes of numbers

What the numbers among the values stand for: rationals, and the two infinities.  Comparing two of them,
whether exact or floating-point, compares what they stand for, and not-a-number stands for nothing.
A finite number is cut to the whole part of what it stands for.
-/

set_option autoImplicit false

namespace Curator

/-- The rationals with the two infinities. -/
abbrev Size := WithBotTop ℚ

namespace Number

/-- A rational without its part behind the point. -/
def wholePart (q : ℚ) : Int := if 0 ≤ q then ⌊q⌋ else ⌈q⌉

theorem wholePart_int (k : Int) : wholePart k = k := by
  unfold wholePart
  split
  · exact Int.floor_intCast k
  · exact Int.ceil_intCast k

namespace Binary64

/-- What a floating-point number stands for. -/
def size? : Binary64 → Option Size
  | .nan => none
  | .infinite negative => some (if negative then ⊥ else ⊤)
  | .finite negative m e => some (((if negative then -1 else 1) * m * 2 ^ e : ℚ) : Size)

theorem fraction_size (m : Nat) (e : Int) : 0 < (fraction m e).2 ∧
    (m : ℚ) * 2 ^ e = ((fraction m e).1 : ℚ) / (fraction m e).2 := by
  unfold fraction
  by_cases whole : 0 ≤ e
  · rw [if_pos whole]
    obtain ⟨p, rfl⟩ := Int.eq_ofNat_of_zero_le whole
    exact ⟨Nat.one_pos, by simp⟩
  · rw [if_neg whole]
    obtain ⟨p, rfl⟩ : ∃ p : Nat, e = -(p : Int) := ⟨(-e).toNat, by omega⟩
    exact ⟨Nat.pow_pos (by decide), by simp [div_eq_mul_inv]⟩

/-- The fraction of a finite number is what the number stands for. -/
theorem ratio?_finite (negative : Bool) (m : Nat) (e : Int) :
    ∃ n d, ratio? (.finite negative m e) = some (n, d) ∧ 0 < d ∧
      size? (.finite negative m e) = some (((n : ℚ) / d : ℚ) : Size) := by
  obtain ⟨positive, same⟩ := fraction_size m e
  refine ⟨if negative then -((fraction m e).1 : Int) else ((fraction m e).1 : Int),
    (fraction m e).2, rfl, positive, ?_⟩
  rw [size?, mul_assoc, same]
  cases negative <;> simp [neg_div]

section

variable {x : Binary64} {p q : ℚ}

theorem eq_of_size (first : x.size? = some (p : Size)) (second : x.size? = some (q : Size)) :
    p = q :=
  WithTop.coe_injective (WithBot.coe_injective (Option.some.inj (first.symm.trans second)))

theorem truncated?_finite {negative : Bool} {m : Nat} {e : Int}
    (size : size? (.finite negative m e) = some (q : Size)) :
    (finite negative m e).truncated? = some (wholePart q) := by
  obtain ⟨k, d, ratio, positive, same⟩ := ratio?_finite negative m e
  have equal : q = (k : ℚ) / d := eq_of_size size same
  have bound : (0 : ℚ) < d := by exact_mod_cast positive
  rw [truncated?, ratio, Option.map_some, wholePart, equal, Rat.floor_intCast_div_natCast,
    Rat.ceil_intCast_div_natCast]
  congr 1
  simp only
  by_cases natural : 0 ≤ k
  · have above : (0 : ℚ) ≤ (k : ℚ) / d := div_nonneg (by exact_mod_cast natural) bound.le
    rw [if_pos above, Int.tdiv_eq_ediv_of_nonneg natural]
  · have below : ¬ (0 : ℚ) ≤ (k : ℚ) / d := by
      rw [not_le]
      exact div_neg_of_neg_of_pos (by exact_mod_cast not_le.mp natural) bound
    have turned : 0 ≤ -k := by omega
    rw [if_neg below, ← Int.tdiv_eq_ediv_of_nonneg turned, Int.neg_tdiv, Int.neg_neg]

end

end Binary64

end Number

namespace Value

/-- What a number that is exact or floating-point stands for. -/
def Quantity.size? : Quantity → Option Size
  | .exact n => some ((n : ℚ) : Size)
  | .approximate x => x.size?

/-- What a value stands for as a number, if it is one; not-a-number stands for none. -/
def size? (v : Value) : Option Size :=
  v.quantity?.bind Quantity.size?

/-- One number is less than another. -/
def Below (a b : Value) : Prop :=
  ∃ x y, a.size? = some x ∧ b.size? = some y ∧ x < y

end Value

end Curator
