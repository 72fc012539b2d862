/-!
# Binary floating point

The numbers of the 64-bit binary format as exact values: not-a-number, the two infinities, and
`± significand · 2 ^ exponent`.  A finite number made here is in reduced form, its significand
below `2 ^ 53` and, unless the exponent is the least one, at least `2 ^ 52`, so that equal numbers
of equal sign have equal parts.  All arithmetic is exact arithmetic on natural numbers followed by
one rounding to nearest, ties to even.
-/

set_option autoImplicit false

namespace Curator.Number

inductive Binary64 where
  | nan
  | infinite (negative : Bool)
  | finite (negative : Bool) (significand : Nat) (exponent : Int)
  deriving DecidableEq, Repr, Inhabited

/-- The integer nearest to `num / den`, a half going to the even neighbour. -/
def nearestQuotient (num den : Nat) : Nat :=
  let quotient := num / den
  let twice := 2 * (num % den)
  if den < twice ∨ (twice = den ∧ quotient % 2 = 1) then quotient + 1 else quotient

/-- The fraction `num / den` divided by `2 ^ e`, as a fraction. -/
def scaledByTwo (num den : Nat) (e : Int) : Nat × Nat :=
  if 0 ≤ e then (num, den * Nat.pow 2 e.toNat) else (num * Nat.pow 2 (-e).toNat, den)

/-- The fraction `num / den` multiplied by `10 ^ e`, as a fraction. -/
def scaledByTen (num den : Nat) (e : Int) : Nat × Nat :=
  if 0 ≤ e then (num * Nat.pow 10 e.toNat, den) else (num, den * Nat.pow 10 (-e).toNat)

namespace Binary64

def leastExponent : Int := -1074

def greatestExponent : Int := 971

def zero (negative : Bool) : Binary64 :=
  .finite negative 0 leastExponent

/-- The exponent at which the significand of `num / den` has 53 bits, but never less than the least
exponent. -/
def exponentFor (num den : Nat) : Int :=
  let guess : Int := (Nat.log2 num : Int) - (Nat.log2 den : Int) - 52
  let (n, d) := scaledByTwo num den guess
  max leastExponent (if n < d * Nat.pow 2 52 then guess - 1 else guess)

/-- The number nearest to `num / den` with the given sign, ties to the even significand; beyond the
greatest finite number, infinity. -/
def ofRatio (negative : Bool) (num den : Nat) : Binary64 :=
  if num = 0 then zero negative
  else
    let e := exponentFor num den
    let (n, d) := scaledByTwo num den e
    let m := nearestQuotient n d
    let (m, e) := if m = Nat.pow 2 53 then (Nat.pow 2 52, e + 1) else (m, e)
    if greatestExponent < e then .infinite negative else .finite negative m e

def digitCount (n : Nat) : Nat :=
  (toString n).length

/-- The number nearest to `digits · 10 ^ e`.  Magnitudes far outside the format are settled without
computing the power. -/
def ofDecimal (negative : Bool) (digits : Nat) (e : Int) : Binary64 :=
  if digits = 0 then zero negative
  else
    let magnitude : Int := digitCount digits + e
    if 400 < magnitude then .infinite negative
    else if magnitude < -400 then zero negative
    else
      let (n, d) := scaledByTen digits 1 e
      ofRatio negative n d

def ofInt (n : Int) : Binary64 :=
  ofRatio (n < 0) n.natAbs 1

def fraction (significand : Nat) (exponent : Int) : Nat × Nat :=
  if 0 ≤ exponent then (significand * Nat.pow 2 exponent.toNat, 1)
  else (significand, Nat.pow 2 (-exponent).toNat)

/-- The value as a signed fraction, for a finite number. -/
def ratio? : Binary64 → Option (Int × Nat)
  | .finite negative m e =>
    let (n, d) := fraction m e
    some (if negative then -(n : Int) else (n : Int), d)
  | _ => none

def isZero : Binary64 → Bool
  | .finite _ m _ => m == 0
  | _ => false

/-- Numerical comparison; nothing is comparable with not-a-number. -/
def compare? : Binary64 → Binary64 → Option Ordering
  | .nan, _ => none
  | _, .nan => none
  | .infinite a, .infinite b => some (compare b.toNat a.toNat)
  | .infinite a, .finite .. => some (if a then .lt else .gt)
  | .finite .., .infinite b => some (if b then .gt else .lt)
  | x@(.finite ..), y@(.finite ..) =>
    match x.ratio?, y.ratio? with
    | some (n, d), some (n', d') => some (compare (n * (d' : Int)) (n' * (d : Int)))
    | _, _ => none

def compareInt? : Binary64 → Int → Option Ordering
  | .nan, _ => none
  | .infinite negative, _ => some (if negative then .lt else .gt)
  | x@(.finite ..), k => x.ratio?.map fun (n, d) => compare n (k * (d : Int))

/-- The integer part, toward zero, of a finite number. -/
def truncated? (x : Binary64) : Option Int :=
  x.ratio?.map fun (n, d) => Int.tdiv n (d : Int)

/-- The least integer that is not below a finite number. -/
def ceiling? (x : Binary64) : Option Int :=
  x.ratio?.map fun (n, d) => -Int.fdiv (-n) (d : Int)

/-- Whether a number is an integer. -/
def isWhole (x : Binary64) : Bool :=
  match x.truncated? with
  | some n => x.compareInt? n == some .eq
  | none => false

/-- The integer nearest to `x · factor`, ties to even, for a finite number. -/
def nearestMultiple? (x : Binary64) (factor : Nat) : Option Int :=
  match x with
  | .finite negative m e =>
    let (n, d) := fraction m e
    let k := nearestQuotient (n * factor) d
    some (if negative then -(k : Int) else (k : Int))
  | _ => none

/-- The quotient of two integers, rounded once; none when it exceeds the format. -/
def quotient? (a b : Int) : Option Binary64 :=
  match ofRatio ((a < 0) != (b < 0)) a.natAbs b.natAbs with
  | .infinite _ => none
  | x => some x

end Binary64

end Curator.Number
