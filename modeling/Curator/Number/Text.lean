import Curator.Number.Binary64
import Curator.Text.Classes
/-!
# Numbers as text

The written forms of floating-point numbers and of integers, and what is read as one.
-/

set_option autoImplicit false

/-!
## Shortest decimals

The decimal with the fewest digits that reads back as a given number, and of those the nearest to
it.  For one digit, two digits and so on the two neighbours of the number on that decimal grid are
tried; seventeen digits always suffice.
-/

namespace Curator.Number

/-- `digits · 10 ^ exponent`. -/
structure Decimal where
  digits : Nat
  exponent : Int
  deriving DecidableEq, Repr, Inhabited

/-- The least `k` with `num / den < 10 ^ k`. -/
def decimalMagnitude (num den : Nat) : Int :=
  let guess : Int := (Binary64.digitCount num : Int) - (Binary64.digitCount den : Int)
  let (n, d) := scaledByTen num den (-guess)
  if n < d then guess else guess + 1

/-- The neighbours of `num / den` on the grid of multiples of `10 ^ unit` that read back as `x`,
the nearer one first. -/
def gridCandidate? (x : Binary64) (num den : Nat) (unit : Int) : Option Decimal :=
  let (n, d) := scaledByTen num den (-unit)
  let low := n / d
  let twice := 2 * (n % d)
  let upFirst := decide (d < twice ∨ (twice = d ∧ low % 2 = 1))
  let order := if upFirst then [low + 1, low] else [low, low + 1]
  (order.find? fun digits => Binary64.ofDecimal false digits unit == x).map fun digits =>
    ⟨digits, unit⟩

/-- The first grid with a hit, from `count` digits upwards. -/
def firstGrid (x : Binary64) (num den : Nat) (magnitude : Int) : Nat → Nat → Decimal
  | 0, count => ⟨(scaledByTen num den (count - magnitude)).1, magnitude - count⟩
  | tries + 1, count =>
    match gridCandidate? x num den (magnitude - count) with
    | some decimal => decimal
    | none => firstGrid x num den magnitude tries (count + 1)

/-- The shortest decimal of the magnitude `significand · 2 ^ exponent`. -/
def shortest (significand : Nat) (exponent : Int) : Decimal :=
  let (num, den) := Binary64.fraction significand exponent
  firstGrid (.finite false significand exponent) num den (decimalMagnitude num den) 17 1

/-!
## Floating-point text

The written form of a floating-point number: the shortest digits that read back, in positional
notation from `0.0001` up to below `10 ^ 16` and with an exponent of at least two digits otherwise.
The reader takes what is written and more: blanks around the number, digits of every script,
single underscores between digits, and the names of infinity and not-a-number in any case.
-/

/-- The digits of a number without the zeros at their end, and how many those were. -/
def significantDigits (n : Nat) : List Char × Nat :=
  let digits := (toString n).toList
  let kept := Text.trimEnd (· == '0') digits
  (kept, digits.length - kept.length)

/-- The names a format gives to the numbers without digits. -/
structure SpecialNames where
  nan : String
  infinity : String

def literalNames : SpecialNames := ⟨"nan", "inf"⟩

/-- A positive decimal in positional notation or, outside the range for it, with an exponent. -/
def decimalText (decimal : Decimal) : String :=
  let (digits, dropped) := significantDigits decimal.digits
  let point : Int := digits.length + (decimal.exponent + dropped)
  if -4 < point ∧ point ≤ 16 then
    if point ≤ 0 then
      String.ofList ("0.".toList ++ List.replicate (-point).toNat '0' ++ digits)
    else
      let whole := digits.take point.toNat
      let zeros := List.replicate (point.toNat - digits.length) '0'
      let rest := digits.drop point.toNat
      String.ofList (whole ++ zeros ++ ['.'] ++ (if rest.isEmpty then ['0'] else rest))
  else
    let e := point - 1
    let mantissa :=
      match digits with
      | [] => ['0']
      | [d] => [d]
      | d :: rest => d :: '.' :: rest
    String.ofList mantissa ++ "e" ++ (if e < 0 then "-" else "+") ++ Text.padded 2 e.natAbs

/-- The written form of a floating-point number under the given names. -/
def floatText (names : SpecialNames) : Binary64 → String
  | .nan => names.nan
  | .infinite negative => (if negative then "-" else "") ++ names.infinity
  | .finite negative significand exponent =>
    (if negative then "-" else "") ++
      (if significand = 0 then "0.0" else decimalText (shortest significand exponent))

/-! ### Reading -/

/-- The digits at the start of a text, single underscores between them passed over, as a number and
a count, with the rest of the text.  `between` tells whether an underscore may come now. -/
def digitRun (between : Bool) (value count : Nat) : List Char → Nat × Nat × List Char
  | [] => (value, count, [])
  | c :: rest =>
    match Text.digitValue? c with
    | some d => digitRun true (value * 10 + d) (count + 1) rest
    | none =>
      match between, c, rest with
      | true, '_', next :: _ =>
        if Text.isDigit next then digitRun false value count rest else (value, count, c :: rest)
      | _, _, _ => (value, count, c :: rest)

/-- A leading sign, as whether it is negative, and the rest. -/
def signOf : List Char → Bool × List Char
  | '-' :: rest => (true, rest)
  | '+' :: rest => (false, rest)
  | text => (false, text)

/-- The exponent part `e±digits`, if the text is nothing else; an empty text is the exponent 0. -/
def exponentPart? : List Char → Option Int
  | [] => some 0
  | mark :: rest =>
    if mark = 'e' ∨ mark = 'E' then
      let (negative, rest) := signOf rest
      match digitRun false 0 0 rest with
      | (value, count, []) =>
        if count = 0 then none else some (if negative then -(value : Int) else (value : Int))
      | _ => none
    else none

/-- An unsigned decimal: digits, an optional point with digits, at least one digit in all, and an
optional exponent. -/
def unsignedDecimal? (text : List Char) : Option Decimal :=
  let (whole, wholeCount, rest) := digitRun false 0 0 text
  let (value, fractionCount, rest) :=
    match rest with
    | '.' :: more => digitRun false whole 0 more
    | _ => (whole, 0, rest)
  if wholeCount + fractionCount = 0 then none
  else (exponentPart? rest).map fun e => ⟨value, e - fractionCount⟩

/-- The number a text denotes. -/
def readFloat? (text : String) : Option Binary64 :=
  let (negative, rest) := signOf (Text.trim Text.isNumberBlank text.toList)
  match String.ofList (rest.map Char.toLower) with
  | "inf" => some (.infinite negative)
  | "infinity" => some (.infinite negative)
  | "nan" => some .nan
  | _ => (unsignedDecimal? rest).map fun decimal =>
      Binary64.ofDecimal negative decimal.digits decimal.exponent

/-!
## Integer text

Integers are written in decimal and read with blanks around them, an optional sign, digits of every
script and single underscores between digits.  Neither direction handles more than 4300 digits.
-/

/-- The most digits an integer may have as text. -/
def digitLimit : Nat := 4300

def withinDigitLimit (n : Int) : Bool :=
  n.natAbs < Nat.pow 10 digitLimit

/-- The decimal text of an integer, if it is short enough to be written. -/
def integerText? (n : Int) : Option String :=
  if withinDigitLimit n then some (toString n) else none

/-- Why a text is not read as an integer. -/
inductive IntegerFault where
  | malformed
  | tooLong (digits : Nat)
  deriving DecidableEq, Repr

def readInteger (text : String) : Except IntegerFault Int :=
  let (negative, rest) := signOf (Text.trim Text.isNumberBlank text.toList)
  match digitRun false 0 0 rest with
  | (value, count, []) =>
    if count = 0 then .error .malformed
    else if digitLimit < count then .error (.tooLong count)
    else .ok (if negative then -(value : Int) else (value : Int))
  | _ => .error .malformed

end Curator.Number
