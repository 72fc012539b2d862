import Curator.Number.Text
/-!
# UUID text

The text of a sixteen-byte identifier, and the readings of it: with or without dashes, braces and
the name prefix.  The digits left after these are read as one hexadecimal number.
-/

set_option autoImplicit false

namespace Curator.Text

/-- Why a text is no identifier. -/
inductive UuidFault where
  | wrongLength
  | wrongDigits
  deriving DecidableEq, Repr

/-- The hexadecimal digit a character stands for; a decimal digit of any script is one. -/
def anyHexValue? (c : Char) : Option Nat :=
  match digitValue? c with
  | some d => some d
  | none => hexValue? c

/-- Hexadecimal digits with single underscores between them, and nothing else. -/
def hexDigits? (between : Bool) (value : Nat) : List Char → Option Nat
  | [] => if between then some value else none
  | c :: rest =>
    match anyHexValue? c with
    | some d => hexDigits? true (value * 16 + d) rest
    | none => if between && c == '_' then hexDigits? false value rest else none

/-- The number a text denotes in hexadecimal, with an optional sign and base mark. -/
def readHex? (text : List Char) : Option Nat :=
  let rest := trim isNumberBlank text
  let rest := if rest.head? = some '+' then rest.tail else rest
  let rest :=
    match rest with
    | '0' :: mark :: more =>
      if mark = 'x' ∨ mark = 'X' then (if more.head? = some '_' then more.tail else more) else rest
    | _ => rest
  hexDigits? false 0 rest

/-- The lowest `count` bytes of a number, the highest of them first. -/
def bytesOfNat : Nat → Nat → List UInt8
  | 0, _ => []
  | count + 1, n => bytesOfNat count (n / 256) ++ [UInt8.ofNat (n % 256)]

/-- The bytes of the identifier a text denotes. -/
def readUuid (text : String) : Except UuidFault (List UInt8) :=
  let bare := replaced "uuid:".toList [] (replaced "urn:".toList [] text.toList)
  let digits := (trim (fun c => c == '\x7b' || c == '\x7d') bare).filter (· != '-')
  if digits.length ≠ 32 then .error .wrongLength
  else
    match readHex? digits with
    | some n => .ok (bytesOfNat 16 n)
    | none => .error .wrongDigits

def hexOfByte (b : UInt8) : List Char :=
  hexPadded 2 b.toNat

/-- The text of an identifier: groups of eight, four, four, four and twelve digits. -/
def uuidText (data : List UInt8) : String :=
  let digits := data.flatMap hexOfByte
  String.ofList (digits.take 8 ++ ['-'] ++ (digits.drop 8).take 4 ++ ['-'] ++
    (digits.drop 12).take 4 ++ ['-'] ++ (digits.drop 16).take 4 ++ ['-'] ++ digits.drop 20)

end Curator.Text
