import Curator.Number.Text
import Curator.Value.Basic
/-!
# Reading JSON

JSON text as a value.  Beyond the standard, `NaN`, `Infinity` and `-Infinity` are numbers; of two
entries with one key the later value stands at the earlier place.  A number with a fraction or an
exponent is floating-point and any other is exact.

Every reader takes the characters that are left and returns a value with the characters after it.
The fuel of the nested readers is the length of the text, which no nesting exceeds.
-/

set_option autoImplicit false

namespace Curator.Json

open Number

/-- Why a text is not read. -/
inductive ReadFault where
  | malformed
  /-- An integer has too many digits to be read. -/
  | tooLong
  deriving DecidableEq, Repr

def isSpace (c : Char) : Bool :=
  c == ' ' || c == '\t' || c == '\n' || c == '\r'

def skipSpace (text : List Char) : List Char :=
  text.dropWhile isSpace

/-- The unit written by four hexadecimal digits, with the rest. -/
def readUnit? : List Char → Option (Nat × List Char)
  | a :: b :: c :: d :: rest => do
    let a ← Text.hexValue? a
    let b ← Text.hexValue? b
    let c ← Text.hexValue? c
    let d ← Text.hexValue? d
    pure (((a * 16 + b) * 16 + c) * 16 + d, rest)
  | _ => none

/-- The character an escape stands for, the text being what follows the backslash. -/
def readEscape? : List Char → Option (Char × List Char)
  | '"' :: rest => some ('"', rest)
  | '\\' :: rest => some ('\\', rest)
  | '/' :: rest => some ('/', rest)
  | 'b' :: rest => some (Char.ofNat 0x08, rest)
  | 'f' :: rest => some (Char.ofNat 0x0C, rest)
  | 'n' :: rest => some ('\n', rest)
  | 'r' :: rest => some ('\r', rest)
  | 't' :: rest => some ('\t', rest)
  | 'u' :: rest => do
    let (unit, rest) ← readUnit? rest
    if 0xD800 ≤ unit ∧ unit < 0xDC00 then
      match rest with
      | '\\' :: 'u' :: more =>
        match readUnit? more with
        | some (low, after) =>
          if 0xDC00 ≤ low ∧ low < 0xE000 then
            some (Char.ofNat (0x10000 + (unit - 0xD800) * 0x400 + (low - 0xDC00)), after)
          else some (Char.ofNat 0xFFFD, rest)
        | none => some (Char.ofNat 0xFFFD, rest)
      | _ => some (Char.ofNat 0xFFFD, rest)
    else if 0xDC00 ≤ unit ∧ unit < 0xE000 then some (Char.ofNat 0xFFFD, rest)
    else some (Char.ofNat unit, rest)
  | _ => none

def readChars : Nat → List Char → Except ReadFault (List Char × List Char)
  | 0, _ => .error .malformed
  | _ + 1, [] => .error .malformed
  | fuel + 1, c :: rest =>
    if c = '"' then .ok ([], rest)
    else if c = '\\' then
      match readEscape? rest with
      | some (c, rest) => do
        let (chars, rest) ← readChars fuel rest
        pure (c :: chars, rest)
      | none => .error .malformed
    else if c.toNat < 0x20 then .error .malformed
    else do
      let (chars, rest) ← readChars fuel rest
      pure (c :: chars, rest)

/-- A string, the text being what follows its opening quote. -/
def readString (text : List Char) : Except ReadFault (String × List Char) := do
  let (chars, rest) ← readChars (text.length + 1) text
  pure (String.ofList chars, rest)

/-- The integer part of a number: a zero alone or digits without a leading zero. -/
def wholeDigits : List Char → List Char
  | '0' :: _ => ['0']
  | text => text.takeWhile Char.isDigit

/-- The characters of a fraction at the start of a text, with its point. -/
def fractionChars : List Char → List Char
  | '.' :: rest =>
    let digits := rest.takeWhile Char.isDigit
    if digits.isEmpty then [] else '.' :: digits
  | _ => []

/-- The characters of an exponent at the start of a text, with its mark and sign. -/
def exponentChars : List Char → List Char
  | mark :: rest =>
    if mark = 'e' ∨ mark = 'E' then
      let sign := rest.takeWhile (fun c => c == '+' || c == '-') |>.take 1
      let digits := (rest.drop sign.length).takeWhile Char.isDigit
      if digits.isEmpty then [] else mark :: sign ++ digits
    else []
  | [] => []

def readNumber (negative : Bool) (text : List Char) : Except ReadFault (Value × List Char) :=
  let whole := wholeDigits text
  if whole.isEmpty then .error .malformed
  else
    let afterWhole := text.drop whole.length
    let fraction := fractionChars afterWhole
    let afterFraction := afterWhole.drop fraction.length
    let power := exponentChars afterFraction
    let rest := afterFraction.drop power.length
    if fraction.isEmpty && power.isEmpty then
      if digitLimit < whole.length then .error .tooLong
      else
        let n := whole.foldl (fun (n : Nat) (c : Char) => n * 10 + (c.toNat - 48)) 0
        .ok (.int (if negative then -(n : Int) else (n : Int)), rest)
    else
      match unsignedDecimal? (whole ++ fraction ++ power) with
      | some decimal =>
        .ok (.float (Binary64.ofDecimal negative decimal.digits decimal.exponent), rest)
      | none => .error .malformed

/-- A literal name, with the value it stands for. -/
def names : List (String × Value) :=
  [("null", .null), ("true", .bool true), ("false", .bool false), ("NaN", .float .nan),
    ("Infinity", .float (.infinite false)), ("-Infinity", .float (.infinite true))]

def readName? (text : List Char) : Option (Value × List Char) :=
  (names.find? fun (name, _) => name.toList.isPrefixOf text).map fun (name, value) =>
    (value, text.drop name.length)

mutual

/-- A value, blanks before it skipped already. -/
def readValue : Nat → List Char → Except ReadFault (Value × List Char)
  | 0, _ => .error .malformed
  | fuel + 1, text =>
    match readName? text with
    | some found => .ok found
    | none =>
      match text with
      | '"' :: rest => do
        let (s, rest) ← readString rest
        pure (.str s, rest)
      | '[' :: rest =>
        match skipSpace rest with
        | ']' :: rest => .ok (.list [], rest)
        | rest => do
          let (items, rest) ← readItems fuel rest
          pure (.list items, rest)
      | '\x7b' :: rest =>
        match skipSpace rest with
        | '\x7d' :: rest => .ok (.dict [], rest)
        | rest => do
          let (pairs, rest) ← readEntries fuel rest
          pure (.dict (Mapping.ofPairs pairs), rest)
      | '-' :: rest => readNumber true rest
      | text => readNumber false text

/-- The items of a list up to its closing bracket, at least one. -/
def readItems : Nat → List Char → Except ReadFault (List Value × List Char)
  | 0, _ => .error .malformed
  | fuel + 1, text => do
    let (item, rest) ← readValue fuel text
    match skipSpace rest with
    | ']' :: rest => pure ([item], rest)
    | ',' :: rest => do
      let (items, rest) ← readItems fuel (skipSpace rest)
      pure (item :: items, rest)
    | _ => .error .malformed

/-- The entries of a mapping up to its closing brace, at least one. -/
def readEntries : Nat → List Char → Except ReadFault (List (String × Value) × List Char)
  | 0, _ => .error .malformed
  | fuel + 1, text =>
    match text with
    | '"' :: rest => do
      let (key, rest) ← readString rest
      match skipSpace rest with
      | ':' :: rest => do
        let (value, rest) ← readValue fuel (skipSpace rest)
        match skipSpace rest with
        | '\x7d' :: rest => pure ([(key, value)], rest)
        | ',' :: rest => do
          let (entries, rest) ← readEntries fuel (skipSpace rest)
          pure ((key, value) :: entries, rest)
        | _ => .error .malformed
      | _ => .error .malformed
    | _ => .error .malformed

end

/-- The value a whole text denotes. -/
def read (text : String) : Except ReadFault Value := do
  let chars := text.toList
  let (value, rest) ← readValue (2 * chars.length + 1) (skipSpace chars)
  if (skipSpace rest).isEmpty then pure value else .error .malformed

end Curator.Json
