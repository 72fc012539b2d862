import Curator.Failure.Basic
/-!
# Conversions

Values as integers and as floating-point numbers, where a text counts as the number it denotes.
-/

set_option autoImplicit false

namespace Curator

open Number

def integerOfText (text : String) : Except Failure Int :=
  match readInteger text with
  | .ok n => .ok n
  | .error .malformed =>
    .error (.fault .value
      ("invalid literal for int() with base 10: " ++ Value.stringLiteral text))
  | .error (.tooLong digits) =>
    .error (.fault .value
      s!"Exceeds the limit (4300 digits) for integer string conversion: value has {digits} digits")

def integerOfFloat (x : Binary64) : Except Failure Int :=
  match x with
  | .nan => .error (.fault .value "cannot convert float NaN to integer")
  | .infinite _ => .error (.fault .overflow "cannot convert float infinity to integer")
  | .finite .. => .ok (x.truncated?.getD 0)

def floatOfText (text : String) : Except Failure Binary64 :=
  match readFloat? text with
  | some x => .ok x
  | none =>
    .error (.fault .value ("could not convert string to float: " ++ Value.stringLiteral text))

/-- Bytes as ASCII text; other bytes become a character that no number has. -/
def asciiText (data : List UInt8) : String :=
  String.ofList (data.map fun b => if b.toNat < 128 then Char.ofNat b.toNat else '?')

def Value.toInteger : Value → Except Failure Int
  | .bool b => .ok b.toInt
  | .int n => .ok n
  | .float x => integerOfFloat x
  | .str s => integerOfText s
  | .bytes data =>
    match readInteger (asciiText data) with
    | .ok n => .ok n
    | .error _ =>
      .error (.fault .value
        ("invalid literal for int() with base 10: " ++ Value.bytesLiteral data))
  | other =>
    .error (.fault .type
      ("int() argument must be a string, a bytes-like object or a real number, not '" ++
        other.kindName ++ "'"))

end Curator
