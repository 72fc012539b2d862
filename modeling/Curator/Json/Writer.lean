import Curator.Value.Literal
/-!
# Writing JSON

Values as JSON text in ASCII: every other character is an escape, one beyond the basic plane a pair
of them.  A style fixes the marks between items and keys and the indentation.
-/

set_option autoImplicit false

namespace Curator.Json

open Number

def unitEscape (unit : Nat) : List Char :=
  '\\' :: 'u' :: Text.hexPadded 4 unit

def escapedChar (c : Char) : List Char :=
  if c = '"' then ['\\', '"']
  else if c = '\\' then ['\\', '\\']
  else if c = '\n' then ['\\', 'n']
  else if c = '\r' then ['\\', 'r']
  else if c = '\t' then ['\\', 't']
  else if c.toNat = 0x08 then ['\\', 'b']
  else if c.toNat = 0x0C then ['\\', 'f']
  else if 0x20 ≤ c.toNat ∧ c.toNat ≤ 0x7E then [c]
  else if c.toNat < 0x10000 then unitEscape c.toNat
  else
    let rest := c.toNat - 0x10000
    unitEscape (0xD800 + rest / 0x400) ++ unitEscape (0xDC00 + rest % 0x400)

def stringText (s : String) : String :=
  String.ofList ('"' :: s.toList.flatMap escapedChar ++ ['"'])

def numberNames : SpecialNames := ⟨"NaN", "Infinity"⟩

/-- Why a value has no JSON text. -/
inductive WriteFault where
  /-- A value of this kind is not part of JSON. -/
  | unsupported (kind : String)
  /-- An integer has too many digits to be written. -/
  | tooLong
  deriving DecidableEq, Repr

/-- How JSON is laid out. -/
structure Style where
  itemMark : String
  keyMark : String
  /-- Spaces of indentation per level; none for a single line. -/
  indent : Option Nat
  /-- Whether a value that is not part of JSON is written as the string of its text. -/
  textForOthers : Bool
  deriving Repr

/-- No blanks at all. -/
def Style.compact : Style := ⟨",", ":", none, false⟩

/-- A blank after each comma and colon. -/
def Style.spaced : Style := ⟨", ", ": ", none, false⟩

/-- One item per line, two blanks of indentation per level. -/
def Style.indented : Style := ⟨",", ": ", some 2, false⟩

/-- A list of written items between brackets, at the given depth. -/
def enclose (style : Style) (depth : Nat) (opening closing : String) (items : List String) :
    String :=
  match style.indent with
  | none => opening ++ Text.join style.itemMark items ++ closing
  | some width =>
    if items.isEmpty then opening ++ closing
    else
      let line := fun (level : Nat) => "\n" ++ String.ofList (List.replicate (width * level) ' ')
      opening ++ line (depth + 1) ++ Text.join (style.itemMark ++ line (depth + 1)) items ++
        line depth ++ closing

/-- The digits of an integer, if it is short enough. -/
def writeInteger (n : Int) : Except WriteFault String :=
  match integerText? n with
  | some text => .ok text
  | none => .error .tooLong

/-- The text of a value that is not part of JSON, if its style has one. -/
def writeOther (style : Style) (value : Value) : Except WriteFault String :=
  if style.textForOthers then .ok (stringText value.text) else .error (.unsupported value.kindName)

mutual

/-- The JSON text of a value that stands `depth` levels deep. -/
def write (style : Style) (depth : Nat) : Value → Except WriteFault String
  | .null => .ok "null"
  | .bool b => .ok (if b then "true" else "false")
  | .int n => writeInteger n
  | .float x => .ok (floatText numberNames x)
  | .str s => .ok (stringText s)
  | .list items => do
    let written ← writeItems style (depth + 1) items
    pure (enclose style depth "[" "]" written)
  | .dict entries => do
    let written ← writeEntries style (depth + 1) entries
    pure (enclose style depth "\x7b" "\x7d" written)
  | .bytes data => writeOther style (.bytes data)
  | .date d => writeOther style (.date d)
  | .moment m => writeOther style (.moment m)

def writeItems (style : Style) (depth : Nat) : List Value → Except WriteFault (List String)
  | [] => .ok []
  | item :: rest => do
    let first ← write style depth item
    let others ← writeItems style depth rest
    pure (first :: others)

def writeEntries (style : Style) (depth : Nat) :
    List (String × Value) → Except WriteFault (List String)
  | [] => .ok []
  | (key, item) :: rest => do
    let first ← write style depth item
    let others ← writeEntries style depth rest
    pure ((stringText key ++ style.keyMark ++ first) :: others)

end

end Curator.Json
