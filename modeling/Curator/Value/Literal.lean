import Curator.Number.Text
import Curator.Text.Classes
import Curator.Value.Basic
/-!
# Literals

The text of a value: as a literal, with quotes around strings and escapes inside them, and plain,
where a string stands for itself.  Messages quote values as literals.  A value with an integer of
more digits than can be written has neither text.
-/

set_option autoImplicit false

namespace Curator

open Number Calendar

namespace Value

/-- A character of a string literal that is quoted with `quote`. -/
def literalChar (quote c : Char) : List Char :=
  if c = quote ∨ c = '\\' then ['\\', c]
  else if c = '\n' then ['\\', 'n']
  else if c = '\r' then ['\\', 'r']
  else if c = '\t' then ['\\', 't']
  else if Text.isPrintable c then [c]
  else if c.toNat < 0x100 then '\\' :: 'x' :: Text.hexPadded 2 c.toNat
  else if c.toNat < 0x10000 then '\\' :: 'u' :: Text.hexPadded 4 c.toNat
  else '\\' :: 'U' :: Text.hexPadded 8 c.toNat

/-- The quote of a literal: single, unless the text holds single quotes and no double ones. -/
def literalQuote (text : List Char) : Char :=
  if text.contains '\'' && !text.contains '"' then '"' else '\''

def stringLiteral (s : String) : String :=
  let text := s.toList
  let quote := literalQuote text
  String.ofList (quote :: text.flatMap (literalChar quote) ++ [quote])

def literalByte (quote : Char) (b : UInt8) : List Char :=
  let c := Char.ofNat b.toNat
  if c = quote ∨ c = '\\' then ['\\', c]
  else if c = '\n' then ['\\', 'n']
  else if c = '\r' then ['\\', 'r']
  else if c = '\t' then ['\\', 't']
  else if 32 ≤ b.toNat ∧ b.toNat < 127 then [c]
  else '\\' :: 'x' :: Text.hexPadded 2 b.toNat

def bytesLiteral (data : List UInt8) : String :=
  let quote := literalQuote (data.map fun b => Char.ofNat b.toNat)
  String.ofList ('b' :: quote :: data.flatMap (literalByte quote) ++ [quote])

def dateLiteral (d : Date) : String :=
  s!"datetime.date({d.year}, {d.month}, {d.day})"

/-- A span of time by its days, seconds and microseconds, those that are zero left out. -/
def spanLiteral (micros : Int) : String :=
  let days := Int.fdiv micros microsPerDay
  let rest := Int.fmod micros microsPerDay
  let seconds := rest / microsPerSecond
  let left := rest % microsPerSecond
  let parts :=
    (if days = 0 then [] else [s!"days={days}"]) ++
    (if seconds = 0 then [] else [s!"seconds={seconds}"]) ++
    (if left = 0 then [] else [s!"microseconds={left}"])
  "datetime.timedelta(" ++ (if parts.isEmpty then "0" else Text.join ", " parts) ++ ")"

def momentLiteral (m : Moment) : String :=
  let seconds :=
    if m.microsecond ≠ 0 then s!", {m.second}, {m.microsecond}"
    else if m.second ≠ 0 then s!", {m.second}"
    else ""
  let zone :=
    match m.offset with
    | none => ""
    | some 0 => ", tzinfo=datetime.timezone.utc"
    | some micros => ", tzinfo=datetime.timezone(" ++ spanLiteral micros ++ ")"
  s!"datetime.datetime({m.date.year}, {m.date.month}, {m.date.day}, {m.hour}, {m.minute}" ++
    seconds ++ zone ++ ")"

mutual

def literal : Value → String
  | .null => "None"
  | .bool b => if b then "True" else "False"
  | .int n => toString n
  | .float x => floatText literalNames x
  | .str s => stringLiteral s
  | .bytes data => bytesLiteral data
  | .date d => dateLiteral d
  | .moment m => momentLiteral m
  | .list items => "[" ++ Text.join ", " (itemLiterals items) ++ "]"
  | .dict entries => "\x7b" ++ Text.join ", " (entryLiterals entries) ++ "\x7d"

def itemLiterals : List Value → List String
  | [] => []
  | item :: rest => literal item :: itemLiterals rest

def entryLiterals : List (String × Value) → List String
  | [] => []
  | (key, item) :: rest => (stringLiteral key ++ ": " ++ literal item) :: entryLiterals rest

end

def text : Value → String
  | .str s => s
  | .date d => d.isoText
  | .moment m => m.isoText " "
  | other => other.literal

mutual

/-- Whether every integer in a value is short enough to be written. -/
def isWritable : Value → Bool
  | .int n => withinDigitLimit n
  | .list items => areWritable items
  | .dict entries => areWritableEntries entries
  | .null => true
  | .bool _ => true
  | .float _ => true
  | .str _ => true
  | .bytes _ => true
  | .date _ => true
  | .moment _ => true

def areWritable : List Value → Bool
  | [] => true
  | item :: rest => isWritable item && areWritable rest

def areWritableEntries : List (String × Value) → Bool
  | [] => true
  | (_, item) :: rest => isWritable item && areWritableEntries rest

end

end Value

end Curator
