import Curator.Calendar.Moment
import Curator.Text.Casing
import Curator.Value.Conversion
/-!
# Time variables

Variables in the texts of a filter that stand for the current time: `$TIME`, `$DATETIME` and
`$DATE`, each with an optional offset in parentheses.  A text that is nothing but `$TIME` becomes a
number of seconds.
-/

set_option autoImplicit false

namespace Curator

open Calendar

inductive TimeVariable where
  | time
  | datetime
  | date
  deriving DecidableEq, Repr

/-- The names of the variables, a longer one before one it begins with. -/
def TimeVariable.names : List (List Char × TimeVariable) :=
  [("$DATETIME".toList, .datetime), ("$DATE".toList, .date), ("$TIME".toList, .time)]

/-- A unit of time in an offset, and its length in microseconds. -/
structure TimeUnit where
  name : String
  micros : Int
  deriving Repr

def timeUnits : List TimeUnit := [
  ⟨"second", 1000000⟩,
  ⟨"minute", 60000000⟩,
  ⟨"hour", 3600000000⟩,
  ⟨"day", 86400000000⟩,
  ⟨"week", 604800000000⟩
]

/-- Whether a character is a letter of a unit's name in any case; the long s, the sign for kelvin
and the letters i with and without a dot are taken for the plain letters. -/
def matchesLetter (letter c : Char) : Bool :=
  c.toLower == letter ||
    (letter == 's' && c.toNat == 0x17F) ||
    (letter == 'k' && c.toNat == 0x212A) ||
    (letter == 'i' && (c.toNat == 0x130 || c.toNat == 0x131))

/-- The text after a unit's name at its beginning, with the name as it was written. -/
def afterName? : List Char → List Char → Option (List Char × List Char)
  | [], text => some ([], text)
  | _ :: _, [] => none
  | letter :: name, c :: text =>
    if matchesLetter letter c then
      (afterName? name text).map fun (written, rest) => (c :: written, rest)
    else none

/-- The unit at the beginning of a text, as it was written, and the text after it. -/
def unitAt? (text : List Char) : Option (List Char × List Char) :=
  timeUnits.findSome? fun unit => afterName? unit.name.toList text

/-- One item of an offset: an amount with an optional sign, a unit with an optional `s`, and blanks
around them.  The amount and the unit are as written; the rest is the text after the item. -/
structure OffsetItem where
  amount : List Char
  unit : List Char
  rest : List Char

def offsetItem? (text : List Char) : Option OffsetItem := do
  let text := text.dropWhile Text.isBlank
  let sign := (text.take 1).filter fun c => c == '+' || c == '-'
  let afterSign := text.drop sign.length
  let digits := afterSign.takeWhile Text.isDigit
  if digits.isEmpty then none
  else
    let afterDigits := (afterSign.drop digits.length).dropWhile Text.isBlank
    let (unit, rest) ← unitAt? afterDigits
    let rest :=
      match rest with
      | c :: more => if matchesLetter 's' c then more else rest
      | [] => rest
    pure ⟨sign ++ digits, unit, rest.dropWhile Text.isBlank⟩

/-- The largest span of days an offset may have in either direction. -/
def greatestSpan : Int := 999999999

def checkSpan (micros : Int) : Except Failure Int :=
  let days := Int.fdiv micros microsPerDay
  if days < -greatestSpan ∨ greatestSpan < days then
    .error (.fault .overflow "days out of range for a span of time")
  else .ok micros

def OffsetItem.span (item : OffsetItem) : Except Failure Int := do
  let amount ← integerOfText (String.ofList item.amount)
  let name := Text.lower (String.ofList item.unit)
  match timeUnits.find? fun unit => unit.name == name with
  | some unit => checkSpan (amount * unit.micros)
  | none => .error (.fault .key name)

/-- The sum of the items of an offset in microseconds.  `whole` is the text a refusal names; every
item takes at least one character, so the length of the text is fuel enough. -/
def sumItems (whole : String) : Nat → Int → List Char → Except Failure Int
  | _, total, [] => .ok total
  | 0, _, _ :: _ => .error (.request (.timeOffset whole))
  | fuel + 1, total, text =>
    match offsetItem? text with
    | none => .error (.request (.timeOffset whole))
    | some item => do
      let span ← item.span
      let total ← checkSpan (total + span)
      sumItems whole fuel total item.rest

/-- The span of time in microseconds that an offset stands for. -/
def readOffset (text : String) : Except Failure Int :=
  let text := Text.strip text
  if text = "" ∨ text = "now" then .ok 0
  else sumItems text text.length 0 text.toList

def TimeVariable.valueAt (v : TimeVariable) (moment : Moment) : Value :=
  match v with
  | .time => .int moment.epochSeconds
  | .datetime => .str moment.stampText
  | .date => .str moment.date.stampText

/-- The variable at the beginning of a text with its offset, and the text after it. -/
def variableAt? (text : List Char) : Option (TimeVariable × String × List Char) := do
  let (name, kind) ← TimeVariable.names.find? fun (name, _) => name.isPrefixOf text
  let rest := text.drop name.length
  match rest with
  | '(' :: inside =>
    match Text.cut? [')'] inside with
    | some (offset, after) => pure (kind, String.ofList offset, after)
    | none => pure (kind, "", rest)
  | _ => pure (kind, "", rest)

def shiftedValue (now : Moment) (kind : TimeVariable) (offset : String) : Except Failure Value := do
  let span ← readOffset offset
  match now.shifted? span with
  | some moment => pure (kind.valueAt moment)
  | none => .error (.fault .overflow "date value out of range")

/-- The text with every variable replaced; every step takes a character, so the length of the text
is fuel enough. -/
def replaceVariables (now : Moment) : Nat → List Char → Except Failure (List Char)
  | 0, text => .ok text
  | _ + 1, [] => .ok []
  | fuel + 1, c :: rest =>
    match variableAt? (c :: rest) with
    | some (kind, offset, after) => do
      let value ← shiftedValue now kind offset
      let others ← replaceVariables now fuel after
      pure (value.text.toList ++ others)
    | none => do
      let others ← replaceVariables now fuel rest
      pure (c :: others)

def expandText (now : Moment) (text : String) : Except Failure Value :=
  match variableAt? text.toList with
  | some (kind, offset, []) => shiftedValue now kind offset
  | _ => do
    let chars ← replaceVariables now text.length text.toList
    pure (.str (String.ofList chars))

mutual

/-- A value with the variables in all its texts replaced, keys left as they are. -/
def Value.expand (now : Moment) : Value → Except Failure Value
  | .str s => expandText now s
  | .list items => do
    let items ← expandItems now items
    pure (.list items)
  | .dict entries => do
    let entries ← expandEntries now entries
    pure (.dict entries)
  | .null => .ok .null
  | .bool b => .ok (.bool b)
  | .int n => .ok (.int n)
  | .float x => .ok (.float x)
  | .bytes data => .ok (.bytes data)
  | .date d => .ok (.date d)
  | .moment m => .ok (.moment m)

def expandItems (now : Moment) : List Value → Except Failure (List Value)
  | [] => .ok []
  | item :: rest => do
    let item ← item.expand now
    let rest ← expandItems now rest
    pure (item :: rest)

def expandEntries (now : Moment) :
    List (String × Value) → Except Failure (List (String × Value))
  | [] => .ok []
  | (key, item) :: rest => do
    let item ← item.expand now
    let rest ← expandEntries now rest
    pure ((key, item) :: rest)

end

end Curator
