import Curator.Calendar.Moment
/-!
# ISO 8601 text

Reading a date or a moment from ISO 8601 text: calendar dates and week dates, with or without
dashes, any one character between date and time, times down to a fraction of a second with a colon
between all parts or none, and an offset from universal time or `Z`.
-/

set_option autoImplicit false

namespace Curator.Calendar

/-- The number that exactly `count` ASCII digits at the start of a text denote, with the rest. -/
def takeDigits? : Nat → List Char → Option (Nat × List Char)
  | count, text =>
    let digits := text.take count
    if digits.length = count ∧ digits.all Char.isDigit then
      some (digits.foldl (fun n c => n * 10 + (c.toNat - 48)) 0, text.drop count)
    else none

/-- How many characters at the start of a date-and-time text belong to the date. -/
def dateLength (text : List Char) : Option Nat :=
  let charAt := fun (i : Nat) => text[i]?
  let isDigitAt := fun (i : Nat) => ((charAt i).map Char.isDigit).getD false
  if text.length = 7 then some 7
  else if charAt 4 = some '-' then
    if charAt 5 = some 'W' then
      if text.length < 8 then none
      else if charAt 8 = some '-' then
        if text.length = 9 then none else if isDigitAt 10 then some 8 else some 10
      else some 8
    else some 10
  else if charAt 4 = some 'W' then
    let digits := ((text.drop 7).takeWhile Char.isDigit).length
    let stop := 7 + digits
    if stop < 9 then some stop else if stop % 2 = 0 then some 7 else some 8
  else some 8

/-- The date written in the first `length` characters of a text. -/
def readDatePart? (length : Nat) (text : List Char) : Option Date := do
  let (year, rest) ← takeDigits? 4 text
  let dashed := rest.head? = some '-'
  let rest := if dashed then rest.tail else rest
  match rest with
  | 'W' :: rest =>
    let (week, rest) ← takeDigits? 2 rest
    if text.length - rest.length < length then
      let rest ← if dashed then (if rest.head? = some '-' then some rest.tail else none) else some rest
      let (weekday, _) ← takeDigits? 1 rest
      Date.ofIsoWeek? year week weekday
    else Date.ofIsoWeek? year week 1
  | rest =>
    let (month, rest) ← takeDigits? 2 rest
    let rest ← if dashed then (if rest.head? = some '-' then some rest.tail else none) else some rest
    let (day, _) ← takeDigits? 2 rest
    let date : Date := ⟨year, month, day⟩
    if date.IsValid then some date else none

/-- A time of day or an offset as read: hour, minute, second, microsecond. -/
structure ClockParts where
  hour : Nat
  minute : Nat
  second : Nat
  microsecond : Nat
  deriving Repr

/-- What the reader of clock parts found: nothing readable, or parts and whether it stopped before
the end of the text. -/
inductive ClockReading where
  | malformed
  | read (parts : ClockParts) (stoppedEarly : Bool)

/-- The fraction of a second: the first six digits count and further digits are passed over. -/
def readFraction (parts : ClockParts) (length : Nat) (text : List Char) : ClockReading :=
  let count := min length 6
  match takeDigits? count text with
  | none => .malformed
  | some (value, rest) =>
    let micros := if count = 0 then value else value * Nat.pow 10 (6 - count)
    let rest := rest.dropWhile Char.isDigit
    .read { parts with microsecond := micros } (!rest.isEmpty)

/-- The remaining clock parts, two digits each; `colons` tells whether a colon stands between
parts, settled by the character after the first.  `length` is the number of characters that belong
to the clock; the text may go on behind them. -/
def readClockFrom (colons : Option Bool) (parts : List Nat) (missing length : Nat)
    (text : List Char) : ClockReading :=
  let clock := fun (parts : List Nat) =>
    match parts with
    | [h] => (⟨h, 0, 0, 0⟩ : ClockParts)
    | [h, m] => ⟨h, m, 0, 0⟩
    | [h, m, s] => ⟨h, m, s, 0⟩
    | _ => ⟨0, 0, 0, 0⟩
  match missing with
  | 0 => readFraction (clock parts) length text
  | missing + 1 =>
    match takeDigits? 2 text with
    | none => .malformed
    | some (value, rest) =>
      let parts := parts ++ [value]
      let next := rest.head?
      let colons := colons.getD (next == some ':')
      if length ≤ 3 then .read (clock parts) next.isSome
      else if colons && next == some ':' then
        readClockFrom (some colons) parts missing (length - 3) rest.tail
      else if next == some '.' || next == some ',' then
        readFraction (clock parts) (length - 3) rest.tail
      else if !colons then readClockFrom (some colons) parts missing (length - 2) rest
      else .malformed

def readClock (length : Nat) (text : List Char) : ClockReading :=
  readClockFrom none [] 3 length text

/-- A time of day with an optional offset in microseconds. -/
def readTimePart? (text : List Char) : Option (ClockParts × Option Int) :=
  let clock := text.takeWhile fun c => c != '+' && c != '-' && c != 'Z'
  let rest := text.drop clock.length
  match readClock clock.length text, rest with
  | .malformed, _ => none
  | .read parts early, [] => if early then none else some (parts, none)
  | .read parts _, 'Z' :: more => if more.isEmpty then some (parts, some 0) else none
  | .read parts _, sign :: more =>
    match readClock more.length more with
    | .read o false =>
      let seconds := o.hour * 3600 + o.minute * 60 + o.second
      let size : Int := if seconds = 0 then 0 else seconds * 1000000 + o.microsecond
      if size < microsPerDay then some (parts, some (if sign = '-' then -size else size)) else none
    | _ => none

/-- The moment a text denotes; a date alone is the start of its day. -/
def readMoment? (text : String) : Option Moment := do
  let chars := text.toList
  if text.utf8ByteSize < 7 then none
  let length ← dateLength chars
  let date ← readDatePart? length chars
  let tail := chars.drop length
  match tail with
  | [] => some ⟨date, 0, 0, 0, 0, none⟩
  | _ :: time =>
    let (clock, offset) ← readTimePart? time
    if clock.hour < 24 ∧ clock.minute < 60 ∧ clock.second < 60 then
      some ⟨date, clock.hour, clock.minute, clock.second, clock.microsecond, offset⟩
    else none

/-- The date a text denotes, with nothing behind it. -/
def readDate? (text : String) : Option Date :=
  let chars := text.toList
  if chars.length = 7 ∨ chars.length = 8 ∨ chars.length = 10 then readDatePart? chars.length chars
  else none

end Curator.Calendar
