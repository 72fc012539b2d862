import Curator.Calendar.IsoText
import Curator.Json.Reader
import Curator.Json.Writer
import Curator.Text.Encoding
import Curator.Text.Uuid
import Curator.Value.Conversion
/-!
# Transforms

The transforms a field may name: on writing they bring a value into the form that is stored, on
reading into the form that is shown.  A transform refuses a value by a failure.
-/

set_option autoImplicit false

namespace Curator

open Calendar

inductive Transform where
  | jsonEncode
  | jsonDecode
  | escapeString
  | boolean
  | integer
  | nullify
  | slug
  | censor
  | date
  | datetime
  | timestamp
  | uuidToBin
  | binToUuid
  | lowercase
  | uppercase
  | trim
  deriving DecidableEq, Repr, Inhabited

namespace Transform

def jsonFailure : Json.WriteFault → Failure
  | .unsupported kind => .fault .type s!"Object of type {kind} is not JSON serializable"
  | .tooLong => .digits

def mask : String := "********"

/-- JSON text for lists and mappings, and plain text for all else. -/
def encodeJson (value : Value) : Except Failure Value :=
  let written :=
    match Json.write .compact 0 value with
    | .ok text => .ok (.str text)
    | .error fault => .error (jsonFailure fault)
  match value with
  | .list _ => written
  | .dict _ => written
  | other => do
    let text ← other.text?
    pure (.str text)

/-- A mapping with its keys in ascending order. -/
def sortedByKey (entries : Record) : Record :=
  entries.mergeSort fun a b => !(b.1 < a.1)

def withSortedKeys : Value → Value
  | .dict entries => .dict (sortedByKey entries)
  | other => other

/-- The value JSON text denotes, with sorted keys; text that is not JSON stands in a list of its
own. -/
def decodeJsonText (value : Value) (text : String) : Except Failure Value :=
  match Json.read text with
  | .ok decoded => .ok (withSortedKeys decoded)
  | .error .malformed => .ok (.list [value])
  | .error .tooLong => .error .digits

def decodeJson : Value → Except Failure Value
  | .null => .ok (.list [])
  | .str s => decodeJsonText (.str s) s
  | .bytes data =>
    match Text.ofBytes? data with
    | some text => decodeJsonText (.bytes data) text
    | none => .error (.fault .encoding "invalid bytes")
  | .list items => .ok (.list items)
  | .dict entries => .ok (withSortedKeys (.dict entries))
  | other => .ok (.list [other])

def escapeMarkupChar (c : Char) : List Char :=
  if c = '&' then "&amp;".toList
  else if c = '<' then "&lt;".toList
  else if c = '>' then "&gt;".toList
  else if c = '"' then "&quot;".toList
  else if c = '\'' then "&#x27;".toList
  else [c]

def escapeMarkup (text : String) : String :=
  String.ofList (text.toList.flatMap escapeMarkupChar)

def truthWords : List String := ["1", "true", "yes", "on"]

def toBoolean : Value → Value
  | .str s => .bool (truthWords.contains (Text.lower (Text.strip s)))
  | other => .bool other.truthy

def toInteger : Value → Except Failure Value
  | .null => .ok (.int 0)
  | .str s =>
    if s = "" then .ok (.int 0)
    else do
      let x ← floatOfText s
      let n ← integerOfFloat x
      pure (.int n)
  | other => do
    let n ← other.toInteger
    pure (.int n)

/-! ## Slugs -/

def isSlugChar (c : Char) : Bool :=
  ('a' ≤ c && c ≤ 'z') || ('0' ≤ c && c ≤ '9')

/-- A dash between a small letter or digit and the capital behind it. -/
def splitHumps : List Char → List Char
  | a :: b :: rest =>
    if isSlugChar a && b.isUpper then a :: '-' :: splitHumps (b :: rest)
    else a :: splitHumps (b :: rest)
  | text => text

/-- Every run of characters that a slug does not hold becomes one dash. -/
def dashRuns : List Char → List Char
  | [] => []
  | c :: rest =>
    if isSlugChar c then c :: dashRuns rest
    else
      match dashRuns rest with
      | '-' :: more => '-' :: more
      | more => '-' :: more

def slugChars (text : List Char) : List Char :=
  Text.trim (· == '-') (dashRuns (Text.lowerChars (splitHumps text)))

/-! ## Times -/

def epochFailure : EpochFault → Failure
  | .notANumber => .fault .value "Invalid value NaN (not a number)"
  | .infinite => .fault .overflow "cannot convert float infinity to integer"
  | .beyondClock => .fault .overflow "timestamp out of range for platform time_t"
  | .beyondCalendar => .fault .value "year is out of range"
  | .beyondYears => .fault .system "Value too large for defined data type"

def momentAt (seconds : Int) : Except Failure Moment :=
  match momentOfSeconds seconds with
  | .ok moment => .ok moment
  | .error fault => .error (epochFailure fault)

def toDate : Value → Except Failure Value
  | .int n => do
    let moment ← momentAt n
    pure (.str moment.date.stampText)
  | .date d => .ok (.str d.stampText)
  | .moment m => .ok (.str m.date.stampText)
  | other => do
    let text ← other.text?
    pure (.str text)

def toDatetime : Value → Except Failure Value
  | .int n => do
    let moment ← momentAt n
    pure (.str moment.stampText)
  | .moment m => .ok (.str m.stampText)
  | other => do
    let text ← other.text?
    pure (.str text)

/-- The epoch second of a moment.  Without an offset the first day of the calendar has none, since
the day before it, which the clock change of a local time might reach, is not representable. -/
def epochSecondOf (m : Moment) : Except Failure Int :=
  if m.offset.isNone && m.date == ⟨1, 1, 1⟩ then .error (.fault .value "year 0 is out of range")
  else .ok m.epochSeconds

def toTimestamp : Value → Except Failure Value
  | .moment m => do
    let seconds ← epochSecondOf m
    pure (.int seconds)
  | .str s =>
    match readMoment? s with
    | some m => .ok (.int m.epochSeconds)
    | none => do
      let n ← integerOfText s
      pure (.int n)
  | other => do
    let n ← other.toInteger
    pure (.int n)

/-! ## Identifiers -/

def uuidBytes (text : String) : Except Failure Value :=
  match Text.readUuid text with
  | .ok data => .ok (.bytes data)
  | .error .wrongLength => .error (.fault .value "badly formed hexadecimal UUID string")
  | .error .wrongDigits => .error (.fault .value "invalid literal for int() with base 16")

/-- The value a transform makes of a value. -/
def apply : Transform → Value → Except Failure Value
  | .jsonEncode, value => encodeJson value
  | .jsonDecode, value => decodeJson value
  | .escapeString, .str s => .ok (.str (escapeMarkup s))
  | .escapeString, other => do
    let text ← other.text?
    pure (.str text)
  | .boolean, value => .ok (toBoolean value)
  | .integer, value => toInteger value
  | .nullify, .str s => .ok (if s = "" then .null else .str s)
  | .nullify, other => .ok other
  | .slug, .str s => .ok (.str (String.ofList (slugChars s.toList)))
  | .slug, other => do
    let text ← other.text?
    pure (.str text)
  | .censor, .null => .ok .null
  | .censor, .str s => .ok (.str (if s = "" then "" else mask))
  | .censor, _ => .ok (.str mask)
  | .date, value => toDate value
  | .datetime, value => toDatetime value
  | .timestamp, value => toTimestamp value
  | .uuidToBin, .str s => uuidBytes s
  | .uuidToBin, other => .ok other
  | .binToUuid, .bytes data =>
    .ok (if data.length = 16 then .str (Text.uuidText data) else .bytes data)
  | .binToUuid, other => .ok other
  | .lowercase, .str s => .ok (.str (Text.lower s))
  | .lowercase, other => .ok other
  | .uppercase, .str s => .ok (.str (Text.upper s))
  | .uppercase, other => .ok other
  | .trim, .str s => .ok (.str (Text.strip s))
  | .trim, other => .ok other

end Transform

end Curator
