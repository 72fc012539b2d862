import Curator.Failure.Basic
import Curator.Text.Classes
/-!
# Field rules

What a resource demands of the values written to a field: their type, whether null is allowed,
bounds on numbers and lengths, a pattern, and a choice of allowed values.
-/

set_option autoImplicit false

namespace Curator

inductive FieldType where
  | any
  | string
  | text
  | integer
  | number
  | boolean
  | email
  | url
  | uuid
  | date
  | datetime
  | json
  deriving DecidableEq, Repr, Inhabited

def FieldType.name : FieldType → String
  | .any => "any"
  | .string => "string"
  | .text => "text"
  | .integer => "integer"
  | .number => "number"
  | .boolean => "boolean"
  | .email => "email"
  | .url => "url"
  | .uuid => "uuid"
  | .date => "date"
  | .datetime => "datetime"
  | .json => "json"

def FieldType.all : List FieldType :=
  [.any, .string, .text, .integer, .number, .boolean, .email, .url, .uuid, .date, .datetime, .json]

theorem FieldType.all_names : FieldType.all.map FieldType.name = fieldTypeNames := rfl

def FieldType.ofName? (name : String) : Option FieldType :=
  FieldType.all.find? fun type => type.name == name

/-- A pattern with the text it was read from. -/
structure NamedPattern where
  source : String
  expression : Expression
  deriving Repr, Inhabited

/-- The rules of a field.  A bound that is null is not set; any other value is compared with as it
is. -/
structure FieldRules where
  type : FieldType
  nullable : Value
  min : Value
  max : Value
  minLength : Value
  maxLength : Value
  pattern : Option NamedPattern
  options : Option (List Value)
  deriving Inhabited

namespace FieldRules

def ofType (type : FieldType) : FieldRules :=
  ⟨type, .bool true, .null, .null, .null, .null, none, none⟩

def readType : Value → Except Failure FieldType
  | .str name =>
    match FieldType.ofName? name with
    | some type => .ok type
    | none => .error (.configuration (.ruleType (.str name)))
  | other => .error (Failure.quoting other fun v => .configuration (.ruleType v))

/-- The items of a value that can be gone through: those of a list, the keys of a mapping, the
characters of a text, the numbers of bytes. -/
def itemsOf : Value → Except Failure (List Value)
  | .list items => .ok items
  | .dict entries => .ok ((Mapping.keys entries).map Value.str)
  | .str s => .ok (s.toList.map fun c => .str (String.singleton c))
  | .bytes data => .ok (data.map fun b => .int b.toNat)
  | other => .error (.fault .type s!"'{other.kindName}' object is not iterable")

def readOptions : Value → Except Failure (Option (List Value))
  | .null => .ok none
  | other => do
    let items ← itemsOf other
    pure (some items)

def readPattern : Value → Except Failure (Option NamedPattern)
  | .null => .ok none
  | .str source =>
    match Pattern.read source with
    | .ok expression => .ok (some ⟨source, expression⟩)
    | .error fault => .error (.configuration (.rulePattern source fault))
  | _ => .error (.fault .type "first argument must be string or compiled pattern")

/-- The rules a mapping spells out. -/
def ofEntries (entries : Record) : Except Failure FieldRules := do
  let entry := fun (key : String) => (entries.value? key).getD .null
  let either := fun (key other : String) => (entries.value? key).getD (entry other)
  let type ← readType ((entries.value? "type").getD (.str "any"))
  let options ← readOptions (entry "options")
  let pattern ← readPattern (entry "pattern")
  pure {
    type
    nullable := (entries.value? "nullable").getD (.bool true)
    min := entry "min"
    max := entry "max"
    minLength := either "minLength" "min_length"
    maxLength := either "maxLength" "max_length"
    pattern
    options
  }

/-- The rules a value declares: none, a type by its name, or a mapping that spells them out. -/
def ofValue : Value → Except Failure FieldRules
  | .null => .ok (ofType .any)
  | .str name => do
    let type ← readType (.str name)
    pure (ofType type)
  | .dict entries => ofEntries entries
  | other => .error (Failure.quoting other fun v => .configuration (.rules v))

end FieldRules

end Curator

/-!
## Formats

The formats that a text field can ask for.  Every format but the one of moments, which looks at the
beginning of a text alone, lets one line end at the very end through.
-/

namespace Curator.Format

open Text

def isLocalChar (c : Char) : Bool :=
  c.isAlphanum || c == '.' || c == '_' || c == '%' || c == '+' || c == '-'

def isDomainChar (c : Char) : Bool :=
  c.isAlphanum || c == '.' || c == '-'

/-- A domain: something before its last dot and at least two letters after it. -/
def isDomain (text : List Char) : Bool :=
  let top := (text.reverse.takeWhile (· != '.')).reverse
  let before := text.take (text.length - top.length - 1)
  top.length < text.length && 2 ≤ top.length && top.all Char.isAlpha && !before.isEmpty &&
    before.all isDomainChar

/-- A local part, the one at sign, and a domain. -/
def isEmail (text : List Char) : Bool :=
  let text := withoutFinalNewline text
  match cut? ['@'] text with
  | some (mailbox, domain) => !mailbox.isEmpty && mailbox.all isLocalChar && isDomain domain
  | none => false

/-- A letter in either case; the long s is one of the letter s. -/
def isLetter (letter c : Char) : Bool :=
  c.toLower == letter || (letter == 's' && c == Char.ofNat 0x17F)

/-- The rest of a text after the mark `http://` or `https://` in any case. -/
def afterScheme? : List Char → Option (List Char)
  | h :: t :: t' :: p :: rest =>
    if isLetter 'h' h && isLetter 't' t && isLetter 't' t' && isLetter 'p' p then
      match rest with
      | ':' :: '/' :: '/' :: more => some more
      | s :: ':' :: '/' :: '/' :: more => if isLetter 's' s then some more else none
      | _ => none
    else none
  | _ => none

def hostBreakers : List Char := ['/', '$', '.', '?', '#']

def isUrl (text : List Char) : Bool :=
  match afterScheme? (withoutFinalNewline text) with
  | some (first :: second :: rest) =>
    !isBlank first && !hostBreakers.contains first && second != '\n' && rest.all (!isBlank ·)
  | _ => false

/-- The lengths of the groups of digits in an identifier. -/
def uuidGroups : List Nat := [8, 4, 4, 4, 12]

def isUuid (text : List Char) : Bool :=
  let groups := pieces ['-'] (withoutFinalNewline text)
  groups.map List.length == uuidGroups && groups.all fun group =>
    group.all fun c => (hexValue? c).isSome

/-- Groups of digits of the given lengths, joined by dashes. -/
def isDashedDigits (lengths : List Nat) (text : List Char) : Bool :=
  let groups := pieces ['-'] text
  groups.map List.length == lengths && groups.all fun group => group.all isDigit

def isDate (text : List Char) : Bool :=
  isDashedDigits [4, 2, 2] (withoutFinalNewline text)

/-- A date, a mark, and an hour and a minute at the beginning of the text. -/
def isDatetime (text : List Char) : Bool :=
  match text.drop 10 with
  | mark :: h :: h' :: colon :: m :: m' :: _ =>
    isDashedDigits [4, 2, 2] (text.take 10) && (mark == 'T' || mark == ' ') && colon == ':' &&
      isDigit h && isDigit h' && isDigit m && isDigit m'
  | _ => false

end Curator.Format
