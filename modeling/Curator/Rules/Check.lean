import Curator.Rules.Basic
import Curator.Schema.Basic
import Curator.Text.Casing
/-!
# Checking values

A value against the rules of its field.  Null is decided by nullability alone and a value of the
wrong type by its type alone; any other value is held against every rule, and all broken ones are
reported in a fixed order.
-/

set_option autoImplicit false

namespace Curator

/-- A rule that a value breaks. -/
inductive BrokenRule where
  | nullable
  | wrongType (expected : FieldType)
  | min (bound : Value)
  | max (bound : Value)
  | minLength (bound : Value)
  | maxLength (bound : Value)
  | pattern
  | options (allowed : List Value)
  /-- The field is not among those that can be written. -/
  | unknown

/-- What a value of a type has to be, as a message says it. -/
def FieldType.demand : FieldType → String
  | .any => ""
  | .string => "a string"
  | .text => "a string"
  | .integer => "an integer"
  | .number => "a number"
  | .boolean => "a boolean"
  | .email => "a valid email address"
  | .url => "a valid URL"
  | .uuid => "a valid UUID"
  | .date => "a valid date (YYYY-MM-DD)"
  | .datetime => "a valid datetime"
  | .json => "a JSON object, array or string"

def BrokenRule.text (field : String) : BrokenRule → String
  | .nullable => field ++ " may not be null"
  | .wrongType expected => field ++ " must be " ++ expected.demand
  | .min bound => field ++ " must be at least " ++ bound.text
  | .max bound => field ++ " must be at most " ++ bound.text
  | .minLength bound => field ++ " must be at least " ++ bound.text ++ " characters"
  | .maxLength bound => field ++ " must be at most " ++ bound.text ++ " characters"
  | .pattern => field ++ " does not match the required format"
  | .options allowed =>
    field ++ " must be one of: " ++ Text.join ", " (allowed.map Value.text)
  | .unknown => "Invalid field (" ++ field ++ ")"

def BrokenRule.code : BrokenRule → String
  | .nullable => "NOT_NULLABLE"
  | .wrongType expected => "INVALID_" ++ Text.upper expected.name
  | .min _ => "MIN_VALUE"
  | .max _ => "MAX_VALUE"
  | .minLength _ => "MIN_LENGTH"
  | .maxLength _ => "MAX_LENGTH"
  | .pattern => "PATTERN"
  | .options _ => "INVALID_OPTION"
  | .unknown => "UNKNOWN_FIELD"

namespace FieldType

def isTextOf (format : List Char → Bool) : Value → Bool
  | .str s => format s.toList
  | _ => false

/-- Whether a value is of a type. -/
def admits : FieldType → Value → Bool
  | .any, _ => true
  | .string, value => value.isString
  | .text, value => value.isString
  | .integer, .int _ => true
  | .integer, _ => false
  | .number, .int _ => true
  | .number, .float _ => true
  | .number, _ => false
  | .boolean, value => value.same (.int 0) || value.same (.int 1)
  | .email, value => isTextOf Format.isEmail value
  | .url, value => isTextOf Format.isUrl value
  | .uuid, value => isTextOf Format.isUuid value
  | .date, value => isTextOf Format.isDate value
  | .datetime, value => isTextOf Format.isDatetime value
  | .json, .dict _ => true
  | .json, .list _ => true
  | .json, value => value.isString

end FieldType

/-- Whether one value is less than another, or the fault of comparing what has no order. -/
def comparedLess (a b : Value) : Except Failure Bool :=
  match a.less? b with
  | some answer => .ok answer
  | none =>
    .error (.fault .type
      s!"'<' not supported between instances of '{a.kindName}' and '{b.kindName}'")

/-- The broken rule, if a bound is set and breaks. -/
def boundBreak (bound : Value) (breaks : Value → Except Failure Bool) (rule : Value → BrokenRule) :
    Except Failure (List BrokenRule) :=
  if bound.isNull then .ok []
  else do
    if ← breaks bound then
      if bound.isWritable then pure [rule bound] else .error .digits
    else pure []

namespace FieldRules

def numericBreaks (rules : FieldRules) (value : Value) : Except Failure (List BrokenRule) :=
  if rules.type = .integer ∨ rules.type = .number then do
    let low ← boundBreak rules.min (comparedLess value) .min
    let high ← boundBreak rules.max (fun bound => comparedLess bound value) .max
    pure (low ++ high)
  else .ok []

def textBreaks (rules : FieldRules) : Value → Except Failure (List BrokenRule)
  | .str s => do
    let length : Value := .int s.length
    let short ← boundBreak rules.minLength (comparedLess length) .minLength
    let long ← boundBreak rules.maxLength (fun bound => comparedLess bound length) .maxLength
    let unmatched :=
      match rules.pattern with
      | some pattern =>
        if pattern.source != "" && !pattern.expression.occursIn s then [BrokenRule.pattern] else []
      | none => []
    pure (short ++ long ++ unmatched)
  | _ => .ok []

def optionBreaks (rules : FieldRules) (value : Value) : Except Failure (List BrokenRule) :=
  match rules.options with
  | none => .ok []
  | some allowed =>
    if value.isAmong allowed then .ok []
    else if allowed.all Value.isWritable then .ok [.options allowed]
    else .error .digits

/-- Every rule that a value breaks. -/
def check (rules : FieldRules) (value : Value) : Except Failure (List BrokenRule) :=
  if value.isNull then .ok (if rules.nullable.truthy then [] else [.nullable])
  else if !rules.type.admits value then .ok [.wrongType rules.type]
  else do
    let numeric ← rules.numericBreaks value
    let text ← rules.textBreaks value
    let choice ← rules.optionBreaks value
    pure (numeric ++ text ++ choice)

end FieldRules

/-- A broken rule with the field that breaks it. -/
structure FieldError where
  field : String
  rule : BrokenRule

def FieldError.text (e : FieldError) : String :=
  e.rule.text e.field

/-!
## Checking writes

All fields of a write against the rules of their resource.  A field the resource does not write is
an error of its own.  A write is refused for the first error.
-/

def Schema.fieldErrors (s : Schema) (field : String) (value : Value) :
    Except Failure (List FieldError) :=
  match s.writable.value? field with
  | none => .ok [⟨field, .unknown⟩]
  | some rules => do
    let broken ← rules.check value
    pure (broken.map fun rule => ⟨field, rule⟩)

/-- The errors of all fields, in order. -/
def Schema.writeErrors (s : Schema) : Record → Except Failure (List FieldError)
  | [] => .ok []
  | (field, value) :: rest => do
    let errors ← s.fieldErrors field value
    let others ← s.writeErrors rest
    pure (errors ++ others)

def Schema.checkWrite (s : Schema) (kind : WriteKind) (fields : Record) : Except Failure Unit := do
  let errors ← s.writeErrors fields
  match errors with
  | [] => pure ()
  | first :: _ => .error (.field (.rule kind first.field first.text))

end Curator
