import Curator.Pattern.Reader
import Curator.Value.Literal
/-!
# Shapes of documents

What a document must look like: a shape is a list of rules, each of which a value keeps or breaks by
itself.  The breaches of a shape come in the order of its rules.
-/

set_option autoImplicit false

namespace Curator.Metadata

/-- The kind of value a rule asks for. -/
inductive Kind where
  | object
  | array
  | string
  | integer
  | number
  | boolean
  | null
  deriving DecidableEq, Repr, Inhabited

def Kind.name : Kind → String
  | .object => "object"
  | .array => "array"
  | .string => "string"
  | .integer => "integer"
  | .number => "number"
  | .boolean => "boolean"
  | .null => "null"

/-- Whether a value is of a kind.  A number without a fraction is an integer however it is written, and
a truth value is no number. -/
def Kind.holds : Kind → Value → Bool
  | .object, .dict _ => true
  | .array, .list _ => true
  | .string, .str _ => true
  | .integer, .int _ => true
  | .integer, .float x => x.isWhole
  | .number, .int _ => true
  | .number, .float _ => true
  | .boolean, .bool _ => true
  | .null, .null => true
  | _, _ => false

/-- A rule about a value that leaves its parts aside.  Most rules ask nothing of values of another
kind than theirs. -/
inductive PlainRule where
  | ofKind (kind : Kind)
  | oneOf (names : List String)
  | matching (pattern : String)
  | nonEmptyText
  | atLeast (least : Int)
  | nonEmptyList
  | distinct
  | required (names : List String)
  /-- The object has no other keys than those given. -/
  | only (names : List String)
  deriving DecidableEq, Repr, Inhabited

/-- A rule for a value. -/
inductive Rule where
  | plain (rule : PlainRule)
  | items (shape : List Rule)
  /-- The values under some keys. -/
  | properties (shapes : List (String × List Rule))
  /-- All keys, as text. -/
  | propertyNames (shape : List Rule)
  /-- The values under all keys. -/
  | everyProperty (shape : List Rule)
  | all (shapes : List (List Rule))
  /-- One of several shapes that exclude one another. -/
  | one (shapes : List (List Rule))
  deriving Inhabited

/-- A shape is a list of rules. -/
abbrev Shape := List Rule

/-- How a value breaks a rule. -/
inductive Breach where
  | wrongKind (value : Value) (kind : Kind)
  | unlisted (value : Value) (names : List String)
  | unmatched (text pattern : String)
  | emptyText
  | tooSmall (value : Value) (least : Int)
  | emptyList
  | repeated (value : Value)
  | missing (name : String)
  | unexpected (names : List String)
  | noShape (value : Value)
  deriving Inhabited

def nameLiteral (name : String) : String :=
  (Value.str name).literal

def Breach.text : Breach → String
  | .wrongKind value kind => value.literal ++ " is not of type " ++ nameLiteral kind.name
  | .unlisted value names =>
    value.literal ++ " is not one of " ++ (Value.list (names.map Value.str)).literal
  | .unmatched text pattern => nameLiteral text ++ " does not match " ++ nameLiteral pattern
  | .emptyText => "'' should be non-empty"
  | .tooSmall value least => value.literal ++ s!" is less than the minimum of {least}"
  | .emptyList => "[] should be non-empty"
  | .repeated value => value.literal ++ " has non-unique elements"
  | .missing name => nameLiteral name ++ " is a required property"
  | .unexpected names =>
    "Additional properties are not allowed (" ++ Text.join ", " (names.map nameLiteral) ++
      (if names.length = 1 then " was" else " were") ++ " unexpected)"
  | .noShape value => value.literal ++ " is not valid under any of the given schemas"

/-- A step on the way to a part of a document. -/
inductive PathStep where
  | key (name : String)
  | index (i : Nat)
  deriving DecidableEq, Repr, Inhabited

def PathStep.text : PathStep → String
  | .key name => name
  | .index i => toString i

/-- A breach and where in the document it is. -/
structure Violation where
  path : List PathStep
  breach : Breach
  deriving Inhabited

def Violation.under (step : PathStep) (v : Violation) : Violation :=
  ⟨step :: v.path, v.breach⟩

/-! ## Equality of documents -/

/-- Equality with a part that is no truth value. -/
def plainlySame (a b : Value) : Bool :=
  match b with
  | .bool _ => false
  | _ => a.same b

mutual

/-- Equality of the parts of documents, in which a truth value equals no number. -/
def sameDocument : Value → Value → Bool
  | .list xs, other =>
    match other with
    | .list ys => sameDocuments xs ys
    | _ => false
  | .dict xs, other =>
    match other with
    | .dict ys => xs.length == ys.length && sameMembers xs ys
    | _ => false
  | .bool a, other =>
    match other with
    | .bool b => a == b
    | _ => false
  | .null, other => plainlySame .null other
  | .int n, other => plainlySame (.int n) other
  | .float x, other => plainlySame (.float x) other
  | .str s, other => plainlySame (.str s) other
  | .bytes data, other => plainlySame (.bytes data) other
  | .date d, other => plainlySame (.date d) other
  | .moment m, other => plainlySame (.moment m) other

def sameDocuments : List Value → List Value → Bool
  | [], [] => true
  | x :: xs, y :: ys => sameDocument x y && sameDocuments xs ys
  | _, _ => false

def sameMembers : List (String × Value) → List (String × Value) → Bool
  | [], _ => true
  | (key, x) :: rest, ys =>
    (match ys.lookup key with
      | some y => sameDocument x y
      | none => false) && sameMembers rest ys

end

/-- Whether no two items of a list are equal. -/
def areDistinct : List Value → Bool
  | [] => true
  | item :: rest => !rest.any (sameDocument item) && areDistinct rest

/-! ## Checking -/

def matchesPattern (pattern text : String) : Bool :=
  match Pattern.read pattern with
  | .ok expression => expression.occursIn text
  | .error _ => false

def ascending (names : List String) : List String :=
  names.mergeSort fun a b => !(b < a)

def PlainRule.breaches : PlainRule → Value → List Breach
  | .ofKind kind, value => if kind.holds value then [] else [.wrongKind value kind]
  | .oneOf names, value =>
    if names.any fun name => value.same (.str name) then [] else [.unlisted value names]
  | .matching pattern, .str s => if matchesPattern pattern s then [] else [.unmatched s pattern]
  | .nonEmptyText, .str s => if s = "" then [.emptyText] else []
  | .atLeast least, .int n => if n < least then [.tooSmall (.int n) least] else []
  | .atLeast least, .float x =>
    if x.compareInt? least = some .lt then [.tooSmall (.float x) least] else []
  | .nonEmptyList, .list items => if items.isEmpty then [.emptyList] else []
  | .distinct, .list items => if areDistinct items then [] else [.repeated (.list items)]
  | .required names, .dict entries =>
    (names.filter fun name => !Mapping.has entries name).map Breach.missing
  | .only names, .dict entries =>
    let extra := (Mapping.keys entries).filter fun key => !names.contains key
    if extra.isEmpty then [] else [.unexpected (ascending extra)]
  | _, _ => []

def itemViolations (check : Value → List Violation) : Value → List Violation
  | .list items =>
    items.zipIdx.flatMap fun (item, i) => (check item).map (Violation.under (.index i))
  | _ => []

def valueViolations (check : Value → List Violation) : Value → List Violation
  | .dict entries =>
    entries.flatMap fun (key, value) => (check value).map (Violation.under (.key key))
  | _ => []

def keyViolations (check : Value → List Violation) : Value → List Violation
  | .dict entries => entries.flatMap fun (key, _) => check (.str key)
  | _ => []

/-- The violations in the value under one key of an object. -/
def propertyViolations (name : String) (check : Value → List Violation) : Value → List Violation
  | .dict entries =>
    match Mapping.value? entries name with
    | some value => (check value).map (Violation.under (.key name))
    | none => []
  | _ => []

mutual

def Rule.violations : Rule → Value → List Violation
  | .plain rule, value => (rule.breaches value).map fun breach => ⟨[], breach⟩
  | .items shape, value => itemViolations (shapeViolations shape) value
  | .properties shapes, value => propertiesViolations shapes value
  | .propertyNames shape, value => keyViolations (shapeViolations shape) value
  | .everyProperty shape, value => valueViolations (shapeViolations shape) value
  | .all shapes, value => allViolations shapes value
  | .one shapes, value => if someHolds shapes value then [] else [⟨[], .noShape value⟩]

/-- The violations of a shape by a value, rule by rule. -/
def shapeViolations : List Rule → Value → List Violation
  | [], _ => []
  | rule :: rest, value => rule.violations value ++ shapeViolations rest value

/-- The violations of the shapes of some keys, key by key. -/
def propertiesViolations : List (String × List Rule) → Value → List Violation
  | [], _ => []
  | (name, shape) :: rest, value =>
    propertyViolations name (shapeViolations shape) value ++ propertiesViolations rest value

/-- The violations of several shapes, one after the other. -/
def allViolations : List (List Rule) → Value → List Violation
  | [], _ => []
  | shape :: rest, value => shapeViolations shape value ++ allViolations rest value

/-- Whether a value has one of several shapes. -/
def someHolds : List (List Rule) → Value → Bool
  | [], _ => false
  | shape :: rest, value => (shapeViolations shape value).isEmpty || someHolds rest value

end

/-- Whether one path comes before another or is the same: texts of the steps are compared one by
one. -/
def notAfter : List String → List String → Bool
  | [], _ => true
  | _ :: _, [] => false
  | a :: as, b :: bs => if a < b then true else if b < a then false else notAfter as bs

/-- The violations of a shape in the order of their places; those of one place stay in the order of
the rules. -/
def orderedViolations (shape : Shape) (document : Value) : List Violation :=
  (shapeViolations shape document).mergeSort fun a b =>
    notAfter (a.path.map PathStep.text) (b.path.map PathStep.text)

/-- The place of a violation, keys with slashes between them and positions in brackets. -/
def placeText (path : List PathStep) : String :=
  let parts := path.map fun
    | .key name => name
    | .index i => "[" ++ toString i ++ "]"
  Text.replace (Text.join "/" parts) "/[" "["

end Curator.Metadata
