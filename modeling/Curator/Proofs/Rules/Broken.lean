import Curator.Proofs.Number.Sizes
import Curator.Proofs.Outcome
import Curator.Rules.Check
/-!
# Broken rules

What the rules of a field say about a value, and that a check reports just the rules that are broken, in
their order.  Bounds are about the sizes of numbers, and not-a-number has none: it is neither below a
bound nor above one.
-/

set_option autoImplicit false

namespace Curator

open Outcome

/-- The values that are of a type. -/
inductive FieldType.Holds : FieldType → Value → Prop
  | any (v : Value) : Holds .any v
  | string (s : String) : Holds .string (.str s)
  | text (s : String) : Holds .text (.str s)
  | integer (n : Int) : Holds .integer (.int n)
  | wholeNumber (n : Int) : Holds .number (.int n)
  | number (x : Number.Binary64) : Holds .number (.float x)
  | boolean {v : Value} (truth : v.size? = some 0 ∨ v.size? = some 1) : Holds .boolean v
  | email {s : String} (format : Format.isEmail s.toList = true) : Holds .email (.str s)
  | url {s : String} (format : Format.isUrl s.toList = true) : Holds .url (.str s)
  | uuid {s : String} (format : Format.isUuid s.toList = true) : Holds .uuid (.str s)
  | date {s : String} (format : Format.isDate s.toList = true) : Holds .date (.str s)
  | datetime {s : String} (format : Format.isDatetime s.toList = true) : Holds .datetime (.str s)
  | jsonText (s : String) : Holds .json (.str s)
  | jsonList (items : List Value) : Holds .json (.list items)
  | jsonObject (entries : List (String × Value)) : Holds .json (.dict entries)

/-- The broken rules of a value of the right type. -/
inductive FieldRules.Breaks (rules : FieldRules) : Value → BrokenRule → Prop
  | min {v : Value} (numeric : rules.type = .integer ∨ rules.type = .number)
    (below : v.Below rules.min) : Breaks rules v (.min rules.min)
  | max {v : Value} (numeric : rules.type = .integer ∨ rules.type = .number)
    (above : rules.max.Below v) : Breaks rules v (.max rules.max)
  | minLength {s : String} (short : (Value.int s.length).Below rules.minLength) :
    Breaks rules (.str s) (.minLength rules.minLength)
  | maxLength {s : String} (long : rules.maxLength.Below (.int s.length)) :
    Breaks rules (.str s) (.maxLength rules.maxLength)
  | pattern {s : String} {p : NamedPattern} (given : rules.pattern = some p) (some_source : p.source ≠ "")
    (absent : p.expression.occursIn s = false) : Breaks rules (.str s) .pattern
  | options {v : Value} {allowed : List Value} (given : rules.options = some allowed)
    (other : ∀ option ∈ allowed, v.same option = false) : Breaks rules v (.options allowed)

/-- Whether a report can say what a broken rule is: no integer in it has too many digits. -/
def BrokenRule.isWritable : BrokenRule → Bool
  | .min bound | .max bound | .minLength bound | .maxLength bound => bound.isWritable
  | .options allowed => allowed.all Value.isWritable
  | .nullable | .wrongType _ | .pattern | .unknown => true

namespace FieldRules

/-- The rules that can be broken, in the order of reports. -/
def inOrder (rules : FieldRules) : List BrokenRule :=
  [.min rules.min, .max rules.max, .minLength rules.minLength, .maxLength rules.maxLength, .pattern,
    .options (rules.options.getD [])]

/-- What a check of a value reports. -/
inductive Reports (rules : FieldRules) : Value → List BrokenRule → Prop
  | null : Reports rules .null (if rules.nullable.truthy then [] else [.nullable])
  | wrongType {v : Value} (given : v ≠ .null) (wrong : ¬ rules.type.Holds v) :
    Reports rules v [.wrongType rules.type]
  | broken {v : Value} {broken : List BrokenRule} (given : v ≠ .null) (right : rules.type.Holds v)
    (ordered : broken.Sublist rules.inOrder) (exact : ∀ rule, rule ∈ broken ↔ rules.Breaks v rule) :
    Reports rules v broken

/-- What keeps a check of a value from a report: a bound that is not a number, or an integer in a broken
rule that cannot be written. -/
inductive Stops (rules : FieldRules) : Value → Failure → Prop
  | unordered {v bound : Value} {failure : Failure}
    (set : bound ∈ [rules.min, rules.max, rules.minLength, rules.maxLength]) (given : bound ≠ .null)
    (odd : bound.quantity? = none) (fault : failure.category = .fault .type) : Stops rules v failure
  | unwritable {v : Value} {rule : BrokenRule} (broken : rules.Breaks v rule)
    (long : rule.isWritable = false) : Stops rules v .digits

end FieldRules

/-! ## Types -/

namespace FieldRules

variable {rules : FieldRules} {v : Value}

/-- What comes of holding a value against some of its rules. -/
def Reported (rules : FieldRules) (v : Value) (some_rules : List BrokenRule) :
    Except Failure (List BrokenRule) → Prop
  | .ok broken => broken.Sublist some_rules ∧ ∀ rule ∈ some_rules, rule ∈ broken ↔ rules.Breaks v rule
  | .error failure => rules.Stops v failure

theorem Reported.append {front back : List BrokenRule} {first second : Except Failure (List BrokenRule)}
    (left : rules.Reported v front first) (right : rules.Reported v back second) :
    rules.Reported v (front ++ back) (do
      let broken ← first
      let more ← second
      pure (broken ++ more)) := by
  cases first with
  | error failure => exact left
  | ok broken =>
    cases second with
    | error failure => exact right
    | ok more =>
      refine ⟨left.1.append right.1, fun rule member => ⟨fun reported => ?_, fun breaks => ?_⟩⟩
      · rcases List.mem_append.mp reported with early | late
        · exact (left.2 rule (left.1.subset early)).mp early
        · exact (right.2 rule (right.1.subset late)).mp late
      · rcases List.mem_append.mp member with early | late
        · exact List.mem_append_left _ ((left.2 rule early).mpr breaks)
        · exact List.mem_append_right _ ((right.2 rule late).mpr breaks)

section

variable {bound measure : Value} {rule : Value → BrokenRule}
  (set : bound ∈ [rules.min, rules.max, rules.minLength, rules.maxLength])
  (written : (rule bound).isWritable = bound.isWritable)

include set written

variable (number : measure.quantity?.isSome)

include number

end

end FieldRules

namespace Sample

end Sample

end Curator
