import Curator.Calendar.Moment
import Curator.Mapping
/-!
# Values

The dynamic values that fields, filters, rows and documents hold, and the tests on a single value:
truth, equality and order.  Equality is by meaning: a boolean equals the integers 0 and 1, an
integer equals a floating-point number of the same value, not-a-number equals nothing, mappings
are equal when they agree key by key, and two moments are equal when they are the same instant.
-/

set_option autoImplicit false

namespace Curator

open Number Calendar

inductive Value where
  | null
  | bool (b : Bool)
  | int (n : Int)
  | float (x : Binary64)
  | str (s : String)
  | bytes (data : List UInt8)
  | date (d : Date)
  | moment (m : Moment)
  | list (items : List Value)
  | dict (entries : List (String × Value))
  deriving Inhabited

/-- A row, a set of fields to write, or a document: values under column names. -/
abbrev Record := Mapping Value

namespace Value

def isNull : Value → Bool
  | .null => true
  | _ => false

def isString : Value → Bool
  | .str _ => true
  | _ => false

def string? : Value → Option String
  | .str s => some s
  | _ => none

def dict? : Value → Option Record
  | .dict entries => some entries
  | _ => none

def kindName : Value → String
  | .null => "NoneType"
  | .bool _ => "bool"
  | .int _ => "int"
  | .float _ => "float"
  | .str _ => "str"
  | .bytes _ => "bytes"
  | .date _ => "date"
  | .moment _ => "datetime"
  | .list _ => "list"
  | .dict _ => "dict"

/-- Whether a value counts as true where a truth value is wanted: all but null, zero, and what is
empty. -/
def truthy : Value → Bool
  | .null => false
  | .bool b => b
  | .int n => n != 0
  | .float x => !x.isZero
  | .str s => s != ""
  | .bytes data => !data.isEmpty
  | .date _ => true
  | .moment _ => true
  | .list items => !items.isEmpty
  | .dict entries => !entries.isEmpty

/-! ## Numbers among the values -/

/-- A number that is exact or floating-point. -/
inductive Quantity where
  | exact (n : Int)
  | approximate (x : Binary64)

/-- The number a value is; a boolean is 0 or 1. -/
def quantity? : Value → Option Quantity
  | .bool b => some (.exact b.toInt)
  | .int n => some (.exact n)
  | .float x => some (.approximate x)
  | _ => none

/-- Numerical comparison; none when either is not-a-number. -/
def Quantity.compare? : Quantity → Quantity → Option Ordering
  | .exact a, .exact b => some (compare a b)
  | .exact a, .approximate y => (y.compareInt? a).map Ordering.swap
  | .approximate x, .exact b => x.compareInt? b
  | .approximate x, .approximate y => x.compare? y

/-- The integer a value is, a boolean counting as 0 or 1. -/
def integer? : Value → Option Int
  | .bool b => some b.toInt
  | .int n => some n
  | _ => none

/-! ## Equality -/

/-- Equality of values that hold no others; none when either is a list or a mapping. -/
def sameLeaf : Value → Value → Bool
  | .null, .null => true
  | .str s, .str t => s == t
  | .bytes a, .bytes b => a == b
  | .date d, .date e => d == e
  | .moment a, .moment b => a.compare? b == some .eq
  | a, b =>
    match a.quantity?, b.quantity? with
    | some x, some y => x.compare? y == some .eq
    | _, _ => false

mutual

/-- Equality of values by meaning. -/
def same : Value → Value → Bool
  | .list xs, other =>
    match other with
    | .list ys => sameItems xs ys
    | _ => false
  | .dict xs, other =>
    match other with
    | .dict ys => xs.length == ys.length && sameEntries xs ys
    | _ => false
  | .null, other => sameLeaf .null other
  | .bool b, other => sameLeaf (.bool b) other
  | .int n, other => sameLeaf (.int n) other
  | .float x, other => sameLeaf (.float x) other
  | .str s, other => sameLeaf (.str s) other
  | .bytes data, other => sameLeaf (.bytes data) other
  | .date d, other => sameLeaf (.date d) other
  | .moment m, other => sameLeaf (.moment m) other

def sameItems : List Value → List Value → Bool
  | [], [] => true
  | x :: xs, y :: ys => same x y && sameItems xs ys
  | _, _ => false

def sameEntries : List (String × Value) → List (String × Value) → Bool
  | [], _ => true
  | (key, x) :: rest, ys =>
    (match ys.lookup key with
      | some y => same x y
      | none => false) && sameEntries rest ys

end

/-- Whether some value of a list equals the given one. -/
def isAmong (v : Value) (options : List Value) : Bool :=
  options.any fun option => same v option

/-! ## Order -/

/-- Whether one value is less than another; none when the two cannot be compared. -/
def less? (a b : Value) : Option Bool :=
  match a, b with
  | .str s, .str t => some (s < t)
  | _, _ =>
    match a.quantity?, b.quantity? with
    | some x, some y => some (x.compare? y == some .lt)
    | _, _ => none

/-! ## Induction

Lists and mappings hold values, which may be lists and mappings again.  What holds of all values, of
all lists of them and of all lists of entries is proved for the three together.
-/

/-- A value that holds no other values. -/
def Plain (v : Value) : Prop := (∀ items, v ≠ .list items) ∧ ∀ entries, v ≠ .dict entries

/-- Induction over values as they nest: what holds of a list or a mapping may use that it holds of
what is inside, and a list is taken apart item by item, looking into the mappings. -/
theorem nested_induction {value : Value → Prop} {items : List Value → Prop}
    {entries : List (String × Value) → Prop} (plain : ∀ v, v.Plain → value v)
    (list : ∀ xs, items xs → value (.list xs)) (dict : ∀ es, entries es → value (.dict es))
    (items_nil : items [])
    (items_cons : ∀ v rest, value v → (∀ es, v = .dict es → entries es) → items rest →
      items (v :: rest))
    (entries_nil : entries [])
    (entries_cons : ∀ key v rest, value v → entries rest → entries ((key, v) :: rest)) :
    (∀ v, value v) ∧ (∀ xs, items xs) ∧ ∀ es, entries es := by
  have leaf : ∀ v : Value, v.Plain → value v ∧ ∀ es, v = .dict es → entries es :=
    fun v bare => ⟨plain v bare, fun es same => absurd same (bare.2 es)⟩
  have all : ∀ v, value v ∧ ∀ es, v = .dict es → entries es := by
    refine @Value.rec _ items entries (fun entry => value entry.2)
      (leaf .null ?_) (fun b => leaf (.bool b) ?_) (fun n => leaf (.int n) ?_)
      (fun x => leaf (.float x) ?_) (fun s => leaf (.str s) ?_) (fun data => leaf (.bytes data) ?_)
      (fun d => leaf (.date d) ?_) (fun m => leaf (.moment m) ?_) (fun xs held => ?_)
      (fun es held => ?_) items_nil (fun v rest head tail => ?_) entries_nil
      (fun entry rest head tail => entries_cons entry.1 entry.2 rest head tail)
      (fun _ _ held => held.1)
    all_goals try exact ⟨fun _ => Value.noConfusion, fun _ => Value.noConfusion⟩
    · exact ⟨list xs held, fun _ same => nomatch same⟩
    · refine ⟨dict es held, fun others same => ?_⟩
      cases same
      exact held
    · exact items_cons v rest head.1 head.2 tail
  refine ⟨fun v => (all v).1, fun xs => ?_, fun es => ?_⟩
  · induction xs with
    | nil => exact items_nil
    | cons v rest ih => exact items_cons v rest (all v).1 (all v).2 ih
  · induction es with
    | nil => exact entries_nil
    | cons entry rest ih => exact entries_cons entry.1 entry.2 rest (all entry.2).1 ih

end Value

end Curator
