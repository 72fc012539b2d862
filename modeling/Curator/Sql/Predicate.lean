import Curator.Sql.Dialect
import Curator.Text.Casing
/-!
# Predicates and conditions

The tests of a statement, and the trees of conditions that are put together of them.
-/

set_option autoImplicit false

/-!
## Predicates

The operators of filters.  An operator renders a column expression and an operand to a predicate of
SQL; the operand never enters its text but is bound as its parameters.
-/

namespace Curator.Sql

inductive Operator where
  | eq
  | neq
  | lt
  | lte
  | gt
  | gte
  | isIn
  | notIn
  | contains
  | notContains
  | icontains
  | startsWith
  | notStartsWith
  | endsWith
  | notEndsWith
  | isNull
  | isNotNull
  | between
  deriving DecidableEq, Repr, Inhabited

/-- The name of an operator in filters. -/
def Operator.name : Operator → String
  | .eq => "eq"
  | .neq => "neq"
  | .lt => "lt"
  | .lte => "lte"
  | .gt => "gt"
  | .gte => "gte"
  | .isIn => "in"
  | .notIn => "notIn"
  | .contains => "contains"
  | .notContains => "notContains"
  | .icontains => "icontains"
  | .startsWith => "startsWith"
  | .notStartsWith => "notStartsWith"
  | .endsWith => "endsWith"
  | .notEndsWith => "notEndsWith"
  | .isNull => "isNull"
  | .isNotNull => "isNotNull"
  | .between => "between"

def Operator.all : List Operator :=
  [.eq, .neq, .lt, .lte, .gt, .gte, .isIn, .notIn, .contains, .notContains, .icontains,
    .startsWith, .notStartsWith, .endsWith, .notEndsWith, .isNull, .isNotNull, .between]

def Operator.ofName? (name : String) : Option Operator :=
  Operator.all.find? fun operator => operator.name == name

def Operator.ofValue : Value → Except Failure Operator
  | .str name =>
    match Operator.ofName? name with
    | some operator => .ok operator
    | none => .error (.request (.unknownOperator (.str name)))
  | .list _ => .error (.fault .type "unhashable type: 'list'")
  | .dict _ => .error (.fault .type "unhashable type: 'dict'")
  | other => .error (Failure.quoting other fun v => .request (.unknownOperator v))

/-- A piece of SQL with the parameters its placeholders stand for, in order. -/
structure Fragment where
  sql : String
  params : List Value
  deriving Inhabited

/-- A character of a pattern of LIKE that stands for itself. -/
def escapeLikeChar (c : Char) : List Char :=
  if c = '\\' ∨ c = '%' ∨ c = '_' then ['\\', c] else [c]

def escapeLike (text : String) : String :=
  String.ofList (text.toList.flatMap escapeLikeChar)

/-- Where in a text a pattern looks for its operand. -/
inductive LikePlace where
  | anywhere
  | atStart
  | atEnd
  deriving DecidableEq, Repr

/-- The pattern of LIKE that finds an escaped operand at a place. -/
def likePattern (place : LikePlace) (escaped : String) : String :=
  match place with
  | .anywhere => "%" ++ escaped ++ "%"
  | .atStart => escaped ++ "%"
  | .atEnd => "%" ++ escaped

/-- An operand that is neither a list nor a mapping. -/
def scalar : Value → Except Failure Value
  | .list _ => .error (.request .scalarExpected)
  | .dict _ => .error (.request .scalarExpected)
  | other => .ok other

/-- The truth value an operand of a null check stands for; none given asks for truth. -/
def flag : Value → Except Failure Bool
  | .null => .ok true
  | .bool b => .ok b
  | .int n => .ok (n != 0)
  | .float x => .ok (!x.isZero)
  | .str s =>
    let word := Text.lower s
    if ["true", "1", "yes", ""].contains word then .ok true
    else if ["false", "0", "no"].contains word then .ok false
    else .error (.request (.flagExpected (.str s)))
  | other => .error (Failure.quoting other fun v => .request (.flagExpected v))

def compared (symbol expr : String) (operand : Value) (mark : String) :
    Except Failure Fragment := do
  let operand ← scalar operand
  pure ⟨expr ++ " " ++ symbol ++ " " ++ mark, [operand]⟩

def liked (place : LikePlace) (keyword expr : String) (operand : Value) (mark : String) :
    Except Failure Fragment := do
  let operand ← scalar operand
  let text ← operand.text?
  pure ⟨expr ++ " " ++ keyword ++ " " ++ mark ++ " ESCAPE '\\'",
    [.str (likePattern place (escapeLike text))]⟩

def likedInLowerCase (expr : String) (operand : Value) (mark : String) :
    Except Failure Fragment := do
  let operand ← scalar operand
  let text ← operand.text?
  pure ⟨"LOWER(CAST(" ++ expr ++ " AS TEXT)) LIKE " ++ mark ++ " ESCAPE '\\'",
    [.str (likePattern .anywhere (Text.lower (escapeLike text)))]⟩

def listed (keyword expr : String) (operand : Value) (mark : String) :
    Except Failure Fragment :=
  match operand with
  | .list (first :: rest) => do
    let items := first :: rest
    let scalars ← items.mapM scalar
    pure ⟨expr ++ " " ++ keyword ++ " (" ++ Text.join ", " (items.map fun _ => mark) ++ ")",
      scalars⟩
  | _ => .error (.request .listExpected)

def nullCheck (wantNull : Bool) (expr : String) (operand : Value) : Except Failure Fragment := do
  let asked ← flag operand
  pure ⟨if asked == wantNull then expr ++ " IS NULL" else expr ++ " IS NOT NULL", []⟩

def ranged (expr : String) (operand : Value) (mark : String) : Except Failure Fragment :=
  match operand with
  | .list [low, high] => do
    let low ← scalar low
    let high ← scalar high
    pure ⟨expr ++ " BETWEEN " ++ mark ++ " AND " ++ mark, [low, high]⟩
  | _ => .error (.request .pairExpected)

/-- The predicate that an operator makes of a column expression and an operand. -/
def Operator.render (operator : Operator) (expr : String) (operand : Value) (mark : String) :
    Except Failure Fragment :=
  match operator with
  | .eq => if operand.isNull then .ok ⟨expr ++ " IS NULL", []⟩ else compared "=" expr operand mark
  | .neq =>
    if operand.isNull then .ok ⟨expr ++ " IS NOT NULL", []⟩ else compared "<>" expr operand mark
  | .lt => compared "<" expr operand mark
  | .lte => compared "<=" expr operand mark
  | .gt => compared ">" expr operand mark
  | .gte => compared ">=" expr operand mark
  | .isIn => listed "IN" expr operand mark
  | .notIn => listed "NOT IN" expr operand mark
  | .contains => liked .anywhere "LIKE" expr operand mark
  | .notContains => liked .anywhere "NOT LIKE" expr operand mark
  | .icontains => likedInLowerCase expr operand mark
  | .startsWith => liked .atStart "LIKE" expr operand mark
  | .notStartsWith => liked .atStart "NOT LIKE" expr operand mark
  | .endsWith => liked .atEnd "LIKE" expr operand mark
  | .notEndsWith => liked .atEnd "NOT LIKE" expr operand mark
  | .isNull => nullCheck true expr operand
  | .isNotNull => nullCheck false expr operand
  | .between => ranged expr operand mark

/-!
## Conditions

The conditions of a statement as a tree: predicates and groups, each joined to what stands before it
by AND or OR.  The tree renders to one text in which a group is parenthesised and an empty group is
left out together with its connector.
-/

inductive Connector where
  | and
  | or
  deriving DecidableEq, Repr, Inhabited

def Connector.text : Connector → String
  | .and => "AND"
  | .or => "OR"

def Connector.ofName (name : String) : Except Failure Connector :=
  let upper := Text.upper name
  if upper = "AND" then .ok .and
  else if upper = "OR" then .ok .or
  else .error (.misuse (.connector upper))

inductive Condition where
  | predicate (connector : Connector) (fragment : Fragment)
  | group (connector : Connector) (children : List Condition)
  deriving Inhabited

/-- Rendered text behind what stands before it, each with its parameters; an empty text adds
nothing. -/
def Fragment.joined (before : Fragment) (connector : Connector) (next : Fragment) : Fragment :=
  if next.sql.isEmpty then before
  else if before.sql.isEmpty then next
  else ⟨before.sql ++ " " ++ connector.text ++ " " ++ next.sql, before.params ++ next.params⟩

mutual

/-- The text of a condition without its connector. -/
def Condition.render : Condition → Fragment
  | .predicate _ fragment => fragment
  | .group _ children =>
    let inner := renderAll ⟨"", []⟩ children
    if inner.sql.isEmpty then inner else ⟨"(" ++ inner.sql ++ ")", inner.params⟩

/-- The text of a row of conditions behind what is rendered already. -/
def Condition.renderAll (before : Fragment) : List Condition → Fragment
  | [] => before
  | .predicate connector fragment :: rest =>
    renderAll (before.joined connector fragment) rest
  | .group connector children :: rest =>
    renderAll (before.joined connector (render (.group connector children))) rest

end

/-- The text of all conditions of a statement. -/
def Condition.renderRoot (conditions : List Condition) : Fragment :=
  Condition.renderAll ⟨"", []⟩ conditions

end Curator.Sql
