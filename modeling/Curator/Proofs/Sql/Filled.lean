import Curator.Proofs.Sql.Expressions
import Curator.Proofs.Sql.Layout
import Curator.Proofs.Sql.Predicates
import Curator.Sql.Clause
/-!
# Filled statements

A statement with its parameters in the places of its placeholders, taken in turn.  Where a text fills,
it has as many placeholders as there are parameters, and each parameter stands where its placeholder
stood.
-/

set_option autoImplicit false

namespace Curator.Sql

/-- A character of a statement, or a value in the place of a placeholder. -/
inductive Piece where
  | char (c : Char)
  | value (v : Value)

/-- The pieces of a text without placeholders. -/
def Piece.ofText (text : List Char) : List Piece := text.map .char

/-- A text with values in the places of its placeholders, in turn; none if there are too few or too
many of them.  `skip` counts the characters of the current placeholder that are still to be passed
over. -/
def fillFrom (mark : List Char) : Nat → List Char → List Value → Option (List Piece)
  | _, [], [] => some []
  | _, [], _ :: _ => none
  | skip + 1, _ :: rest, params => fillFrom mark skip rest params
  | 0, c :: rest, params =>
    if mark.isPrefixOf (c :: rest) then
      match params with
      | [] => none
      | v :: more => (fillFrom mark (mark.length - 1) rest more).map (.value v :: ·)
    else (fillFrom mark 0 rest params).map (.char c :: ·)

/-- A piece of SQL with its parameters in place. -/
def Fragment.filled (d : Dialect) (f : Fragment) : Option (List Piece) :=
  fillFrom d.placeholder.toList 0 f.sql.toList f.params

/-- How many placeholders a text has. -/
def Dialect.placeholders (d : Dialect) (text : String) : Nat :=
  (Text.pieces d.placeholder.toList text.toList).length - 1

/-- A text that fills has as many placeholders as there are values. -/
theorem length_of_fillFrom {mark text : List Char} {skip : Nat} {params : List Value}
    {pieces : List Piece} (filled : fillFrom mark skip text params = some pieces) :
    (Text.piecesFrom mark skip text).length = params.length + 1 := by
  fun_induction fillFrom mark skip text params generalizing pieces with
  | case1 => simp [Text.piecesFrom]
  | case2 => simp at filled
  | case3 skip c rest params ih =>
    rw [Text.piecesFrom]
    exact ih filled
  | case4 c rest front => simp at filled
  | case5 c rest front v more ih =>
    obtain ⟨others, filled, _⟩ := Option.map_eq_some_iff.mp filled
    rw [Text.piecesFrom, if_pos front]
    simp [ih filled]
  | case6 c rest params front ih =>
    obtain ⟨others, filled, _⟩ := Option.map_eq_some_iff.mp filled
    have length := ih filled
    rw [Text.piecesFrom, if_neg front]
    split
    · rename_i empty
      simp [empty] at length
    · rename_i piece others found
      rw [found] at length
      simpa using length

theorem placeholders_of_filled {d : Dialect} {f : Fragment} {pieces : List Piece}
    (filled : f.filled d = some pieces) : d.placeholders f.sql = f.params.length := by
  have length := length_of_fillFrom filled
  unfold Dialect.placeholders Text.pieces
  omega

/-! ## Filling in parts -/

/-- A text fills with values to pieces, whatever follows it. -/
def Dialect.Fills (d : Dialect) (text : List Char) (params : List Value) (pieces : List Piece) :
    Prop :=
  ∀ rest more, fillFrom d.placeholder.toList 0 (text ++ rest) (params ++ more) =
    (fillFrom d.placeholder.toList 0 rest more).map (pieces ++ ·)

/-- The character that begins a placeholder. -/
def Dialect.markHead : Dialect → Char
  | .sqlite => '?'
  | .postgresql => '%'

/-- A text in which no placeholder begins. -/
def Dialect.Clear (d : Dialect) (text : List Char) : Prop := d.markHead ∉ text

namespace Dialect

variable {d : Dialect}

theorem Clear.append {first second : List Char} (before : d.Clear first) (after : d.Clear second) :
    d.Clear (first ++ second) := by
  intro member
  rcases List.mem_append.mp member with member | member
  · exact before member
  · exact after member

theorem Fills.filled {text : List Char} {params : List Value} {pieces : List Piece}
    (fills : d.Fills text params pieces) :
    fillFrom d.placeholder.toList 0 text params = some pieces := by
  have alone := fills [] []
  simpa [fillFrom] using alone

theorem fills_nil : d.Fills [] [] [] := by
  intro rest more
  simp

theorem Fills.append {first second : List Char} {params others : List Value}
    {pieces more : List Piece} (before : d.Fills first params pieces)
    (after : d.Fills second others more) :
    d.Fills (first ++ second) (params ++ others) (pieces ++ more) := by
  intro rest values
  rw [List.append_assoc, List.append_assoc, before, after, Option.map_map]
  congr 1
  funext tail
  simp

/-- A text in which no placeholder begins stays as it is. -/
theorem fills_clear {text : List Char} (clear : d.Clear text) :
    d.Fills text [] (Piece.ofText text) := by
  induction text with
  | nil => exact fills_nil
  | cons c rest ih =>
    unfold Clear at clear
    simp only [List.mem_cons, not_or] at clear
    intro after values
    have apart : d.placeholder.toList.isPrefixOf (c :: (rest ++ after)) = false := by
      cases d with
      | sqlite => simp [Dialect.placeholder, List.isPrefixOf, markHead] at clear ⊢; tauto
      | postgresql => simp [Dialect.placeholder, List.isPrefixOf, markHead] at clear ⊢; tauto
    have others := ih clear.2 after values
    rw [List.cons_append, List.nil_append, fillFrom.eq_def]
    simp only [apart, Bool.false_eq_true, if_false]
    rw [List.nil_append] at others
    rw [others, Option.map_map]
    rfl

/-- A placeholder takes the next value. -/
theorem fills_mark (v : Value) : d.Fills d.placeholder.toList [v] [.value v] := by
  intro rest more
  cases d with
  | sqlite => simp [Dialect.placeholder, fillFrom]
  | postgresql => simp [Dialect.placeholder, fillFrom]

theorem clear_expression {text : String} (chars : IsExpression text) : d.Clear text.toList := by
  intro member
  have foreign : ¬ IsExpressionChar d.markHead := by cases d <;> decide
  exact foreign (chars _ member)

theorem clear_render {column : Column} {expr : String} (ok : column.render d = .ok expr) :
    d.Clear expr.toList := clear_expression (isExpression_render ok)

/-- A fixed text without a question mark or a percent sign. -/
theorem clear_text {text : List Char}
    (chars : text.all (fun c => c != '?' && c != '%') = true) : d.Clear text := by
  intro member
  have apart := List.all_eq_true.mp chars _ member
  cases d with
  | sqlite => simp [markHead] at apart
  | postgresql => simp [markHead] at apart

end Dialect

/-! ## Predicates -/

section

open Outcome

/-- How a predicate reads with its operand in it: an expression with a comparison behind it. -/
def comparedInPlace (symbol expr : String) (operand : Value) : List Piece :=
  Piece.ofText (expr ++ " " ++ symbol ++ " ").toList ++ [.value operand]

def likedInPlace (keyword expr : String) (pattern : Value) : List Piece :=
  Piece.ofText (expr ++ " " ++ keyword ++ " ").toList ++ [.value pattern] ++
    Piece.ofText " ESCAPE '\\'".toList

/-- The values of a list with commas between them. -/
def valuesInPlace : List Value → List Piece
  | [] => []
  | [v] => [.value v]
  | v :: rest => .value v :: Piece.ofText ", ".toList ++ valuesInPlace rest

def listedInPlace (keyword expr : String) (operand : Value) : List Piece :=
  match operand with
  | .list items =>
    Piece.ofText (expr ++ " " ++ keyword ++ " (").toList ++ valuesInPlace items ++
      Piece.ofText [')']
  | _ => []

def nullInPlace (null : Bool) (expr : String) : List Piece :=
  Piece.ofText (nullTest null expr).sql.toList

def rangedInPlace (expr : String) (operand : Value) : List Piece :=
  match operand with
  | .list [low, high] =>
    Piece.ofText (expr ++ " BETWEEN ").toList ++ [.value low] ++ Piece.ofText " AND ".toList ++
      [.value high]
  | _ => []

/-- Whether an operand of a null check asks for null or for its absence. -/
def asksNull (wantNull : Bool) (operand : Value) : Bool :=
  match flag operand with
  | .ok asked => asked == wantNull
  | .error _ => wantNull

/-- The predicate of an operator with its operand where it belongs. -/
def Operator.inPlace (operator : Operator) (expr : String) (operand : Value) : List Piece :=
  match operator with
  | .eq =>
    if operand.isNull then nullInPlace true expr else comparedInPlace "=" expr operand
  | .neq =>
    if operand.isNull then nullInPlace false expr else comparedInPlace "<>" expr operand
  | .lt => comparedInPlace "<" expr operand
  | .lte => comparedInPlace "<=" expr operand
  | .gt => comparedInPlace ">" expr operand
  | .gte => comparedInPlace ">=" expr operand
  | .isIn => listedInPlace "IN" expr operand
  | .notIn => listedInPlace "NOT IN" expr operand
  | .contains => likedInPlace "LIKE" expr (likeOperand .anywhere operand)
  | .notContains => likedInPlace "NOT LIKE" expr (likeOperand .anywhere operand)
  | .icontains =>
    likedInPlace "LIKE" ("LOWER(CAST(" ++ expr ++ " AS TEXT))") (loweredOperand operand)
  | .startsWith => likedInPlace "LIKE" expr (likeOperand .atStart operand)
  | .notStartsWith => likedInPlace "NOT LIKE" expr (likeOperand .atStart operand)
  | .endsWith => likedInPlace "LIKE" expr (likeOperand .atEnd operand)
  | .notEndsWith => likedInPlace "NOT LIKE" expr (likeOperand .atEnd operand)
  | .isNull => nullInPlace (asksNull true operand) expr
  | .isNotNull => nullInPlace (asksNull false operand) expr
  | .between => rangedInPlace expr operand

variable {d : Dialect} {expr : String} {operand : Value} {f : Fragment}

/-- A fragment that fills to given pieces. -/
def Fragment.FillsTo (d : Dialect) (f : Fragment) (pieces : List Piece) : Prop :=
  d.Fills f.sql.toList f.params pieces

theorem clear_keyword {keyword : String} (clear : d.Clear expr.toList)
    (plain : d.Clear keyword.toList) : d.Clear (expr ++ " " ++ keyword ++ " ").toList := by
  simp only [String.toList_append]
  exact ((clear.append (Dialect.clear_text (by decide))).append plain).append
    (Dialect.clear_text (by decide))

theorem compared_fills {symbol : String} (clear : d.Clear expr.toList)
    (plain : d.Clear symbol.toList)
    (ok : compared symbol expr operand d.placeholder = .ok f) :
    f.FillsTo d (comparedInPlace symbol expr operand) := by
  rw [compared_ok ok]
  unfold Fragment.FillsTo
  rw [String.toList_append]
  exact (Dialect.fills_clear (clear_keyword clear plain)).append (Dialect.fills_mark operand)

/-- A search for a pattern, however its expression is written. -/
theorem pattern_fills {keyword : String} (clear : d.Clear expr.toList)
    (plain : d.Clear keyword.toList) (pattern : Value) :
    Fragment.FillsTo d ⟨expr ++ " " ++ keyword ++ " " ++ d.placeholder ++ " ESCAPE '\\'", [pattern]⟩
      (likedInPlace keyword expr pattern) := by
  have front := Dialect.fills_clear (clear_keyword clear plain)
  have back : d.Fills " ESCAPE '\\'".toList [] (Piece.ofText " ESCAPE '\\'".toList) :=
    Dialect.fills_clear (Dialect.clear_text (by decide))
  have whole := (front.append (Dialect.fills_mark pattern)).append back
  unfold Fragment.FillsTo
  rw [String.toList_append, String.toList_append]
  exact whole

theorem liked_fills {place : LikePlace} {keyword : String} (clear : d.Clear expr.toList)
    (plain : d.Clear keyword.toList)
    (ok : liked place keyword expr operand d.placeholder = .ok f) :
    f.FillsTo d (likedInPlace keyword expr (likeOperand place operand)) := by
  rw [liked_ok ok]
  exact pattern_fills clear plain _

theorem lowered_fills (clear : d.Clear expr.toList)
    (ok : likedInLowerCase expr operand d.placeholder = .ok f) :
    f.FillsTo d (likedInPlace "LIKE" ("LOWER(CAST(" ++ expr ++ " AS TEXT))")
      (loweredOperand operand)) := by
  have lowered : d.Clear ("LOWER(CAST(" ++ expr ++ " AS TEXT))").toList := by
    simp only [String.toList_append]
    exact ((Dialect.clear_text (by decide)).append clear).append (Dialect.clear_text (by decide))
  rw [likedInLowerCase_ok ok]
  exact pattern_fills lowered (Dialect.clear_text (by decide)) (loweredOperand operand)

theorem marks_fill (items : List Value) :
    d.Fills (Text.join ", " (items.map fun _ => d.placeholder)).toList items
      (valuesInPlace items) := by
  have between : d.Fills ", ".toList [] (Piece.ofText ", ".toList) :=
    Dialect.fills_clear (Dialect.clear_text (by decide))
  rw [Text.join, String.toList_intercalate]
  induction items with
  | nil => exact Dialect.fills_nil
  | cons v rest ih =>
    cases rest with
    | nil => simpa [valuesInPlace] using Dialect.fills_mark v
    | cons w rest =>
      rw [List.map_cons, List.map_cons, List.map_cons, List.map_cons, List.intercalate_cons_cons]
      exact ((Dialect.fills_mark v).append between).append ih

theorem listed_fills {keyword : String} (clear : d.Clear expr.toList)
    (plain : d.Clear keyword.toList) (ok : listed keyword expr operand d.placeholder = .ok f) :
    f.FillsTo d (listedInPlace keyword expr operand) := by
  obtain ⟨items, rfl, _, rfl⟩ := listed_ok ok
  have front : d.Clear (expr ++ " " ++ keyword ++ " (").toList := by
    simp only [String.toList_append]
    exact ((clear.append (Dialect.clear_text (by decide))).append plain).append
      (Dialect.clear_text (by decide))
  have back : d.Fills ")".toList [] (Piece.ofText [')']) :=
    Dialect.fills_clear (Dialect.clear_text (by decide))
  have whole := ((Dialect.fills_clear front).append (marks_fill items)).append back
  unfold Fragment.FillsTo
  rw [String.toList_append, String.toList_append]
  simpa [listedInPlace] using whole

theorem nullTest_fills (null : Bool) (clear : d.Clear expr.toList) :
    (nullTest null expr).FillsTo d (nullInPlace null expr) := by
  refine Dialect.fills_clear ?_
  cases null with
  | false => simpa [nullTest] using clear.append (Dialect.clear_text (by decide : _ = true))
  | true => simpa [nullTest] using clear.append (Dialect.clear_text (by decide : _ = true))

theorem nullCheck_fills {wantNull : Bool} (clear : d.Clear expr.toList)
    (ok : nullCheck wantNull expr operand = .ok f) :
    f.FillsTo d (nullInPlace (asksNull wantNull operand) expr) := by
  obtain ⟨asked, asked_ok, rfl⟩ := nullCheck_ok ok
  have same : asksNull wantNull operand = (asked == wantNull) := by simp [asksNull, asked_ok]
  rw [same]
  exact nullTest_fills (asked == wantNull) clear

theorem ranged_fills (clear : d.Clear expr.toList)
    (ok : ranged expr operand d.placeholder = .ok f) :
    f.FillsTo d (rangedInPlace expr operand) := by
  obtain ⟨low, high, rfl, rfl⟩ := ranged_ok ok
  have front : d.Clear (expr ++ " BETWEEN ").toList := by
    rw [String.toList_append]
    exact clear.append (Dialect.clear_text (by decide))
  have between : d.Fills " AND ".toList [] (Piece.ofText " AND ".toList) :=
    Dialect.fills_clear (Dialect.clear_text (by decide))
  have whole := (((Dialect.fills_clear front).append (Dialect.fills_mark low)).append
    between).append (Dialect.fills_mark high)
  unfold Fragment.FillsTo
  rw [String.toList_append, String.toList_append, String.toList_append]
  exact whole

/-- A rendered predicate fills to the predicate with its operand in place. -/
theorem Operator.render_fills {operator : Operator} (clear : d.Clear expr.toList)
    (ok : operator.render expr operand d.placeholder = .ok f) :
    f.FillsTo d (operator.inPlace expr operand) := by
  cases operator with
  | eq =>
    rw [Operator.inPlace]
    rcases eq_ok ok with ⟨null, rfl⟩ | ⟨given, ok⟩
    · rw [if_pos null]
      exact nullTest_fills true clear
    · rw [if_neg (by simp [given])]
      exact compared_fills clear (Dialect.clear_text (by decide)) ok
  | neq =>
    rw [Operator.inPlace]
    rcases neq_ok ok with ⟨null, rfl⟩ | ⟨given, ok⟩
    · rw [if_pos null]
      exact nullTest_fills false clear
    · rw [if_neg (by simp [given])]
      exact compared_fills clear (Dialect.clear_text (by decide)) ok
  | lt | lte | gt | gte => exact compared_fills clear (Dialect.clear_text (by decide)) ok
  | isIn | notIn => exact listed_fills clear (Dialect.clear_text (by decide)) ok
  | contains | notContains | startsWith | notStartsWith | endsWith | notEndsWith =>
    exact liked_fills clear (Dialect.clear_text (by decide)) ok
  | icontains => exact lowered_fills clear ok
  | isNull | isNotNull => exact nullCheck_fills clear ok
  | between => exact ranged_fills clear ok

end

end Curator.Sql
