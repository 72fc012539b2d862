import Curator.Proofs.Sql.Formula
/-!
# Tests as tokens

How the tests of columns are read: the tokens of an expression, an operator behind it and its
operands.  Whatever the operator, no connector divides a test, not even the AND between the ends of a
range.
-/

set_option autoImplicit false

namespace Curator.Sql

/-! ## Expressions -/

/-- The tokens of an expression: nothing divides them, and they are never all of a test. -/
structure ExpressionTokens (ts : List Token) : Prop where
  solid : Solid ts
  balanced : Balanced ts
  begins : ∀ rest, rest ≠ [] → unwrap? (ts ++ rest) = none

theorem ofText_append (first second : List Char) :
    Piece.ofText (first ++ second) = Piece.ofText first ++ Piece.ofText second := List.map_append

section

variable {ts us : List Token} {d : Dialect}

theorem expressionTokens_quoted {mark : Char} {name : List Char} {rest : List Token}
    (plain : rest.all Token.isPlain = true) : ExpressionTokens (.quoted mark name :: rest) := by
  have whole : (Token.quoted mark name :: rest).all Token.isPlain = true := plain
  exact ⟨(solid_plain whole).1, (solid_plain whole).2, fun _ _ => rfl⟩

/-- A function applied to balanced tokens. -/
theorem expressionTokens_applied {function : List Char}
    (plain : (Token.word function).isPlain = true) (balanced : Balanced ts) :
    ExpressionTokens (.word function :: wrapped ts) where
  solid := (solid_token plain).append (solid_wrapped balanced)
  balanced := (balanced_plain plain).append (balanced_wrapped balanced)
  begins := fun _ _ => rfl

theorem expressionTokens_wrapped (balanced : Balanced ts) : ExpressionTokens (wrapped ts) where
  solid := solid_wrapped balanced
  balanced := balanced_wrapped balanced
  begins := fun _ more => unwrap?_wrapped_append balanced more

theorem closed_wrapped {text : List Piece} (closed : Closed text ts) :
    Closed (Piece.ofText ['('] ++ text ++ Piece.ofText [')']) (wrapped ts) := by
  have opening : Closed (Piece.ofText ['(']) [.sign '('] := closed_of_run rfl
  have ending : Closed (Piece.ofText [')']) [.sign ')'] := closed_of_run rfl
  have whole := (opening.append closed).append ending
  simpa [wrapped] using whole

theorem closed_name {name : String} (valid : Text.isIdentifier name = true) :
    Closed (Piece.ofText (quoted name).toList) [.quoted '"' name.toList] := by
  have apart : '"' ∉ name.toList := Text.not_mem_of_isIdentifier valid (by decide)
  have text : (quoted name).toList = '"' :: name.toList ++ ['"'] := by simp [quoted]
  rw [text]
  exact closed_quoted (Or.inl rfl) apart

theorem qualify_closed {column : String} {table : Option String} {text : String}
    (ok : qualify column table = .ok text) :
    ∃ ts, Closed (Piece.ofText text.toList) ts ∧ ExpressionTokens ts := by
  obtain ⟨valid, ⟨_, rfl⟩ | ⟨name, _, tableValid, rfl⟩⟩ := qualify_ok ok
  · exact ⟨_, closed_name valid, expressionTokens_quoted rfl⟩
  · have dot : Closed (Piece.ofText ".".toList) [.sign '.'] := closed_of_run rfl
    have whole := ((closed_name tableValid).append dot).append (closed_name valid)
    rw [String.toList_append, String.toList_append, ofText_append, ofText_append]
    exact ⟨_, whole, expressionTokens_quoted rfl⟩

/-- A path literal in quotes is one token. -/
theorem closed_literal {path : List String} (valid : ∀ key ∈ path, Text.isJsonKey key = true) :
    Closed (Piece.ofText ('\'' :: (d.pathLiteral path).toList ++ ['\'']))
      [.quoted '\'' (d.pathLiteral path).toList] := by
  refine closed_quoted (Or.inr rfl) fun member => ?_
  rcases mem_pathLiteral member with ⟨key, inside, member⟩ | mark
  · rcases Text.isKeyChar_of_isJsonKey (valid key inside) member with isKey | newline
    · exact absurd isKey (by decide)
    · exact absurd newline (by decide)
  · exact absurd mark (by decide)

/-- The tokens around a column from whose inside a value is taken, the literal among them. -/
def Dialect.extractedTokens (name : List Token) (literal : List Char) : Dialect → List Token
  | .sqlite => .word "json_extract".toList :: wrapped (name ++ [.sign ',', .quoted '\'' literal])
  | .postgresql => wrapped (wrapped name ++ [.sign ':', .sign ':', .word "jsonb".toList, .sign '#',
      .sign '>', .sign '>', .quoted '\'' literal])

theorem closed_extracted {path : List String} (valid : ∀ key ∈ path, Text.isJsonKey key = true)
    {name : String} (closed : Closed (Piece.ofText name.toList) ts) :
    Closed (Piece.ofText (d.extracted name path).toList)
      (d.extractedTokens ts (d.pathLiteral path).toList) := by
  have literal := closed_literal (d := d) valid
  cases d with
  | sqlite =>
    have comma : Closed (Piece.ofText ", ".toList) [.sign ','] := closed_of_run rfl
    have opening : Closed (Piece.ofText "json_extract(".toList)
        [.word "json_extract".toList, .sign '('] := closed_of_run rfl
    have ending : Closed (Piece.ofText [')']) [.sign ')'] := closed_of_run rfl
    have whole := (opening.append ((closed.append comma).append literal)).append ending
    rw [extracted_sqlite]
    simpa [Dialect.extractedTokens, wrapped, ofText_append, Piece.ofText] using whole
  | postgresql =>
    have cast : Closed (Piece.ofText "::jsonb #>> ".toList)
        [.sign ':', .sign ':', .word "jsonb".toList, .sign '#', .sign '>', .sign '>'] :=
      closed_of_run rfl
    have whole := closed_wrapped (((closed_wrapped closed).append cast).append literal)
    rw [extracted_postgresql]
    simpa [Dialect.extractedTokens, ofText_append, Piece.ofText] using whole

theorem expressionTokens_extracted (expression : ExpressionTokens ts) (literal : List Char) :
    ExpressionTokens (d.extractedTokens ts literal) := by
  cases d with
  | sqlite => exact expressionTokens_applied rfl (expression.balanced.append (solid_plain rfl).2)
  | postgresql =>
    exact expressionTokens_wrapped
      ((balanced_wrapped expression.balanced).append (solid_plain rfl).2)

/-- The expression of a column is read as one operand. -/
theorem render_closed {column : Column} {expr : String} (ok : column.render d = .ok expr) :
    ∃ ts, Closed (Piece.ofText expr.toList) ts ∧ ExpressionTokens ts := by
  obtain ⟨name, name_ok, ⟨_, rfl⟩ | ⟨_, valid, rfl⟩⟩ := Column.render_ok ok
  · exact qualify_closed name_ok
  · obtain ⟨ts, closed, expression⟩ := qualify_closed name_ok
    exact ⟨_, closed_extracted valid closed, expressionTokens_extracted expression _⟩

/-! ## Tests -/

/-- A piece of text that is read as a test. -/
def ReadsAsTest (text : List Piece) : Prop := ∃ ts, Reads text ts ∧ TestTokens ts

/-- An expression with tokens behind it that nothing divides. -/
theorem ExpressionTokens.test (expression : ExpressionTokens ts) (some_token : us ≠ [])
    (rest : Solid us ∧ Balanced us) : TestTokens (ts ++ us) where
  solid := expression.solid.append rest.1
  balanced := expression.balanced.append rest.2
  bare := expression.begins us some_token

variable {expr : String}

/-- The words of an operator behind an expression. -/
theorem keyword_closed {keyword : String} (closed : Closed (Piece.ofText expr.toList) ts)
    (words : Closed (Piece.ofText (' ' :: keyword.toList ++ [' '])) us) :
    Closed (Piece.ofText (expr ++ " " ++ keyword ++ " ").toList) (ts ++ us) := by
  have whole := closed.append words
  simpa [ofText_append, Piece.ofText] using whole

theorem compared_reads {symbol : String} (closed : Closed (Piece.ofText expr.toList) ts)
    (expression : ExpressionTokens ts)
    (words : Closed (Piece.ofText (' ' :: symbol.toList ++ [' '])) us)
    (plain : us.all Token.isPlain = true) (operand : Value) :
    ReadsAsTest (comparedInPlace symbol expr operand) := by
  have whole := (keyword_closed closed words).append (closed_value operand)
  have rest : (us ++ [Token.value operand]).all Token.isPlain = true := by
    rw [List.all_append, plain]
    rfl
  rw [List.append_assoc] at whole
  exact ⟨_, whole.reads, expression.test (by simp) (solid_plain rest)⟩

theorem liked_reads {keyword : String} (closed : Closed (Piece.ofText expr.toList) ts)
    (expression : ExpressionTokens ts)
    (words : Closed (Piece.ofText (' ' :: keyword.toList ++ [' '])) us)
    (plain : us.all Token.isPlain = true) (pattern : Value) :
    ReadsAsTest (likedInPlace keyword expr pattern) := by
  have escape : Closed (Piece.ofText " ESCAPE '\\'".toList)
      [.word "ESCAPE".toList, .quoted '\'' ['\\']] := closed_of_run rfl
  have whole := (keyword_closed closed words).append ((closed_value pattern).append escape)
  have rest : (us ++ (Token.value pattern ::
      [.word "ESCAPE".toList, .quoted '\'' ['\\']])).all Token.isPlain = true := by
    rw [List.all_append, plain]
    rfl
  rw [List.append_assoc] at whole
  refine ⟨_, ?_, expression.test (by simp) (solid_plain rest)⟩
  have reads := whole.reads
  simpa [likedInPlace] using reads

/-- An expression that is cast to text and folded to lower case. -/
theorem lowered_closed (closed : Closed (Piece.ofText expr.toList) ts)
    (expression : ExpressionTokens ts) :
    ∃ us, Closed (Piece.ofText ("LOWER(CAST(" ++ expr ++ " AS TEXT))").toList) us ∧
      ExpressionTokens us := by
  have cast : Closed (Piece.ofText "LOWER(CAST(".toList)
      [.word "LOWER".toList, .sign '(', .word "CAST".toList, .sign '('] := closed_of_run rfl
  have text : Closed (Piece.ofText " AS TEXT))".toList)
      [.word "AS".toList, .word "TEXT".toList, .sign ')', .sign ')'] := closed_of_run rfl
  have inside : Balanced (ts ++ [.word "AS".toList, .word "TEXT".toList]) :=
    expression.balanced.append (solid_plain rfl).2
  have applied : Balanced (.word "CAST".toList :: wrapped (ts ++ [.word "AS".toList,
      .word "TEXT".toList])) := (balanced_plain rfl).append (balanced_wrapped inside)
  have whole := (cast.append closed).append text
  refine ⟨.word "LOWER".toList :: wrapped _, ?_, expressionTokens_applied rfl applied⟩
  rw [String.toList_append, String.toList_append, ofText_append, ofText_append]
  simpa [wrapped] using whole

/-- The tokens of a list of values. -/
def listTokens : List Value → List Token
  | [] => []
  | [v] => [.value v]
  | v :: w :: rest => .value v :: .sign ',' :: listTokens (w :: rest)

theorem values_closed (items : List Value) : Closed (valuesInPlace items) (listTokens items) := by
  have comma : Closed (Piece.ofText ", ".toList) [.sign ','] := closed_of_run rfl
  induction items with
  | nil => exact closed_nil
  | cons v rest ih =>
    cases rest with
    | nil => exact closed_value v
    | cons w rest => exact ((closed_value v).append comma).append ih

theorem balanced_listTokens (items : List Value) : Balanced (listTokens items) := by
  induction items with
  | nil => exact balanced_nil
  | cons v rest ih =>
    cases rest with
    | nil => exact balanced_plain rfl
    | cons w rest => exact ((balanced_plain rfl).append (balanced_plain rfl)).append ih

theorem listed_reads {keyword : String} (closed : Closed (Piece.ofText expr.toList) ts)
    (expression : ExpressionTokens ts)
    (words : Closed (Piece.ofText (' ' :: keyword.toList ++ [' '])) us)
    (plain : us.all Token.isPlain = true) (items : List Value) :
    ReadsAsTest (listedInPlace keyword expr (.list items)) := by
  have whole := (keyword_closed closed words).append (closed_wrapped (values_closed items))
  have rest : Solid (us ++ wrapped (listTokens items)) ∧ Balanced (us ++ wrapped (listTokens items)) :=
    ⟨(solid_plain plain).1.append (solid_wrapped (balanced_listTokens items)),
      (solid_plain plain).2.append (balanced_wrapped (balanced_listTokens items))⟩
  rw [List.append_assoc] at whole
  refine ⟨_, ?_, expression.test (by simp [wrapped]) rest⟩
  have reads := whole.reads
  simpa [listedInPlace, ofText_append, Piece.ofText] using reads

theorem nullTest_reads (null : Bool) (closed : Closed (Piece.ofText expr.toList) ts)
    (expression : ExpressionTokens ts) : ReadsAsTest (nullInPlace null expr) := by
  cases null with
  | true =>
    have test : Reads (Piece.ofText " IS NULL".toList)
        ([.word "IS".toList] ++ [.word "NULL".toList]) := reads_of_run rfl
    have reads : Reads (nullInPlace true expr) (ts ++ [.word "IS".toList, .word "NULL".toList]) := by
      simpa [nullInPlace, nullTest, ofText_append] using closed.append_reads test
    exact ⟨_, reads, expression.test (by simp) (solid_plain rfl)⟩
  | false =>
    have test : Reads (Piece.ofText " IS NOT NULL".toList)
        ([.word "IS".toList, .word "NOT".toList] ++ [.word "NULL".toList]) := reads_of_run rfl
    have reads : Reads (nullInPlace false expr)
        (ts ++ [.word "IS".toList, .word "NOT".toList, .word "NULL".toList]) := by
      simpa [nullInPlace, nullTest, ofText_append] using closed.append_reads test
    exact ⟨_, reads, expression.test (by simp) (solid_plain rfl)⟩

/-- The ends of a range, with an AND between them that divides nothing. -/
def rangeTokens (low high : Value) : List Token :=
  [.word "BETWEEN".toList, .value low, .word "AND".toList, .value high]

theorem solid_range (low high : Value) : Solid (rangeTokens low high) := by
  intro c rest
  have first : ∀ more, divideFrom c .top (.word "BETWEEN".toList :: more) =
      glue [.word "BETWEEN".toList] (divideFrom c ⟨0, true⟩ more) := by
    intro more
    cases c <;> rfl
  have operand : ∀ ranged v more, divideFrom c ⟨0, ranged⟩ (.value v :: more) =
      glue [.value v] (divideFrom c ⟨0, ranged⟩ more) := fun _ _ _ => rfl
  have joint : ∀ more, divideFrom c ⟨0, true⟩ (.word "AND".toList :: more) =
      glue [.word "AND".toList] (divideFrom c .top more) := by
    intro more
    cases c <;> rfl
  have whole : rangeTokens low high ++ rest = .word "BETWEEN".toList :: .value low ::
      .word "AND".toList :: .value high :: rest := rfl
  rw [whole, first, operand, joint, Place.top, operand, glue_glue, glue_glue, glue_glue]
  rfl

theorem ranged_reads (closed : Closed (Piece.ofText expr.toList) ts)
    (expression : ExpressionTokens ts) (low high : Value) :
    ReadsAsTest (rangedInPlace expr (.list [low, high])) := by
  have between : Closed (Piece.ofText " BETWEEN ".toList) [.word "BETWEEN".toList] :=
    closed_of_run rfl
  have joint : Closed (Piece.ofText " AND ".toList) [.word "AND".toList] := closed_of_run rfl
  have whole := (((closed.append between).append (closed_value low)).append joint).append
    (closed_value high)
  have balanced : Balanced (rangeTokens low high) :=
    (((balanced_token rfl).append (balanced_token rfl)).append (balanced_token rfl)).append
      (balanced_token rfl)
  refine ⟨_, ?_, expression.test (by simp [rangeTokens]) ⟨solid_range low high, balanced⟩⟩
  have reads := whole.reads
  simpa [rangedInPlace, rangeTokens, ofText_append] using reads

/-- Whatever an operator makes of a column and an operand is read as a test. -/
theorem Operator.render_reads {operator : Operator} {column : Column} {operand : Value}
    {f : Fragment} (expr_ok : column.render d = .ok expr)
    (ok : operator.render expr operand d.placeholder = .ok f) :
    ReadsAsTest (operator.inPlace expr operand) := by
  obtain ⟨ts, closed, expression⟩ := render_closed expr_ok
  cases operator with
  | eq =>
    rw [Operator.inPlace]
    split
    · exact nullTest_reads true closed expression
    · exact compared_reads closed expression (closed_of_run rfl) rfl operand
  | neq =>
    rw [Operator.inPlace]
    split
    · exact nullTest_reads false closed expression
    · exact compared_reads closed expression (closed_of_run rfl) rfl operand
  | lt | lte | gt | gte => exact compared_reads closed expression (closed_of_run rfl) rfl operand
  | isIn | notIn =>
    obtain ⟨items, rfl, _, _⟩ := listed_ok ok
    exact listed_reads closed expression (closed_of_run rfl) rfl items
  | contains | notContains | startsWith | notStartsWith | endsWith | notEndsWith =>
    exact liked_reads closed expression (closed_of_run rfl) rfl _
  | icontains =>
    obtain ⟨us, lowered, folded⟩ := lowered_closed closed expression
    exact liked_reads lowered folded (closed_of_run rfl) rfl _
  | isNull | isNotNull => exact nullTest_reads _ closed expression
  | between =>
    obtain ⟨low, high, rfl, _⟩ := ranged_ok ok
    exact ranged_reads closed expression low high

theorem Fragment.IsTest.readsAsTest (f : Fragment) (test : f.IsTest d) : f.ReadsAsTest d := by
  obtain ⟨column, operator, operand, expr, expr_ok, ok⟩ := test
  have filled : f.filled d = some (operator.inPlace expr operand) :=
    (Operator.render_fills (Dialect.clear_render expr_ok) ok).filled
  obtain ⟨ts, reads, tokens⟩ := Operator.render_reads expr_ok ok
  have same : f.tokens d = ts := by
    rw [Fragment.tokens, filled]
    exact reads.tokens
  refine ⟨?_, ?_⟩
  · rw [filled, same]
    exact reads
  · rw [same]
    exact tokens

/-- The text of formulas joined by AND, read as a database reads it, has their truth. -/
theorem truth_of_formulas (v : List Token → Truth) {ps : List Formula}
    (tests : Condition.EveryRow (·.IsTest d) (Formula.conditions .and ps)) :
    (Condition.renderRoot (Formula.conditions .and ps)).truth d v =
      Truth.all (Formula.rowMembers (fun f => v (f.tokens d)) ps) := by
  have written := (Condition.every_imp Fragment.IsTest.written).2 _ tests
  have readable := (Condition.every_imp Fragment.IsTest.readsAsTest).2 _ tests
  obtain ⟨blank, text, params⟩ := Condition.renderRoot_eq written
  obtain ⟨parts, reads⟩ := (formula_reads v).2 ps .and readable
  have truths := reads.truths
  -- without parts there is no text, which is true, as is the conjunction of nothing
  rw [Fragment.truth, blank, reads.blank]
  cases kind : parts.isEmpty with
  | true =>
    rw [List.isEmpty_iff.mp kind] at truths
    generalize Formula.rowMembers (fun f => v (f.tokens d)) ps = ts at truths ⊢
    cases truths
    rfl
  | false =>
    have filled : (Condition.renderRoot (Formula.conditions .and ps)).filled d =
        some (Condition.layRow (pieceLayout d) false (Formula.conditions .and ps)) := by
      have fills := (row_fills.2 _ tests false).filled
      rw [← text, ← params] at fills
      exact fills
    have tokens : (Condition.renderRoot (Formula.conditions .and ps)).tokens d =
        joinTokens .and parts := by
      rw [Fragment.tokens, filled, ← reads.alone]
      exact ((row_reads.2 _ readable).1).tokens
    have some_part : parts ≠ [] := by
      rintro rfl
      cases kind
    rw [tokens]
    exact readsTo_joined .and some_part (fun part member => (reads.shape part member).1) truths _
      (Nat.le_refl _)

end

end Curator.Sql
