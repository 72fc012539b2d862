import Curator.Proofs.Outcome
import Curator.Proofs.Text.Names
import Curator.Sql.Dialect
/-!
# Column expressions

What the expression of a column looks like once it is rendered: identifiers in quotes, and for keys
inside a column the literal of their path.
-/

set_option autoImplicit false

namespace Curator

open Outcome

theorem Text.mem_join {mark : String} {parts : List String} {c : Char}
    (member : c ∈ (Text.join mark parts).toList) :
    c ∈ mark.toList ∨ ∃ part ∈ parts, c ∈ part.toList := by
  rw [Text.join, String.toList_intercalate] at member
  induction parts with
  | nil => simp at member
  | cons part rest ih =>
    cases rest with
    | nil => exact Or.inr ⟨part, List.mem_cons_self, by simpa using member⟩
    | cons next rest =>
      simp only [List.map_cons, List.intercalate_cons_cons, List.mem_append] at member
      rcases member with (member | member) | member
      · exact Or.inr ⟨part, List.mem_cons_self, member⟩
      · exact Or.inl member
      · rcases ih (by simpa using member) with inMark | ⟨other, held, member⟩
        · exact Or.inl inMark
        · exact Or.inr ⟨other, List.mem_cons_of_mem part held, member⟩

namespace Sql

/-- A name that is quoted as it stands. -/
theorem quote_ok {name text : String} (ok : quote name = .ok text) :
    Text.isIdentifier name = true ∧ text = quoted name := by
  unfold quote at ok
  split at ok
  · rename_i valid
    cases ok
    exact ⟨valid, rfl⟩
  · cases ok

theorem quoteAlias_ok {name text : String} (ok : quoteAlias name = .ok text) :
    Text.isAlias name = true ∧ text = quoted name := by
  unfold quoteAlias at ok
  split at ok
  · rename_i valid
    cases ok
    exact ⟨valid, rfl⟩
  · cases ok

/-- A column in quotes, alone or behind its table. -/
theorem qualify_ok {column : String} {table : Option String} {text : String}
    (ok : qualify column table = .ok text) : Text.isIdentifier column = true ∧
      ((table = none ∧ text = quoted column) ∨
        ∃ name, table = some name ∧ Text.isIdentifier name = true ∧
          text = quoted name ++ "." ++ quoted column) := by
  unfold qualify at ok
  split at ok
  · obtain ⟨valid, rfl⟩ := quote_ok ok
    exact ⟨valid, Or.inl ⟨rfl, rfl⟩⟩
  · rename_i name
    obtain ⟨first, first_ok, ok⟩ := bind_ok ok
    obtain ⟨second, second_ok, ok⟩ := bind_ok ok
    cases pure_ok ok
    obtain ⟨tableValid, rfl⟩ := quote_ok first_ok
    obtain ⟨columnValid, rfl⟩ := quote_ok second_ok
    exact ⟨columnValid, Or.inr ⟨name, rfl, tableValid, rfl⟩⟩

theorem checkPath_ok {path : List String} (ok : checkPath path = .ok ()) :
    ∀ key ∈ path, Text.isJsonKey key = true := by
  induction path with
  | nil => exact fun _ member => nomatch member
  | cons key rest ih =>
    rw [checkPath] at ok
    split at ok
    · rename_i valid
      intro other member
      rcases List.mem_cons.mp member with rfl | member
      · exact valid
      · exact ih ok other member
    · cases ok

/-- The text around a column from whose inside a value is taken. -/
def Dialect.extracted (expr : String) (path : List String) : Dialect → String
  | .sqlite => "json_extract(" ++ expr ++ ", '" ++ Dialect.sqlite.pathLiteral path ++ "')"
  | .postgresql =>
    "((" ++ expr ++ ")::jsonb #>> '" ++ Dialect.postgresql.pathLiteral path ++ "')"

theorem extracted_sqlite (expr : String) (path : List String) :
    Dialect.sqlite.extracted expr path =
      "json_extract(" ++ expr ++ ", '" ++ Dialect.sqlite.pathLiteral path ++ "')" := rfl

theorem extracted_postgresql (expr : String) (path : List String) :
    Dialect.postgresql.extracted expr path =
      "((" ++ expr ++ ")::jsonb #>> '" ++ Dialect.postgresql.pathLiteral path ++ "')" := rfl

theorem jsonExtract_ok {d : Dialect} {expr text : String} {path : List String}
    (ok : d.jsonExtract expr path = .ok text) : path ≠ [] ∧
      (∀ key ∈ path, Text.isJsonKey key = true) ∧ text = d.extracted expr path := by
  unfold Dialect.jsonExtract at ok
  split at ok
  · cases ok
  · rename_i given
    obtain ⟨_, checked, ok⟩ := bind_ok ok
    cases pure_ok ok
    refine ⟨fun empty => given (by simp [empty]), checkPath_ok checked, ?_⟩
    cases d with
    | sqlite => rfl
    | postgresql => rfl

/-- The expression of a column is its name in quotes, or what is inside of it. -/
theorem Column.render_ok {d : Dialect} {column : Column} {expr : String}
    (ok : column.render d = .ok expr) : ∃ name, qualify column.name column.table = .ok name ∧
      ((column.path = [] ∧ expr = name) ∨
        (column.path ≠ [] ∧ (∀ key ∈ column.path, Text.isJsonKey key = true) ∧
          expr = d.extracted name column.path)) := by
  unfold Column.render at ok
  obtain ⟨name, name_ok, ok⟩ := bind_ok ok
  refine ⟨name, name_ok, ?_⟩
  split at ok
  · rename_i empty
    exact Or.inl ⟨List.isEmpty_iff.mp empty, (pure_ok ok).symm⟩
  · exact Or.inr (jsonExtract_ok ok)

/-! ## Characters -/

/-- The characters that expressions are written in: those of names and keys, quotes, and the marks
around them. -/
def IsExpressionChar (c : Char) : Prop :=
  Text.isKeyChar c = true ∨ c ∈ ['\n', '"', '\'', '.', ',', ' ', '(', ')', ':', '#', '>', '$',
    '\x7b', '\x7d']

instance (c : Char) : Decidable (IsExpressionChar c) :=
  inferInstanceAs (Decidable (Text.isKeyChar c = true ∨ c ∈ ['\n', '"', '\'', '.', ',', ' ', '(',
    ')', ':', '#', '>', '$', '\x7b', '\x7d']))

/-- A text that is written in those characters. -/
def IsExpression (text : String) : Prop := ∀ c ∈ text.toList, IsExpressionChar c

theorem IsExpression.append {first second : String} (before : IsExpression first)
    (after : IsExpression second) : IsExpression (first ++ second) := by
  intro c member
  rw [String.toList_append, List.mem_append] at member
  rcases member with member | member
  · exact before c member
  · exact after c member

theorem isExpression_text {text : String}
    (all : text.toList.all (fun c => decide (IsExpressionChar c)) = true) : IsExpression text :=
  fun c member => of_decide_eq_true (List.all_eq_true.mp all c member)

theorem isExpression_identifier {name : String} (valid : Text.isIdentifier name = true) :
    IsExpression name := by
  intro c member
  rcases Text.isNameChar_of_isIdentifier valid member with rest | rfl
  · refine Or.inl ?_
    simp only [Text.isNameRest, Text.isKeyChar, Bool.or_eq_true] at rest ⊢
    tauto
  · decide

theorem isExpression_key {key : String} (valid : Text.isJsonKey key = true) : IsExpression key := by
  intro c member
  rcases Text.isKeyChar_of_isJsonKey valid member with isKey | rfl
  · exact Or.inl isKey
  · decide

theorem isExpression_quoted {name : String} (inside : IsExpression name) :
    IsExpression (quoted name) :=
  ((isExpression_text (by decide)).append inside).append (isExpression_text (by decide))

theorem isExpression_qualify {column : String} {table : Option String} {text : String}
    (ok : qualify column table = .ok text) : IsExpression text := by
  obtain ⟨valid, ⟨_, rfl⟩ | ⟨name, _, tableValid, rfl⟩⟩ := qualify_ok ok
  · exact isExpression_quoted (isExpression_identifier valid)
  · exact ((isExpression_quoted (isExpression_identifier tableValid)).append
      (isExpression_text (by decide))).append (isExpression_quoted (isExpression_identifier valid))

/-- What a path literal is written in: the characters of its keys, and the marks around them. -/
theorem mem_pathLiteral {d : Dialect} {path : List String} {c : Char}
    (member : c ∈ (d.pathLiteral path).toList) :
    (∃ key ∈ path, c ∈ key.toList) ∨ c ∈ ['$', '.', '"', ',', '\x7b', '\x7d'] := by
  have mark : ∀ {text : String} {marks : List Char}, (text.toList.all fun c => c ∈ marks) = true →
      c ∈ text.toList → c ∈ marks :=
    fun all member => of_decide_eq_true (List.all_eq_true.mp all c member)
  cases d with
  | sqlite =>
    simp only [Dialect.pathLiteral, String.toList_append, List.mem_append] at member
    rcases member with member | member
    · exact Or.inr (mark (by decide) member)
    · rcases Text.mem_join member with member | ⟨part, held, member⟩
      · exact Or.inr (mark (by decide) member)
      · obtain ⟨key, inside, rfl⟩ := List.mem_map.mp held
        simp only [quoted, String.toList_append, List.mem_append] at member
        rcases member with (member | member) | member
        · exact Or.inr (mark (by decide) member)
        · exact Or.inl ⟨key, inside, member⟩
        · exact Or.inr (mark (by decide) member)
  | postgresql =>
    simp only [Dialect.pathLiteral, String.toList_append, List.mem_append] at member
    rcases member with (member | member) | member
    · exact Or.inr (mark (by decide) member)
    · rcases Text.mem_join member with member | ⟨key, inside, member⟩
      · exact Or.inr (mark (by decide) member)
      · exact Or.inl ⟨key, inside, member⟩
    · exact Or.inr (mark (by decide) member)

theorem isExpression_pathLiteral {d : Dialect} {path : List String}
    (valid : ∀ key ∈ path, Text.isJsonKey key = true) : IsExpression (d.pathLiteral path) := by
  intro c member
  rcases mem_pathLiteral member with ⟨key, inside, member⟩ | mark
  · exact isExpression_key (valid key inside) c member
  · have marks : ['$', '.', '"', ',', '\x7b', '\x7d'].all
        (fun c => decide (IsExpressionChar c)) = true := by decide
    exact of_decide_eq_true (List.all_eq_true.mp marks c mark)

theorem isExpression_render {d : Dialect} {column : Column} {expr : String}
    (ok : column.render d = .ok expr) : IsExpression expr := by
  obtain ⟨name, name_ok, ⟨_, rfl⟩ | ⟨_, valid, rfl⟩⟩ := Column.render_ok ok
  · exact isExpression_qualify name_ok
  · have front := isExpression_qualify name_ok
    have literal := isExpression_pathLiteral (d := d) valid
    cases d with
    | sqlite =>
      exact ((((isExpression_text (by decide)).append front).append
        (isExpression_text (by decide))).append literal).append (isExpression_text (by decide))
    | postgresql =>
      exact ((((isExpression_text (by decide)).append front).append
        (isExpression_text (by decide))).append literal).append (isExpression_text (by decide))

end Sql

end Curator
