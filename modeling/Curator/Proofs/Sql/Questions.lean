import Curator.Proofs.Sql.Phrases
/-!
# What selections ask for

The statements of a selection, read as a database reads them: the one that fetches the rows asks for
the rows of a query, and the one that counts them asks for the number of rows of a query about the
same tables, with the same joins, condition and groups.
-/

set_option autoImplicit false

namespace Curator.Sql

open Outcome

/-! ## Legible selections -/

/-- The tokens of a text without parameters. -/
def textTokens (text : String) : List Token := tokens (Piece.ofText text.toList)

/-- A text that joins rows is read as a join. -/
def IsJoin (text : String) : Prop :=
  ∃ (j : Joined) (ts : List Token), Phrases (Piece.ofText (' ' :: text.toList)) ts j.parts

namespace Select

/-- A selection whose texts are read as parts of a query. -/
structure Legible (s : Select) : Prop where
  table : ∀ text, s.table = some text → ∃ name, Text.isIdentifier name = true ∧ text = quoted name
  columns : ∀ text ∈ s.columns, IsLegible text
  joins : ∀ text ∈ s.joins, IsJoin text
  order : ∀ text ∈ s.order, IsLegible text
  groups : ∀ text ∈ s.groups, IsLegible text

variable {s t : Select}

theorem Legible.add (legible : s.Legible) (c : Condition) : (s.add c).Legible := by
  unfold Select.add
  split
  · exact { legible with }
  · exact { legible with }

theorem Legible.from_ (legible : s.Legible) {table : String} (ok : s.from_ table = .ok t) :
    t.Legible := by
  obtain ⟨_, quotes, ok⟩ := bind_ok ok
  obtain ⟨valid, rfl⟩ := quote_ok quotes
  cases pure_ok ok
  refine { legible with table := fun text same => ?_ }
  cases same
  exact ⟨table, valid, rfl⟩

/-- A column under another name. -/
theorem isLegible_labelled {expr label : String} {ts : List Token}
    (closed : Closed (Piece.ofText expr.toList) ts) (balanced : Balanced ts)
    (valid : Text.isAlias label = true) : IsLegible (expr ++ " AS " ++ quoted label) := by
  have apart : '"' ∉ label.toList := by
    intro member
    rcases Text.isLabelChar_of_isAlias valid member with key | other
    · exact absurd key (by decide)
    · exact absurd other (by decide)
  have as : Closed (Piece.ofText " AS ".toList) [.word "AS".toList] := closed_of_run rfl
  have name : Closed (Piece.ofText (quoted label).toList) [.quoted '"' label.toList] := by
    have text : (quoted label).toList = '"' :: label.toList ++ ['"'] := by simp [quoted]
    rw [text]
    exact closed_quoted (Or.inl rfl) apart
  refine ⟨ts ++ [.word "AS".toList] ++ [.quoted '"' label.toList], ?_,
    (balanced.append (balanced_plain rfl)).append (balanced_plain rfl)⟩
  rw [String.toList_append, String.toList_append, ofText_append, ofText_append]
  exact ((closed.append as).append name).reads

theorem Legible.column (legible : s.Legible) {column : Column} {label : Option String}
    (ok : s.column column label = .ok t) : t.Legible := by
  obtain ⟨expr, expr_ok, ok⟩ := bind_ok ok
  obtain ⟨ts, closed, expression⟩ := render_closed expr_ok
  cases label with
  | none =>
    cases pure_ok ok
    exact { legible with
      columns := mem_append_singleton legible.columns ⟨ts, closed.reads, expression.balanced⟩ }
  | some label =>
    obtain ⟨label, label_ok, ok⟩ := bind_ok ok
    cases pure_ok ok
    obtain ⟨valid, rfl⟩ := quoteAlias_ok label_ok
    exact { legible with
      columns := mem_append_singleton legible.columns
        (isLegible_labelled closed expression.balanced valid) }

/-- The target of a join. -/
theorem target_closed {table target : String} {label : Option String}
    (valid : Text.isIdentifier table = true)
    (named : target = quoted table ∨ ∃ name, label = some name ∧ Text.isIdentifier name = true ∧
      target = quoted table ++ " AS " ++ quoted name) :
    ∃ source : Source, Closed (Piece.ofText target.toList) source.tokens ∧
      source.tokens.all Token.isPlain = true := by
  rcases named with rfl | ⟨name, _, nameValid, rfl⟩
  · exact ⟨⟨table, none⟩, closed_name valid, rfl⟩
  · have as : Closed (Piece.ofText " AS ".toList) [.word "AS".toList] := closed_of_run rfl
    refine ⟨⟨table, some name⟩, ?_, rfl⟩
    rw [String.toList_append, String.toList_append, ofText_append, ofText_append]
    exact ((closed_name valid).append as).append (closed_name nameValid)

/-- A join is a phrase for its target and one for what it is on. -/
theorem isJoin_equated {target left right : String} {source : Source} {ls rs : List Token}
    (target_reads : Closed (Piece.ofText target.toList) source.tokens)
    (plain : source.tokens.all Token.isPlain = true)
    (left_reads : Closed (Piece.ofText left.toList) ls) (left_balanced : Balanced ls)
    (right_reads : Closed (Piece.ofText right.toList) rs) (right_balanced : Balanced rs) :
    IsJoin ("LEFT JOIN " ++ target ++ " ON " ++ left ++ " = " ++ right) := by
  have join : Closed (Piece.ofText " LEFT JOIN ".toList) [Keyword.left.token, .word "JOIN".toList] :=
    closed_of_run rfl
  have on : Closed (Piece.ofText " ON ".toList) [Keyword.on.token] := closed_of_run rfl
  have equals : Closed (Piece.ofText " = ".toList) [.sign '='] := closed_of_run rfl
  have targeted : Phrases (Piece.ofText " LEFT JOIN ".toList ++ Piece.ofText target.toList)
      (Keyword.left.token :: .word "JOIN".toList :: source.tokens)
      [(.left, .word "JOIN".toList :: source.tokens)] :=
    phrases_keyword (Or.inr ⟨' ', _, rfl, by decide⟩) (join.append target_reads).reads
      ((balanced_plain rfl).append (solid_plain plain).2)
  have equated : Phrases (Piece.ofText " ON ".toList ++ (Piece.ofText left.toList ++
        Piece.ofText " = ".toList ++ Piece.ofText right.toList))
      (Keyword.on.token :: (ls ++ [.sign '='] ++ rs)) [(.on, ls ++ [.sign '='] ++ rs)] :=
    phrases_keyword (Or.inr ⟨' ', _, rfl, by decide⟩)
      (on.append ((left_reads.append equals).append right_reads)).reads
      ((left_balanced.append (balanced_plain rfl)).append right_balanced)
  have whole := targeted.append equated
  have text : Piece.ofText (' ' ::
      ("LEFT JOIN " ++ target ++ " ON " ++ left ++ " = " ++ right).toList) =
      Piece.ofText " LEFT JOIN ".toList ++ Piece.ofText target.toList ++
        (Piece.ofText " ON ".toList ++ (Piece.ofText left.toList ++ Piece.ofText " = ".toList ++
          Piece.ofText right.toList)) := by
    simp only [String.toList_append, ← ofText_append, List.append_assoc]
    rfl
  rw [← text] at whole
  exact ⟨⟨source, ls ++ [.sign '='] ++ rs⟩, _, whole⟩

theorem Legible.leftJoin (legible : s.Legible) {table : String} {left right : Column}
    {label : Option String} (ok : s.leftJoin table left right label = .ok t) : t.Legible := by
  obtain ⟨target, leftExpr, rightExpr, valid, named, left_ok, right_ok, rfl⟩ := leftJoin_ok ok
  obtain ⟨source, target_reads, plain⟩ := target_closed valid named
  obtain ⟨ls, left_reads, left_tokens⟩ := render_closed left_ok
  obtain ⟨rs, right_reads, right_tokens⟩ := render_closed right_ok
  have joins := isJoin_equated target_reads plain left_reads left_tokens.balanced right_reads
    right_tokens.balanced
  exact { legible with joins := mem_append_singleton legible.joins joins }

theorem Legible.where_ (legible : s.Legible) {connector : Connector} {column : Column}
    {operator : Operator} {operand : Value}
    (ok : s.where_ connector column operator operand = .ok t) : t.Legible := by
  obtain ⟨_, _, ok⟩ := bind_ok ok
  obtain ⟨_, _, ok⟩ := bind_ok ok
  cases pure_ok ok
  exact legible.add _

theorem Legible.endGroup (legible : s.Legible) (ok : s.endGroup = .ok t) : t.Legible := by
  unfold Select.endGroup at ok
  split at ok
  · cases ok
  · rename_i innermost outer _
    cases ok
    have closed : Legible { s with openGroups := outer } := { legible with }
    exact closed.add _

theorem isLegible_orderItem {d : Dialect} {field text : String} (ok : orderItem d field = .ok text) :
    IsLegible text := by
  obtain ⟨expr, expr_ok, ok⟩ := bind_ok ok
  cases pure_ok ok
  obtain ⟨ts, closed, expression⟩ := render_closed expr_ok
  have space : Closed (Piece.ofText " ".toList) [] := closed_of_run rfl
  have direction : IsLegible (if Text.startsWith field "-" then "DESC" else "ASC") := by
    split
    · exact ⟨_, reads_word (by decide) (List.all_eq_true.mp rfl), balanced_plain rfl⟩
    · exact ⟨_, reads_word (by decide) (List.all_eq_true.mp rfl), balanced_plain rfl⟩
  obtain ⟨us, reads, balanced⟩ := direction
  refine ⟨ts ++ [] ++ us, ?_, (expression.balanced.append balanced_nil).append balanced⟩
  rw [String.toList_append, String.toList_append, ofText_append, ofText_append]
  exact (closed.append space).append_reads reads

/-- Whatever is made is legible. -/
theorem Made.legible (made : s.Made) : s.Legible := by
  induction made with
  | new d => exact ⟨nofun, nofun, nofun, nofun, nofun⟩
  | from_ _ ok legible => exact legible.from_ ok
  | column _ ok legible => exact legible.column ok
  | leftJoin _ ok legible => exact legible.leftJoin ok
  | whereNamed _ ok legible =>
    obtain ⟨_, ok⟩ := whereNamed_ok ok
    exact legible.where_ ok
  | where_ _ ok legible => exact legible.where_ ok
  | startGroup connector _ legible => exact { legible with }
  | endGroup _ ok legible => exact legible.endGroup ok
  | orderBy fields _ legible =>
    refine { legible with order := fun text member => ?_ }
    rcases List.mem_append.mp member with member | member
    · exact legible.order text member
    · obtain ⟨field, _, ok⟩ := mem_renderedUntilRefused member
      exact isLegible_orderItem ok
  | groupBy columns _ legible =>
    refine { legible with groups := fun text member => ?_ }
    rcases List.mem_append.mp member with member | member
    · exact legible.groups text member
    · obtain ⟨column, _, ok⟩ := mem_renderedUntilRefused member
      obtain ⟨ts, closed, expression⟩ := render_closed ok
      exact ⟨ts, closed.reads, expression.balanced⟩
  | limit _ _ legible => exact { legible with }
  | offset _ _ legible => exact { legible with }

/-! ## The query of a selection -/

/-- The joins of a selection as a statement has them, with a blank in front of each. -/
def joinText (s : Select) : String := if s.joins.isEmpty then "" else " " ++ Text.join " " s.joins

/-- The joins of a selection. -/
def joined (s : Select) : List Joined :=
  ((takeJoins? (partsFrom 0 (textTokens s.joinText)).later).map (·.1)).getD []

/-- The condition of a selection; none where it has no tests. -/
def condition (s : Select) : Option (List Token) :=
  let conditions := Condition.renderRoot s.root
  if conditions.sql.isEmpty then none else some (conditions.tokens s.dialect)

/-- Expressions behind a keyword and the word that goes with it. -/
def listedTokens (texts : List String) : Option (List Token) :=
  if texts.isEmpty then none else some (.word "BY".toList :: textTokens (Text.join ", " texts))

/-- A query finds the rows of a selection: it is about the same table, with the same joins, condition
and groups. -/
structure Finds (s : Select) (q : Query) : Prop where
  source : s.table = some (quoted q.source.table) ∧ q.source.renamed = none
  joins : q.joins = s.joined
  condition : q.condition = s.condition
  groups : q.groups = listedTokens s.groups

/-! ## Its phrases -/

theorem toList_joinText (s : Select) :
    s.joinText.toList = s.joins.flatMap fun text => ' ' :: text.toList := by
  unfold joinText
  induction s.joins with
  | nil => rfl
  | cons text rest ih =>
    cases rest with
    | nil => simp [Text.join]
    | cons next rest =>
      simp only [List.isEmpty_cons, Bool.false_eq_true, if_false, Text.join, String.toList_append,
        String.toList_intercalate] at ih ⊢
      rw [List.flatMap_cons, ← ih]
      simp [List.intercalate_cons_cons]

theorem joined_phrases (legible : s.Legible) :
    ∃ ts, Phrases (Piece.ofText s.joinText.toList) ts (s.joined.flatMap Joined.parts) := by
  have all : ∀ texts : List String, (∀ text ∈ texts, IsJoin text) → ∃ (js : List Joined) (ts : _),
      Phrases (Piece.ofText (texts.flatMap fun text => ' ' :: text.toList)) ts
        (js.flatMap Joined.parts) := by
    intro texts each
    induction texts with
    | nil => exact ⟨[], [], phrases_nil⟩
    | cons text rest ih =>
      obtain ⟨j, ts, phrase⟩ := each text List.mem_cons_self
      obtain ⟨js, us, phrases⟩ := ih fun other member => each other (List.mem_cons_of_mem _ member)
      refine ⟨j :: js, ts ++ us, ?_⟩
      rw [List.flatMap_cons, List.flatMap_cons, ofText_append]
      exact phrase.append phrases
  obtain ⟨js, ts, phrases⟩ := all s.joins legible.joins
  rw [← toList_joinText] at phrases
  have whole := phrases.parted [] [] rfl
  rw [List.append_nil, List.append_nil] at whole
  have taken := takeJoins?_parts Keyword.before_nil js
  rw [List.append_nil] at taken
  have same : s.joined = js := by
    rw [joined, textTokens, phrases.reads.tokens, whole, taken]
    rfl
  rw [same]
  exact ⟨ts, phrases⟩

/-- The conditions of a selection behind WHERE, their parameters in place. -/
def filterPieces (s : Select) : List Piece :=
  if (Condition.renderRoot s.root).sql.isEmpty then []
  else Piece.ofText " WHERE ".toList ++ Condition.layRow (pieceLayout s.dialect) false s.root

theorem filter_fills (made : s.Made) :
    s.dialect.Fills s.filterText.toList (Condition.renderRoot s.root).params s.filterPieces := by
  have tests := made.sound.root
  have written := (Condition.every_imp Fragment.IsTest.written).2 s.root tests
  obtain ⟨_, row, params⟩ := Condition.renderRoot_eq written
  have fills := row_fills.2 s.root tests false
  rw [← row, ← params] at fills
  unfold filterText filterPieces
  cases empty : (Condition.renderRoot s.root).sql.isEmpty with
  | true =>
    have bare : (Condition.renderRoot s.root).params = [] := by
      rw [Condition.toList_of_isEmpty empty] at fills
      have filled := fills.filled
      cases values : (Condition.renderRoot s.root).params with
      | nil => rfl
      | cons v more =>
        rw [values] at filled
        simp [fillFrom] at filled
    simp only [empty, if_true, bare]
    exact Dialect.fills_nil
  | false =>
    have keyword : s.dialect.Fills " WHERE ".toList [] (Piece.ofText " WHERE ".toList) :=
      Dialect.fills_clear (Dialect.clear_text (by decide))
    simp only [empty, Bool.false_eq_true, if_false, String.toList_append]
    exact keyword.append fills

/-- Rows of tests are read as tokens of one part. -/
theorem row_balanced {d : Dialect} :
    (∀ c : Condition, c.Every (·.ReadsAsTest d) → Balanced (c.lay (tokenLayout d))) ∧
    ∀ cs : List Condition, Condition.EveryRow (·.ReadsAsTest d) cs → ∀ behind : Bool,
      Balanced (Condition.layRow (tokenLayout d) behind cs) := by
  refine Condition.nested_induction ?predicate ?group ?nil ?cons
  case predicate => exact fun connector fragment holds => holds.test.balanced
  case group =>
    intro connector children row holds
    have whole := balanced_wrapped (row holds false)
    simpa [wrapped, Condition.lay, tokenLayout] using whole
  case nil => exact fun _ _ => balanced_nil
  case cons =>
    intro first rest head tail holds behind
    cases blank : first.isBlank with
    | true =>
      rw [Condition.layRow_blank _ _ blank]
      exact tail holds.2 behind
    | false =>
      rw [Condition.layRow_solid _ _ blank]
      have joint : Balanced (if behind then (tokenLayout d).word first.connector else []) := by
        cases behind with
        | false => exact balanced_nil
        | true => exact balanced_token (by cases first.connector <;> rfl)
      exact (joint.append (head holds.1)).append (tail holds.2 true)

theorem filter_phrases (made : s.Made) :
    ∃ ts, Phrases s.filterPieces ts (optionalPart .where_ s.condition) := by
  have tests := made.sound.root
  have written := (Condition.every_imp Fragment.IsTest.written).2 s.root tests
  have readable := (Condition.every_imp Fragment.IsTest.readsAsTest).2 s.root tests
  obtain ⟨_, row, params⟩ := Condition.renderRoot_eq written
  have fills := row_fills.2 s.root tests false
  rw [← row, ← params] at fills
  unfold filterPieces condition
  cases empty : (Condition.renderRoot s.root).sql.isEmpty with
  | true =>
    simp only [empty, if_true]
    exact ⟨[], phrases_nil⟩
  | false =>
    have reads := (row_reads.2 s.root readable).1
    have filled : (Condition.renderRoot s.root).filled s.dialect =
        some (Condition.layRow (pieceLayout s.dialect) false s.root) := fills.filled
    have tokens : (Condition.renderRoot s.root).tokens s.dialect =
        Condition.layRow (tokenLayout s.dialect) false s.root := by
      rw [Fragment.tokens, filled]
      exact reads.tokens
    have keyword : Closed (Piece.ofText " WHERE ".toList) [Keyword.where_.token] := closed_of_run rfl
    simp only [empty, Bool.false_eq_true, if_false, tokens]
    exact ⟨_, phrases_keyword (Or.inr ⟨' ', _, rfl, by decide⟩) (keyword.append_reads reads)
      (row_balanced.2 s.root readable false)⟩

/-- A clause of a keyword, the words that go with it and a text. -/
theorem phrases_clause {k : Keyword} {words text : String} {lead ts : List Token}
    (word : Closed (Piece.ofText words.toList) (k.token :: lead)) (plain : Balanced lead)
    (breaks : ∃ rest, words.toList = ' ' :: rest) (reads : Reads (Piece.ofText text.toList) ts)
    (balanced : Balanced ts) :
    Phrases (Piece.ofText (words ++ text).toList) (k.token :: (lead ++ ts)) [(k, lead ++ ts)] := by
  obtain ⟨rest, begins⟩ := breaks
  refine phrases_keyword ?_ ?_ (plain.append balanced)
  · refine Or.inr ⟨' ', Piece.ofText (rest ++ text.toList), ?_, by decide⟩
    rw [String.toList_append, begins]
    rfl
  · rw [String.toList_append, ofText_append]
    exact word.append_reads reads

theorem listed_phrases (k : Keyword) (words : String) {texts : List String}
    (word : Closed (Piece.ofText words.toList) [k.token, .word "BY".toList])
    (breaks : ∃ rest, words.toList = ' ' :: rest) (all : ∀ text ∈ texts, IsLegible text) :
    ∃ ts, Phrases (Piece.ofText
        (if texts.isEmpty then "" else words ++ Text.join ", " texts).toList) ts
      (optionalPart k (listedTokens texts)) := by
  unfold listedTokens
  cases texts.isEmpty with
  | true => exact ⟨[], phrases_nil⟩
  | false =>
    obtain ⟨ts, reads, balanced⟩ := isLegible_join all
    have same : textTokens (Text.join ", " texts) = ts := reads.tokens
    rw [same]
    exact ⟨_, phrases_clause word (balanced_plain rfl) breaks reads balanced⟩

theorem isLegible_integerText {n : Int} {text : String} (ok : integerText n = .ok text) :
    IsLegible text := by
  unfold integerText Number.integerText? at ok
  split at ok
  · rename_i written shown
    split at shown
    · cases ok
      cases shown
      exact isLegible_integer n
    · cases shown
  · cases ok

theorem limit_phrases {limit : String} (limit_ok : s.limitClause = .ok limit) :
    ∃ (least : Option (List Token)) (ts : _),
      Phrases (Piece.ofText limit.toList) ts (optionalPart .limit least) ∧
      (s.limit = none → limit = "" ∧ least = none) := by
  unfold limitClause at limit_ok
  split at limit_ok
  · cases limit_ok
    exact ⟨none, [], phrases_nil, fun _ => ⟨rfl, rfl⟩⟩
  · rename_i n bounded
    obtain ⟨text, number, limit_ok⟩ := bind_ok limit_ok
    cases pure_ok limit_ok
    obtain ⟨ts, reads, balanced⟩ := isLegible_integerText number
    have word : Closed (Piece.ofText " LIMIT ".toList) [Keyword.limit.token] := closed_of_run rfl
    refine ⟨some ts, _, phrases_clause word balanced_nil ⟨_, rfl⟩ reads balanced, fun unset => ?_⟩
    rw [bounded] at unset
    cases unset

/-- The bounds of a selection; without a limit an offset may still bring one. -/
theorem bound_phrases {limit offset : String} (limit_ok : s.limitClause = .ok limit)
    (offset_ok : s.offsetClause = .ok offset) : ∃ (least most : Option (List Token)) (ts : _),
      Phrases (Piece.ofText (limit ++ offset).toList) ts
        (optionalPart .limit least ++ (optionalPart .offset most ++ [])) ∧
      (s.limit = none → s.offset = none → least = none ∧ most = none) := by
  obtain ⟨least, ts, limited, free⟩ := limit_phrases limit_ok
  have unmoved : offset = "" → ∃ (least most : Option (List Token)) (ts : _),
      Phrases (Piece.ofText (limit ++ offset).toList) ts
        (optionalPart .limit least ++ (optionalPart .offset most ++ [])) ∧
      (s.limit = none → s.offset = none → least = none ∧ most = none) := by
    rintro rfl
    refine ⟨least, none, ts, ?_, fun unset _ => ⟨(free unset).2, rfl⟩⟩
    rw [String.append_empty]
    simpa [optionalPart] using limited
  unfold offsetClause at offset_ok
  split at offset_ok
  · exact unmoved (Except.ok.inj offset_ok).symm
  · rename_i n moved
    split at offset_ok
    · exact unmoved (Except.ok.inj offset_ok).symm
    · obtain ⟨text, number, offset_ok⟩ := bind_ok offset_ok
      obtain ⟨us, reads, balanced⟩ := isLegible_integerText number
      have word : Closed (Piece.ofText " OFFSET ".toList) [Keyword.offset.token] :=
        closed_of_run rfl
      have behind := phrases_clause word balanced_nil ⟨_, rfl⟩ reads balanced
      have set : ¬ s.offset = none := by
        rw [moved]
        exact Option.some_ne_none n
      cases pure_ok offset_ok
      cases wanted : s.limit.isNone && s.dialect == .sqlite with
      | false =>
        have whole := limited.append behind
        refine ⟨least, some us, ts ++ Keyword.offset.token :: us, ?_, fun _ unset =>
          absurd unset set⟩
        simpa [optionalPart, ofText_append] using whole
      | true =>
        have unset : s.limit = none := by
          simp only [Bool.and_eq_true, Option.isNone_iff_eq_none] at wanted
          exact wanted.1
        have minus : Reads (Piece.ofText "-1".toList) ([.sign '-'] ++ [.word "1".toList]) :=
          reads_of_run rfl
        have word : Closed (Piece.ofText " LIMIT ".toList) [Keyword.limit.token] :=
          closed_of_run rfl
        have unlimited := phrases_clause word balanced_nil ⟨_, rfl⟩ minus
          ((balanced_plain (t := .sign '-') rfl).append (balanced_plain rfl))
        have whole := unlimited.append behind
        refine ⟨some [.sign '-', .word "1".toList], some us,
          Keyword.limit.token :: [.sign '-', .word "1".toList] ++ Keyword.offset.token :: us, ?_,
          fun _ unset => absurd unset set⟩
        rw [(free unset).1]
        simpa [optionalPart, Piece.ofText] using whole

/-! ## Its statements -/

/-- The statement from FROM to WHERE, its parameters in place. -/
def foundPieces (s : Select) (table : String) : List Piece :=
  Piece.ofText (" FROM " ++ table ++ s.joinText).toList ++ s.filterPieces

variable {f : Fragment}

/-- The part that all statements of a selection share, with what follows it. -/
theorem found_phrases (made : s.Made) {table : String} (named : s.table = some table)
    {behind : List Piece} {us : List Token} {others : List Part} (rest : Phrases behind us others) :
    ∃ (name : String) (ts : _), table = quoted name ∧ Phrases (s.foundPieces table ++ behind) ts
      ((.from_, (Source.mk name none).tokens) ::
        (s.joined.flatMap Joined.parts ++ (optionalPart .where_ s.condition ++ others))) := by
  obtain ⟨name, valid, rfl⟩ := made.legible.table table named
  obtain ⟨js, joins⟩ := joined_phrases made.legible
  obtain ⟨cs, filter⟩ := filter_phrases made
  have word : Closed (Piece.ofText " FROM ".toList) [Keyword.from_.token] := closed_of_run rfl
  have source := phrases_clause word balanced_nil ⟨_, rfl⟩ (closed_name valid).reads
    (balanced_plain (t := .quoted '"' name.toList) rfl)
  have whole := source.append (joins.append (filter.append rest))
  have pieces : s.foundPieces (quoted name) ++ behind =
      Piece.ofText (" FROM " ++ quoted name).toList ++ (Piece.ofText s.joinText.toList ++
        (s.filterPieces ++ behind)) := by
    simp only [foundPieces, String.toList_append, ofText_append, List.append_assoc]
  rw [← pieces] at whole
  exact ⟨name, _, rfl, whole⟩

theorem found_fills (made : s.Made) {table : String} (named : s.table = some table) :
    s.dialect.Fills (" FROM " ++ table ++ s.joinText ++ s.filterText).toList
      (Condition.renderRoot s.root).params (s.foundPieces table) := by
  have front : s.dialect.Clear (" FROM " ++ table ++ s.joinText).toList := by
    have head : s.dialect.Clear (s.headText "" table).toList :=
      clear_headText made (Dialect.clear_text rfl) named
    simpa [headText, joinText] using head
  rw [String.toList_append]
  exact (Dialect.fills_clear front).append (filter_fills made)

/-- A statement is what is found between texts without parameters. -/
theorem filled_found (made : s.Made) {table front back : String} (named : s.table = some table)
    (front_clear : s.dialect.Clear front.toList) (back_clear : s.dialect.Clear back.toList)
    (params : f.params = (Condition.renderRoot s.root).params)
    (text : f.sql = front ++ (" FROM " ++ table ++ s.joinText ++ s.filterText) ++ back) :
    f.tokens s.dialect = tokens (Piece.ofText front.toList ++ (s.foundPieces table ++
      Piece.ofText back.toList)) := by
  have fills := ((Dialect.fills_clear front_clear).append (found_fills made named)).append
    (Dialect.fills_clear back_clear)
  rw [List.append_nil, List.nil_append, ← params] at fills
  have filled : f.filled s.dialect = some (Piece.ofText front.toList ++ s.foundPieces table ++
      Piece.ofText back.toList) := by
    rw [Fragment.filled, text, String.toList_append, String.toList_append]
    exact fills.filled
  rw [Fragment.tokens, filled, List.append_assoc]
  rfl

/-- The statement that fetches the rows asks for those of a query. -/
theorem toSql_question (made : s.Made) (ok : s.toSql = .ok f) :
    ∃ q, f.question? s.dialect = some (.rows q) ∧ s.Finds q ∧
      (s.limit = none → s.offset = none → q.limit = none ∧ q.offset = none) := by
  obtain ⟨table, limit, offset, named, _, limit_ok, offset_ok, params, text⟩ := toSql_ok ok
  obtain ⟨gs, groups⟩ := listed_phrases .group " GROUP BY " (closed_of_run rfl)
    ⟨_, rfl⟩ made.legible.groups
  obtain ⟨os, order⟩ := listed_phrases .order " ORDER BY " (closed_of_run rfl)
    ⟨_, rfl⟩ made.legible.order
  obtain ⟨least, most, bs, bounds, free⟩ := bound_phrases limit_ok offset_ok
  obtain ⟨name, ts, rfl, found⟩ := found_phrases made named (groups.append (order.append bounds))
  have selected : ∃ us, Reads (Piece.ofText s.selectedText.toList) (Keyword.select.token :: us) ∧
      Balanced us := by
    have word : Closed (Piece.ofText "SELECT ".toList) [Keyword.select.token] := closed_of_run rfl
    have columns : IsLegible (if s.columns.isEmpty then "*" else Text.join ", " s.columns) := by
      split
      · exact ⟨[.sign '*'], (closed_of_run rfl).reads, balanced_plain rfl⟩
      · exact isLegible_join made.legible.columns
    obtain ⟨us, reads, balanced⟩ := columns
    refine ⟨us, ?_, balanced⟩
    rw [selectedText, String.toList_append, ofText_append]
    exact word.append_reads reads
  obtain ⟨us, reads, balanced⟩ := selected
  have tail : Piece.ofText (s.tailText limit offset).toList =
      Piece.ofText (if s.groups.isEmpty then "" else " GROUP BY " ++ Text.join ", " s.groups).toList ++
        (Piece.ofText (if s.order.isEmpty then "" else " ORDER BY " ++ Text.join ", " s.order).toList ++
          Piece.ofText (limit ++ offset).toList) := by
    simp only [tailText, String.toList_append, ofText_append, List.append_assoc]
  have tokens := filled_found made named (clear_selectedText made)
    (clear_tailText made limit_ok offset_ok) params (text.trans (by
      simp only [headText, joinText, String.append_assoc]))
  obtain ⟨whole, _, parted⟩ := found.statement reads balanced
  rw [tail, whole.tokens] at tokens
  refine ⟨⟨us, ⟨name, none⟩, s.joined, s.condition, listedTokens s.groups, listedTokens s.order, least,
    most⟩, ?_, ⟨⟨named, rfl⟩, rfl, rfl, rfl⟩, free⟩
  rw [Fragment.question?, tokens, parted]
  exact question_rows rfl

/-- What the counting statement says before and behind its rows. -/
def countFrame (s : Select) : String × String :=
  if s.groups.isEmpty then ("SELECT COUNT(*) AS \"aggregate\"", "")
  else ("SELECT COUNT(*) AS \"aggregate\" FROM (SELECT 1 AS \"grouped_row\"",
    " GROUP BY " ++ Text.join ", " s.groups ++ ") AS \"grouped\"")

theorem countSql_text (ok : s.countSql = .ok f) : ∃ table, s.table = some table ∧
    f.params = (Condition.renderRoot s.root).params ∧
    f.sql = s.countFrame.1 ++ (" FROM " ++ table ++ s.joinText ++ s.filterText) ++ s.countFrame.2 := by
  obtain ⟨aggregate, _, ok⟩ := bind_ok ok
  obtain ⟨⟨source, conditional⟩, source_ok, ok⟩ := bind_ok ok
  obtain ⟨table, named, _, params, text⟩ := fromClause_ok source_ok
  have found : source.sql = " FROM " ++ table ++ s.joinText ++ s.filterText := by
    have alone := text ""
    simpa [headText, joinText] using alone
  unfold countFrame
  simp only at ok
  split at ok
  · rename_i ungrouped
    cases pure_ok ok
    refine ⟨table, named, params, ?_⟩
    rw [if_pos ungrouped, found, String.append_empty]
  · rename_i grouped
    cases pure_ok ok
    refine ⟨table, named, params, ?_⟩
    rw [if_neg grouped, found]
    simp only [String.append_assoc]

theorem clear_countFrame (made : s.Made) : s.dialect.Clear s.countFrame.1.toList ∧
    s.dialect.Clear s.countFrame.2.toList := by
  unfold countFrame
  split
  · exact ⟨Dialect.clear_text (by decide), Dialect.clear_text (by decide)⟩
  · have groups : s.dialect.Clear (Text.join ", " s.groups).toList :=
      Dialect.clear_join (Dialect.clear_text (by decide)) made.sound.groups
    refine ⟨Dialect.clear_text ?_, Dialect.clear_append (Dialect.clear_append
      (Dialect.clear_text (by decide)) groups) (Dialect.clear_text (by decide))⟩
    simp only
    decide

/-- The statement that counts the rows asks for the number of rows of a query. -/
theorem countSql_question (made : s.Made) (ok : s.countSql = .ok f) :
    ∃ q, f.question? s.dialect = some (.count q) ∧ s.Finds q ∧ q.limit = none ∧ q.offset = none := by
  obtain ⟨table, named, params, text⟩ := countSql_text ok
  obtain ⟨front_clear, back_clear⟩ := clear_countFrame made
  have tokens := filled_found made named front_clear back_clear params text
  have begins : Reads (Piece.ofText "SELECT".toList) [Keyword.select.token] :=
    reads_word (by decide) (List.all_eq_true.mp rfl)
  cases grouped : s.groups.isEmpty with
  | true =>
    obtain ⟨name, ts, rfl, found⟩ := found_phrases made named phrases_nil
    obtain ⟨whole, _, parted⟩ := (count_phrases.append found).statement begins balanced_nil
    have front : Piece.ofText s.countFrame.1.toList =
        Piece.ofText "SELECT".toList ++ Piece.ofText " COUNT(*) AS \"aggregate\"".toList := by
      rw [countFrame, if_pos grouped]
      rfl
    have back : Piece.ofText s.countFrame.2.toList = [] := by
      rw [countFrame, if_pos grouped]
      rfl
    rw [front, back, List.append_assoc, whole.tokens] at tokens
    let q : Query := ⟨[], ⟨name, none⟩, s.joined, s.condition, none, none, none, none⟩
    refine ⟨q, ?_, ⟨⟨named, rfl⟩, rfl, rfl, ?_⟩, rfl, rfl⟩
    · rw [Fragment.question?, tokens, parted]
      exact question_counted (q := q) rfl rfl rfl rfl
    · rw [listedTokens, if_pos grouped]
  | false =>
    obtain ⟨gs, groups⟩ := listed_phrases .group " GROUP BY " (closed_of_run rfl)
      ⟨_, rfl⟩ made.legible.groups
    obtain ⟨name, ts, rfl, found⟩ := found_phrases made named (groups.append phrases_nil)
    -- the statement in the parentheses, read on its own
    let row : List Token := [.word "1".toList, .word "AS".toList, .quoted '"' "grouped_row".toList]
    have one : Reads (Piece.ofText "SELECT 1 AS \"grouped_row\"".toList)
        (Keyword.select.token :: row) := (closed_of_run rfl).reads
    obtain ⟨inner, nested, parted⟩ := found.statement one (solid_plain rfl).2
    have whole := enclosing_reads inner
    have front : Piece.ofText s.countFrame.1.toList =
        Piece.ofText "SELECT COUNT(*) AS \"aggregate\" FROM (".toList ++
          Piece.ofText "SELECT 1 AS \"grouped_row\"".toList := by
      rw [countFrame, if_neg (by simp [grouped]), ← ofText_append, ← String.toList_append]
      rfl
    have back : Piece.ofText s.countFrame.2.toList = Piece.ofText
        (if s.groups.isEmpty then "" else " GROUP BY " ++ Text.join ", " s.groups).toList ++
          Piece.ofText ") AS \"grouped\"".toList := by
      rw [countFrame, if_neg (by simp [grouped]), if_neg (by simp [grouped]), String.toList_append,
        ofText_append]
    have read : f.tokens s.dialect = enclosingTokens (Keyword.select.token :: row ++ ts)
        [.word "AS".toList, .quoted '"' "grouped".toList] := by
      rw [tokens, front, back, ← whole.tokens]
      simp only [List.append_assoc, List.append_nil]
    let q : Query :=
      ⟨row, ⟨name, none⟩, s.joined, s.condition, listedTokens s.groups, none, none, none⟩
    refine ⟨q, ?_, ⟨⟨named, rfl⟩, rfl, rfl, rfl⟩, rfl, rfl⟩
    rw [Fragment.question?, read, partsFrom_enclosing nested (solid_plain rfl).2]
    exact question_enclosed (q := q) nested parted

end Select

end Curator.Sql
