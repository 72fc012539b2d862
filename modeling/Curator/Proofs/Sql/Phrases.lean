import Curator.Proofs.Sql.Tests
/-!
# Queries and their phrases

What a database makes of the parts of a selection: the table it is about, the tables joined to it, and
the tokens of its condition, its groups, its order and its bounds.  A statement asks for the rows of a
query or for their number.

Statements are put together from phrases, a keyword with what belongs to it.  A phrase begins apart
from what stands before it, so that phrases one after the other are read as their parts one after the
other, and inside of parentheses they end nothing.
-/

set_option autoImplicit false

namespace Curator.Sql

/-! ## Queries -/

/-- A table, and another name for its rows where they have one. -/
@[ext]
structure Source where
  table : String
  renamed : Option String

/-- The name that the rows go by. -/
def Source.label (s : Source) : String := s.renamed.getD s.table

/-- A table whose rows are joined to those before it, and what they are joined on. -/
structure Joined where
  source : Source
  on : List Token

/-- A selection of rows; a part that is left out is none. -/
structure Query where
  selected : List Token
  source : Source
  joins : List Joined
  condition : Option (List Token)
  groups : Option (List Token)
  order : Option (List Token)
  limit : Option (List Token)
  offset : Option (List Token)

/-- What a statement asks for. -/
inductive Question where
  | rows (q : Query)
  | count (q : Query)

/-! ## The reader -/

/-- A keyword and the tokens behind it. -/
abbrev Part := Keyword × List Token

def source? : List Token → Option Source
  | [.quoted '"' table] => some ⟨String.ofList table, none⟩
  | [.quoted '"' table, as, .quoted '"' label] =>
    if as.isWord "AS".toList then some ⟨String.ofList table, some (String.ofList label)⟩ else none
  | _ => none

/-- A part that may come next, and the parts behind it. -/
def takePart (k : Keyword) : List Part → Option (List Token) × List Part
  | [] => (none, [])
  | (word, ts) :: rest => if word = k then (some ts, rest) else (none, (word, ts) :: rest)

/-- The joins that come next, and the parts behind them. -/
def takeJoins? : List Part → Option (List Joined × List Part)
  | (.left, join :: target) :: (.on, on) :: rest =>
    if join.isWord "JOIN".toList then do
      let source ← source? target
      let (joins, rest) ← takeJoins? rest
      pure (⟨source, on⟩ :: joins, rest)
    else none
  | rest => some ([], rest)

def Query.ofParts? : List Part → Option Query
  | (.select, selected) :: (.from_, source) :: rest => do
    let source ← source? source
    let (joins, rest) ← takeJoins? rest
    let (condition, rest) := takePart .where_ rest
    let (groups, rest) := takePart .group rest
    let (order, rest) := takePart .order rest
    let (limit, rest) := takePart .limit rest
    let (offset, rest) := takePart .offset rest
    if rest.isEmpty then some ⟨selected, source, joins, condition, groups, order, limit, offset⟩
    else none
  | _ => none

def Query.ofTokens? (ts : List Token) : Option Query :=
  match partsFrom 0 ts with
  | ⟨[], parts⟩ => Query.ofParts? parts
  | _ => none

/-- The count of all rows under a name. -/
def countsAll : List Token → Bool
  | [opening, star, ending, as, .quoted '"' _] =>
    opening.isSign '(' && star.isSign '*' && ending.isSign ')' && as.isWord "AS".toList
  | _ => false

/-- The query whose rows a count is of: the one in parentheses behind FROM, or the counting statement
itself where it neither groups nor bounds its rows. -/
def counted? (source : List Token) (rest : List Part) : Option Query :=
  match source with
  | .sign '(' :: inner =>
    match closing 0 inner with
    | some (inside, _) => if rest.isEmpty then Query.ofTokens? inside else none
    | none => none
  | _ => (Query.ofParts? ((.select, []) :: (.from_, source) :: rest)).filter fun q =>
      q.groups.isNone && q.limit.isNone && q.offset.isNone

def Question.ofParts? : List Part → Option Question
  | (.select, []) :: (.count, all) :: (.from_, source) :: rest =>
    if countsAll all then (counted? source rest).map .count else none
  | parts => (Query.ofParts? parts).map .rows

/-- What a statement asks for, its parameters in place. -/
def Fragment.question? (d : Dialect) (f : Fragment) : Option Question :=
  match partsFrom 0 (f.tokens d) with
  | ⟨[], parts⟩ => Question.ofParts? parts
  | _ => none

/-! ## Queries as parts -/

def Source.tokens (s : Source) : List Token :=
  .quoted '"' s.table.toList ::
    match s.renamed with
    | none => []
    | some label => [.word "AS".toList, .quoted '"' label.toList]

def Joined.parts (j : Joined) : List Part :=
  [(.left, .word "JOIN".toList :: j.source.tokens), (.on, j.on)]

def optionalPart (k : Keyword) (tokens : Option (List Token)) : List Part :=
  tokens.toList.map (k, ·)

/-- The parts of a query behind the table it is about. -/
def Query.laterParts (q : Query) : List Part :=
  q.joins.flatMap Joined.parts ++ (optionalPart .where_ q.condition ++
    (optionalPart .group q.groups ++ (optionalPart .order q.order ++
      (optionalPart .limit q.limit ++ (optionalPart .offset q.offset ++ [])))))

def Query.parts (q : Query) : List Part :=
  (.select, q.selected) :: (.from_, q.source.tokens) :: q.laterParts

theorem source?_tokens (s : Source) : source? s.tokens = some s := by
  obtain ⟨table, label⟩ := s
  cases label with
  | none => simp [Source.tokens, source?]
  | some label => simp [Source.tokens, source?, Token.isWord]

/-- A keyword that comes before parts, in the order that a statement has them in. -/
def Keyword.Before (k : Keyword) (rest : List Part) : Prop :=
  ∀ part ∈ rest, Keyword.all.idxOf k < Keyword.all.idxOf part.1

section

variable {k word : Keyword} {rest : List Part}

theorem Keyword.before_nil : k.Before [] := nofun

theorem Keyword.Before.not_head {ts : List Token} (before : k.Before ((word, ts) :: rest)) :
    word ≠ k := by
  rintro rfl
  exact absurd (before _ List.mem_cons_self) (Nat.lt_irrefl _)

theorem Keyword.Before.optional (later : word.Before rest) (tokens : Option (List Token))
    (first : Keyword.all.idxOf k < Keyword.all.idxOf word) :
    k.Before (optionalPart word tokens ++ rest) := by
  intro part member
  rcases List.mem_append.mp member with own | behind
  · obtain ⟨_, _, rfl⟩ := List.mem_map.mp own
    exact first
  · exact Nat.lt_trans first (later part behind)

/-- A part is taken where only parts of later keywords follow. -/
theorem takePart_optional (before : k.Before rest) (tokens : Option (List Token)) :
    takePart k (optionalPart k tokens ++ rest) = (tokens, rest) := by
  cases tokens with
  | some ts => simp [optionalPart, takePart]
  | none =>
    rcases rest with _ | ⟨⟨next, ts⟩, rest⟩
    · rfl
    · simp [optionalPart, takePart, before.not_head]

theorem takeJoins?_parts (before : Keyword.left.Before rest) (joins : List Joined) :
    takeJoins? (joins.flatMap Joined.parts ++ rest) = some (joins, rest) := by
  induction joins with
  | nil =>
    rcases rest with _ | ⟨⟨next, ts⟩, rest⟩
    · rfl
    · cases next with
      | left => exact absurd rfl before.not_head
      | _ => rfl
  | cons j others ih =>
    have join : (Token.word "JOIN".toList).isWord "JOIN".toList = true := rfl
    have taken : takeJoins? (j.parts ++ (others.flatMap Joined.parts ++ rest)) =
        ((source? j.source.tokens).bind fun source =>
          (takeJoins? (others.flatMap Joined.parts ++ rest)).bind fun (joins, rest) =>
            some (⟨source, j.on⟩ :: joins, rest)) := by
      simp only [Joined.parts, List.cons_append, List.nil_append, takeJoins?, join, if_true]
      rfl
    rw [List.flatMap_cons, List.append_assoc, taken, source?_tokens, Option.bind_some, ih]
    rfl

/-- A query is read from its parts. -/
theorem Query.ofParts?_parts (q : Query) : Query.ofParts? q.parts = some q := by
  -- from the last part to the first, each of them followed by later ones
  have offset : Keyword.offset.Before [] := Keyword.before_nil
  have limit := offset.optional (k := .limit) q.offset (by decide)
  have order := limit.optional (k := .order) q.limit (by decide)
  have group := order.optional (k := .group) q.order (by decide)
  have where_ := group.optional (k := .where_) q.groups (by decide)
  have left := where_.optional (k := .left) q.condition (by decide)
  simp only [Query.parts, laterParts, ofParts?, source?_tokens, takeJoins?_parts left,
    takePart_optional where_, takePart_optional group, takePart_optional order,
    takePart_optional limit, takePart_optional offset, Option.bind_eq_bind, Option.bind_some,
    List.isEmpty_nil, if_true]

end

/-! ## Nested tokens -/

/-- Tokens that end nothing and begin no part inside of parentheses, whatever they are outside. -/
structure Nested (ts : List Token) : Prop where
  closed : ∀ depth rest, closing depth (ts ++ rest) =
    (closing depth rest).map fun (inside, after) => (ts ++ inside, after)
  parted : ∀ depth rest, partsFrom (depth + 1) (ts ++ rest) =
    (partsFrom (depth + 1) rest).behind ts

section

variable {ts us : List Token} {k : Keyword}

theorem Balanced.nested (balanced : Balanced ts) : Nested ts :=
  ⟨balanced.closed, fun depth rest => balanced.parted (depth + 1) rest⟩

theorem Nested.append (before : Nested ts) (after : Nested us) : Nested (ts ++ us) where
  closed := fun depth rest => by
    rw [List.append_assoc, before.closed, after.closed, Option.map_map]
    congr 1
    funext tail
    simp
  parted := fun depth rest => by
    rw [List.append_assoc, before.parted, after.parted, Parts.behind_behind]

theorem Nested.wrapped_parted {ts : List Token} (nested : Nested ts) (depth : Nat)
    (rest : List Token) : partsFrom depth (wrapped ts ++ rest) =
      (partsFrom depth rest).behind (wrapped ts) := by
  rw [wrapped_append, partsFrom_open, nested.parted, partsFrom_close, Parts.behind_behind,
    Parts.behind_behind]
  rfl

def Keyword.token (k : Keyword) : Token := .word k.text.toList

theorem Keyword.keyword?_token (k : Keyword) : k.token.keyword? = some k := by
  cases k <;> rfl

theorem Keyword.nested (k : Keyword) : Nested [k.token] := ⟨fun _ _ => rfl, fun _ _ => rfl⟩

/-- A keyword outside of parentheses begins a part. -/
theorem partsFrom_keyword (k : Keyword) (ts : List Token) : partsFrom 0 (k.token :: ts) =
    ⟨[], (k, (partsFrom 0 ts).front) :: (partsFrom 0 ts).later⟩ := by
  rw [partsFrom]
  simp only [if_true, k.keyword?_token]
  rfl

end

/-! ## Phrases -/

/-- A piece of a statement that is read as given parts, whatever stands before it and follows it. -/
structure Phrases (text : List Piece) (ts : List Token) (parts : List Part) : Prop where
  reads : Reads text ts
  breaks : Breaks text
  nested : Nested ts
  parted : ∀ rest later, partsFrom 0 rest = ⟨[], later⟩ →
    partsFrom 0 (ts ++ rest) = ⟨[], parts ++ later⟩

section

variable {text first second : List Piece} {ts us : List Token} {parts others : List Part}
  {k : Keyword}

theorem Breaks.append (before : Breaks first) (after : Breaks second) : Breaks (first ++ second) := by
  rcases before with rfl | ⟨c, rest, rfl, apart⟩
  · exact after
  · exact Or.inr ⟨c, rest ++ second, rfl, apart⟩

theorem phrases_nil : Phrases [] [] [] where
  reads := closed_nil.reads
  breaks := Or.inl rfl
  nested := balanced_nil.nested
  parted := fun _ _ same => same

theorem Phrases.append (before : Phrases first ts parts) (after : Phrases second us others) :
    Phrases (first ++ second) (ts ++ us) (parts ++ others) where
  reads := before.reads.append after.reads after.breaks
  breaks := before.breaks.append after.breaks
  nested := before.nested.append after.nested
  parted := fun rest later same => by
    rw [List.append_assoc, List.append_assoc]
    exact before.parted _ _ (after.parted rest later same)

/-- A keyword with tokens that are one part. -/
theorem Keyword.parted (k : Keyword) (balanced : Balanced ts) {rest : List Token} {later : List Part}
    (same : partsFrom 0 rest = ⟨[], later⟩) :
    partsFrom 0 (k.token :: ts ++ rest) = ⟨[], (k, ts) :: later⟩ := by
  rw [List.cons_append, partsFrom_keyword, balanced.parted, same]
  simp [Parts.behind]

theorem phrases_keyword (breaks : Breaks text) (reads : Reads text (k.token :: ts))
    (balanced : Balanced ts) : Phrases text (k.token :: ts) [(k, ts)] where
  reads := reads
  breaks := breaks
  nested := k.nested.append balanced.nested
  parted := fun _ _ same => k.parted balanced same

/-- The phrases behind the beginning of a statement make it whole. -/
theorem Phrases.statement (phrases : Phrases second us others) (reads : Reads first (k.token :: ts))
    (balanced : Balanced ts) : Reads (first ++ second) (k.token :: ts ++ us) ∧
      Nested (k.token :: ts ++ us) ∧
      partsFrom 0 (k.token :: ts ++ us) = ⟨[], (k, ts) :: others⟩ := by
  have whole := phrases.parted [] [] rfl
  rw [List.append_nil, List.append_nil] at whole
  exact ⟨reads.append phrases.reads phrases.breaks,
    (k.nested.append balanced.nested).append phrases.nested, k.parted balanced whole⟩

end

/-! ## Texts -/

/-- A text that is read as tokens of one part. -/
def IsLegible (text : String) : Prop :=
  ∃ ts, Reads (Piece.ofText text.toList) ts ∧ Balanced ts

section

variable {text first second : String}

/-- Legible texts with commas between them. -/
theorem isLegible_join {texts : List String} (all : ∀ text ∈ texts, IsLegible text) :
    IsLegible (Text.join ", " texts) := by
  have comma : Closed (Piece.ofText ", ".toList) [.sign ','] := closed_of_run rfl
  rw [IsLegible, Text.join, String.toList_intercalate]
  induction texts with
  | nil => exact ⟨[], closed_nil.reads, balanced_nil⟩
  | cons text rest ih =>
    obtain ⟨ts, reads, balanced⟩ := all text List.mem_cons_self
    obtain ⟨us, others, otherBalanced⟩ := ih fun other member => all other (List.mem_cons_of_mem _ member)
    cases rest with
    | nil =>
      refine ⟨ts, ?_, balanced⟩
      simpa using reads
    | cons next rest =>
      refine ⟨ts ++ ([.sign ','] ++ us), ?_, balanced.append ((balanced_plain rfl).append otherBalanced)⟩
      have whole := reads.append (comma.append_reads others) (Or.inr ⟨',', _, rfl, by decide⟩)
      rw [List.map_cons, List.map_cons, List.intercalate_cons_cons, ← List.map_cons, ofText_append,
        ofText_append, List.append_assoc]
      exact whole

/-- A word that goes on to its end. -/
theorem reads_word {chars : List Char} (some_char : chars ≠ [])
    (name : ∀ c ∈ chars, Text.isNameRest c = true) : Reads (Piece.ofText chars) [.word chars] := by
  obtain ⟨c, rest, rfl⟩ := List.exists_cons_of_ne_nil some_char
  have goes_on : ∀ (rest passed : List Char), (∀ c ∈ rest, Text.isNameRest c = true) →
      Lexer.run ⟨[], .word passed⟩ (Piece.ofText rest) = ⟨[], .word (passed ++ rest)⟩ := by
    intro rest
    induction rest with
    | nil =>
      intro passed _
      simp [Piece.ofText, Lexer.run]
    | cons c rest ih =>
      intro passed name
      have others := ih (passed ++ [c]) fun d member => name d (List.mem_cons_of_mem c member)
      simp only [Piece.ofText, Lexer.run, List.map_cons, List.foldl_cons, Lexer.next,
        name c List.mem_cons_self, if_true] at others ⊢
      rw [others]
      simp
  have begins : Lexer.next ⟨[], .nothing⟩ (.char c) = ⟨[], .word [c]⟩ := by
    simp [Lexer.next, Lexer.start, name c List.mem_cons_self]
  change Reads _ ([] ++ [.word (c :: rest)])
  refine reads_of_run ?_
  have others := goes_on rest [c] fun d member => name d (List.mem_cons_of_mem c member)
  simp only [Piece.ofText, Lexer.run, List.map_cons, List.foldl_cons, begins] at others ⊢
  exact others

theorem toUpper_digit {c : Char} (digit : c.isDigit = true) : c.toUpper = c := by
  simp only [Char.isDigit, Bool.and_eq_true, decide_eq_true_eq] at digit
  unfold Char.toUpper
  rw [dif_neg]
  rintro ⟨low, _⟩
  exact absurd (UInt32.le_trans low digit.2) (by decide)

/-- A number is no keyword. -/
theorem keyword?_number {c : Char} (digit : c.isDigit = true) (rest : List Char) :
    (Token.word (c :: rest)).keyword? = none := by
  have letters : ∀ k : Keyword, ∃ first more, k.text.toList = first :: more ∧
      first.isDigit = false := by
    intro k
    cases k <;> exact ⟨_, _, rfl, rfl⟩
  refine List.find?_eq_none.mpr fun k _ => ?_
  obtain ⟨first, more, text, letter⟩ := letters k
  rw [text, Token.isWord, List.map_cons, toUpper_digit digit]
  intro same
  have alike := (List.cons.inj (eq_of_beq same)).1
  rw [alike, letter] at digit
  cases digit

theorem isLegible_integer (n : Int) : IsLegible (toString n) := by
  have digits : ∀ m : Nat, ∃ c rest, Reads (Piece.ofText (toString m).toList)
      [.word (c :: rest)] ∧ Balanced [.word (c :: rest)] := by
    intro m
    have text : (toString m).toList = Nat.toDigits 10 m := by
      rw [Nat.toString_eq_ofList_toDigits, String.toList_ofList]
    have digit : ∀ c ∈ Nat.toDigits 10 m, c.isDigit = true :=
      fun c member => Nat.isDigit_of_mem_toDigits (by decide) (by decide) member
    have name : ∀ c ∈ Nat.toDigits 10 m, Text.isNameRest c = true := by
      intro c member
      simp [Text.isNameRest, Char.isAlphanum, digit c member]
    have reads := reads_word Nat.toDigits_ne_nil name
    obtain ⟨c, rest, chars⟩ := List.exists_cons_of_ne_nil (@Nat.toDigits_ne_nil m 10)
    refine ⟨c, rest, ?_, balanced_token ?_⟩
    · rw [text, ← chars]
      exact reads
    · have none := keyword?_number (digit c (chars ▸ List.mem_cons_self)) rest
      rw [Token.isFlat, none]
      rfl
  cases n with
  | ofNat m =>
    obtain ⟨c, rest, reads, balanced⟩ := digits m
    exact ⟨_, reads, balanced⟩
  | negSucc m =>
    obtain ⟨c, rest, reads, balanced⟩ := digits (m + 1)
    have minus : Closed (Piece.ofText "-".toList) [.sign '-'] := closed_of_run rfl
    refine ⟨_, ?_, (balanced_plain (t := .sign '-') rfl).append balanced⟩
    have text : (toString (Int.negSucc m)).toList = "-".toList ++ (toString (m + 1)).toList :=
      String.toList_append
    rw [text, ofText_append]
    exact minus.append_reads reads

end

/-! ## Questions -/

theorem question_rows {selected source : List Token} {rest : List Part} {q : Query}
    (parts : (.select, selected) :: (.from_, source) :: rest = q.parts) :
    Question.ofParts? ((.select, selected) :: (.from_, source) :: rest) = some (.rows q) := by
  have read : Question.ofParts? ((.select, selected) :: (.from_, source) :: rest) =
      (Query.ofParts? ((.select, selected) :: (.from_, source) :: rest)).map .rows := by
    cases selected <;> rfl
  rw [read, parts, Query.ofParts?_parts]
  rfl

/-- The tokens of a count of all rows under a name. -/
def countTokens : List Token :=
  wrapped [.sign '*'] ++ [.word "AS".toList, .quoted '"' "aggregate".toList]

theorem count_phrases : Phrases (Piece.ofText " COUNT(*) AS \"aggregate\"".toList)
    (Keyword.count.token :: countTokens) [(.count, countTokens)] :=
  phrases_keyword (Or.inr ⟨' ', _, rfl, by decide⟩) (closed_of_run rfl).reads
    ((balanced_wrapped (balanced_plain rfl)).append (solid_plain rfl).2)

theorem question_counted {rest : List Part} {q : Query}
    (parts : (.select, []) :: (.from_, q.source.tokens) :: rest = q.parts)
    (ungrouped : q.groups = none) (unlimited : q.limit = none) (unmoved : q.offset = none) :
    Question.ofParts? ((.select, []) :: (.count, countTokens) :: (.from_, q.source.tokens) :: rest) =
      some (.count q) := by
  have read : Question.ofParts?
      ((.select, []) :: (.count, countTokens) :: (.from_, q.source.tokens) :: rest) =
      ((Query.ofParts? ((.select, []) :: (.from_, q.source.tokens) :: rest)).filter fun q =>
        q.groups.isNone && q.limit.isNone && q.offset.isNone).map .count := rfl
  rw [read, parts, Query.ofParts?_parts]
  simp [ungrouped, unlimited, unmoved]

/-- How the rows of another statement are counted. -/
def enclosingTokens (ts after : List Token) : List Token :=
  [Keyword.select.token] ++ ((Keyword.count.token :: countTokens) ++
    (Keyword.from_.token :: (wrapped ts ++ after)))

theorem enclosing_reads {inner : List Piece} {ts : List Token} (reads : Reads inner ts) :
    Reads (Piece.ofText "SELECT COUNT(*) AS \"aggregate\" FROM (".toList ++ inner ++
        Piece.ofText ") AS \"grouped\"".toList)
      (enclosingTokens ts [.word "AS".toList, .quoted '"' "grouped".toList]) := by
  have opening : Closed (Piece.ofText "SELECT COUNT(*) AS \"aggregate\" FROM (".toList)
      ([Keyword.select.token] ++ ((Keyword.count.token :: countTokens) ++
        [Keyword.from_.token, .sign '('])) := closed_of_run rfl
  have ending : Closed (Piece.ofText ") AS \"grouped\"".toList)
      [.sign ')', .word "AS".toList, .quoted '"' "grouped".toList] := closed_of_run rfl
  have whole := (opening.append_reads reads).append ending.reads (Or.inr ⟨')', _, rfl, by decide⟩)
  have same : enclosingTokens ts [.word "AS".toList, .quoted '"' "grouped".toList] =
      [Keyword.select.token] ++ ((Keyword.count.token :: countTokens) ++
        [Keyword.from_.token, .sign '(']) ++ ts ++
          [.sign ')', .word "AS".toList, .quoted '"' "grouped".toList] := by
    simp [enclosingTokens, wrapped]
  rw [same]
  exact whole

theorem partsFrom_enclosing {ts after : List Token} (nested : Nested ts) (behind : Balanced after) :
    partsFrom 0 (enclosingTokens ts after) =
      ⟨[], [(.select, []), (.count, countTokens), (.from_, wrapped ts ++ after)]⟩ := by
  have alone := behind.parted 0 []
  rw [List.append_nil] at alone
  have source : partsFrom 0 (Keyword.from_.token :: (wrapped ts ++ after)) =
      ⟨[], [(.from_, wrapped ts ++ after)]⟩ := by
    rw [partsFrom_keyword, nested.wrapped_parted, alone]
    simp [Parts.behind, partsFrom]
  have counted : Balanced countTokens :=
    (balanced_wrapped (balanced_plain rfl)).append (solid_plain rfl).2
  exact Keyword.select.parted balanced_nil (Keyword.count.parted counted source)

/-- A count of the rows of another statement in parentheses. -/
theorem question_enclosed {ts after : List Token} {q : Query} (nested : Nested ts)
    (parted : partsFrom 0 ts = ⟨[], q.parts⟩) :
    Question.ofParts? [(.select, []), (.count, countTokens), (.from_, wrapped ts ++ after)] =
      some (.count q) := by
  have closes : closing 0 (ts ++ Token.sign ')' :: after) = some (ts, after) := by
    have ending : closing 0 (Token.sign ')' :: after) = some ([], after) := rfl
    rw [nested.closed, ending]
    simp
  have inner : Query.ofTokens? ts = some q := by
    rw [Query.ofTokens?, parted]
    exact q.ofParts?_parts
  have counts : countsAll countTokens = true := by rfl
  rw [wrapped_append]
  simp [Question.ofParts?, counts, counted?, closes, inner]

end Curator.Sql
