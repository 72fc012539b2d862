import Curator.Proofs.Sql.Filled
/-!
# Tokens

A statement with its parameters in place as the words, quoted texts, signs and values that a database
reads.  A text is read part by part: a part that ends outside of a word and of quotes leaves what
follows it as it is.
-/

set_option autoImplicit false

namespace Curator.Sql

inductive Token where
  | word (text : List Char)
  | quoted (mark : Char) (text : List Char)
  | sign (c : Char)
  | value (v : Value)

/-- What a text is in the middle of. -/
inductive Pending where
  | nothing
  | word (text : List Char)
  | quoted (mark : Char) (text : List Char)

def Pending.tokens : Pending → List Token
  | .nothing => []
  | .word text => [.word text]
  | .quoted mark text => [.quoted mark text]

/-- The tokens that are read so far, and what is pending. -/
structure Lexer where
  tokens : List Token
  pending : Pending

namespace Lexer

/-- All tokens, the pending one among them. -/
def all (s : Lexer) : List Token := s.tokens ++ s.pending.tokens

/-- A character outside of words and quotes. -/
def start (tokens : List Token) (c : Char) : Lexer :=
  if Text.isNameRest c then ⟨tokens, .word [c]⟩
  else if c = '"' ∨ c = '\'' then ⟨tokens, .quoted c []⟩
  else if c = ' ' then ⟨tokens, .nothing⟩
  else ⟨tokens ++ [.sign c], .nothing⟩

def next (s : Lexer) : Piece → Lexer
  | .value v => ⟨s.all ++ [.value v], .nothing⟩
  | .char c =>
    match s.pending with
    | .nothing => start s.tokens c
    | .word text =>
      if Text.isNameRest c then ⟨s.tokens, .word (text ++ [c])⟩ else start s.all c
    | .quoted mark text =>
      if c = mark then ⟨s.all, .nothing⟩ else ⟨s.tokens, .quoted mark (text ++ [c])⟩

def run (s : Lexer) (text : List Piece) : Lexer := text.foldl next s

theorem run_append (s : Lexer) (first second : List Piece) :
    s.run (first ++ second) = (s.run first).run second := List.foldl_append

end Lexer

/-- The tokens of a text. -/
def tokens (text : List Piece) : List Token := (Lexer.run ⟨[], .nothing⟩ text).all

/-! ## Parts of texts -/

/-- A part that is read to given tokens and ends between tokens. -/
def Closed (text : List Piece) (ts : List Token) : Prop :=
  ∀ done, Lexer.run ⟨done, .nothing⟩ text = ⟨done ++ ts, .nothing⟩

/-- A part that is read to given tokens and ends outside of quotes, the last of them maybe a word that
could go on. -/
def Reads (text : List Piece) (ts : List Token) : Prop :=
  ∀ done, (Lexer.run ⟨done, .nothing⟩ text).all = done ++ ts ∧
    ∀ mark inside, (Lexer.run ⟨done, .nothing⟩ text).pending ≠ .quoted mark inside

/-- A part that ends a word before it. -/
def Breaks (text : List Piece) : Prop :=
  text = [] ∨ ∃ c rest, text = .char c :: rest ∧ Text.isNameRest c = false

section

variable {text first second : List Piece} {ts us : List Token}

theorem Closed.append (before : Closed first ts) (after : Closed second us) :
    Closed (first ++ second) (ts ++ us) := by
  intro done
  rw [Lexer.run_append, before, after, List.append_assoc]

theorem closed_nil : Closed [] [] := by
  intro done
  simp [Lexer.run]

theorem closed_value (v : Value) : Closed [.value v] [.value v] := by
  intro done
  simp [Lexer.run, Lexer.next, Lexer.all, Pending.tokens]

theorem Closed.reads (closed : Closed text ts) : Reads text ts := by
  intro done
  rw [closed]
  exact ⟨by simp [Lexer.all, Pending.tokens], nofun⟩

theorem Closed.append_reads (before : Closed first ts) (after : Reads second us) :
    Reads (first ++ second) (ts ++ us) := by
  intro done
  have rest := after (done ++ ts)
  rw [Lexer.run_append, before, ← List.append_assoc]
  exact rest

/-- What follows a word without going on with it is read as if it stood alone. -/
theorem run_break {s : Lexer} (outside : ∀ mark inside, s.pending ≠ .quoted mark inside) {c : Char}
    (breaks : Text.isNameRest c = false) (rest : List Piece) :
    s.run (.char c :: rest) = Lexer.run ⟨s.all, .nothing⟩ (.char c :: rest) := by
  have same : s.next (.char c) = Lexer.next ⟨s.all, .nothing⟩ (.char c) := by
    obtain ⟨done, pending⟩ := s
    cases pending with
    | nothing => simp [Lexer.next, Lexer.all, Pending.tokens]
    | word text => simp [Lexer.next, breaks]
    | quoted mark inside => exact absurd rfl (outside mark inside)
  simp only [Lexer.run, List.foldl_cons, same]

theorem Reads.append (before : Reads first ts) (after : Reads second us) (breaks : Breaks second) :
    Reads (first ++ second) (ts ++ us) := by
  intro done
  obtain ⟨read, outside⟩ := before done
  rw [Lexer.run_append]
  rcases breaks with rfl | ⟨c, rest, rfl, apart⟩
  · have nothing := (after []).1
    simp only [Lexer.run, List.foldl_nil, Lexer.all, Pending.tokens, List.append_nil,
      List.nil_append] at nothing
    rw [← nothing, List.append_nil]
    exact ⟨read, outside⟩
  · rw [run_break outside apart, read, ← List.append_assoc]
    exact after (done ++ ts)

theorem Reads.tokens (reads : Reads text ts) : tokens text = ts := (reads []).1

/-- Tokens that are read already stay as they are. -/
theorem next_done (done : List Token) (s : Lexer) (piece : Piece) :
    Lexer.next ⟨done ++ s.tokens, s.pending⟩ piece =
      ⟨done ++ (s.next piece).tokens, (s.next piece).pending⟩ := by
  have start_done : ∀ (ts : List Token) (c : Char), Lexer.start (done ++ ts) c =
      ⟨done ++ (Lexer.start ts c).tokens, (Lexer.start ts c).pending⟩ := by
    intro ts c
    unfold Lexer.start
    split
    · rfl
    · split
      · rfl
      · split
        · rfl
        · simp
  obtain ⟨read, pending⟩ := s
  cases piece with
  | value v => simp [Lexer.next, Lexer.all]
  | char c =>
    cases pending with
    | nothing => simp [Lexer.next, start_done]
    | word text =>
      simp only [Lexer.next, Lexer.all, List.append_assoc]
      split
      · rfl
      · exact start_done _ c
    | quoted mark inside =>
      simp only [Lexer.next, Lexer.all, List.append_assoc]
      split
      · rfl
      · rfl

theorem run_done (done : List Token) (s : Lexer) (text : List Piece) :
    Lexer.run ⟨done ++ s.tokens, s.pending⟩ text =
      ⟨done ++ (s.run text).tokens, (s.run text).pending⟩ := by
  induction text generalizing s with
  | nil => rfl
  | cons piece rest ih =>
    have step := next_done done s piece
    simp only [Lexer.run, List.foldl_cons] at ih ⊢
    rw [step]
    exact ih (s.next piece)

theorem closed_of_run (run : Lexer.run ⟨[], .nothing⟩ text = ⟨ts, .nothing⟩) : Closed text ts := by
  intro done
  have moved := run_done done ⟨[], .nothing⟩ text
  rw [run] at moved
  simpa using moved

/-- A part that ends in a word. -/
theorem reads_of_run {word : List Char}
    (run : Lexer.run ⟨[], .nothing⟩ text = ⟨ts, .word word⟩) : Reads text (ts ++ [.word word]) := by
  intro done
  have moved := run_done done ⟨[], .nothing⟩ text
  rw [run, List.append_nil] at moved
  rw [moved]
  exact ⟨by simp [Lexer.all, Pending.tokens], nofun⟩

/-- A text in quotes is one token. -/
theorem closed_quoted {mark : Char} (quotes : mark = '"' ∨ mark = '\'') {inside : List Char}
    (apart : mark ∉ inside) :
    Closed (Piece.ofText (mark :: inside ++ [mark])) [.quoted mark inside] := by
  have opening : Lexer.next ⟨[], .nothing⟩ (.char mark) = ⟨[], .quoted mark []⟩ := by
    rcases quotes with rfl | rfl
    · rfl
    · rfl
  have within : ∀ (rest passed : List Char), mark ∉ rest →
      Lexer.run ⟨[], .quoted mark passed⟩ (Piece.ofText rest) = ⟨[], .quoted mark (passed ++ rest)⟩ := by
    intro rest
    induction rest with
    | nil =>
      intro passed _
      simp [Piece.ofText, Lexer.run]
    | cons c rest ih =>
      intro passed apart
      simp only [List.mem_cons, not_or] at apart
      have step : Lexer.next ⟨[], .quoted mark passed⟩ (.char c) =
          ⟨[], .quoted mark (passed ++ [c])⟩ := by
        simp [Lexer.next, Ne.symm apart.1]
      have others := ih (passed ++ [c]) apart.2
      simp only [Piece.ofText, Lexer.run, List.map_cons, List.foldl_cons, step] at others ⊢
      rw [others]
      simp
  apply closed_of_run
  have middle := within inside [] apart
  simp only [Piece.ofText, Lexer.run, List.map_append, List.map_cons, List.map_nil,
    List.cons_append, List.foldl_cons, List.foldl_append, List.foldl_nil, opening] at middle ⊢
  rw [middle]
  simp [Lexer.next, Lexer.all, Pending.tokens]

end

end Curator.Sql
