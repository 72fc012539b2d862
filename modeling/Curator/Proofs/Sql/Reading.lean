import Curator.Proofs.Sql.Tokens
import Curator.Sql.Predicate
import Mathlib.Data.List.Basic
/-!
# Reading conditions

How a database reads the tokens of a condition: what stands in parentheses belongs together, AND
binds closer than OR, and an AND behind BETWEEN joins the ends of a range.  What is neither joined
nor parenthesised is a test.  A whole statement falls into parts, each behind its keyword.
-/

set_option autoImplicit false

/-!
## Truth values

The three truth values of a database and their conjunctions and disjunctions.
-/

namespace Curator.Sql

inductive Truth where
  | no
  | unknown
  | yes
  deriving DecidableEq, Repr

namespace Truth

def and : Truth → Truth → Truth
  | .no, _ => .no
  | _, .no => .no
  | .yes, .yes => .yes
  | _, _ => .unknown

def or : Truth → Truth → Truth
  | .yes, _ => .yes
  | _, .yes => .yes
  | .no, .no => .no
  | _, _ => .unknown

/-- The conjunction of several; of none it is true. -/
def all (ts : List Truth) : Truth := ts.foldr and .yes

/-- The disjunction of several; of none it is false. -/
def any (ts : List Truth) : Truth := ts.foldr or .no

theorem and_assoc (a b c : Truth) : (a.and b).and c = a.and (b.and c) := by
  cases a <;> cases b <;> cases c <;> rfl

theorem and_yes (a : Truth) : a.and .yes = a := by cases a <;> rfl

theorem yes_and (a : Truth) : Truth.yes.and a = a := by cases a <;> rfl

theorem or_no (a : Truth) : a.or .no = a := by cases a <;> rfl

theorem no_and (a : Truth) : Truth.no.and a = .no := by cases a <;> rfl

theorem and_no (a : Truth) : a.and .no = .no := by cases a <;> rfl

theorem and_eq_yes {a b : Truth} : a.and b = .yes ↔ a = .yes ∧ b = .yes := by
  cases a <;> cases b <;> simp [and]

theorem all_singleton (a : Truth) : all [a] = a := and_yes a

theorem any_singleton (a : Truth) : any [a] = a := or_no a

theorem all_cons (a : Truth) (ts : List Truth) : all (a :: ts) = a.and (all ts) := rfl

theorem all_append (first second : List Truth) :
    all (first ++ second) = (all first).and (all second) := by
  induction first with
  | nil => exact (yes_and _).symm
  | cons a rest ih => rw [List.cons_append, all_cons, ih, all_cons, and_assoc]

/-- A conjunction with something false in it is false. -/
theorem all_no {ts : List Truth} (member : Truth.no ∈ ts) : all ts = .no := by
  induction ts with
  | nil => cases member
  | cons a rest ih =>
    rw [all_cons]
    rcases List.mem_cons.mp member with rfl | inside
    · exact no_and _
    · rw [ih inside, and_no]

end Truth

/-- Truth values joined by a connector. -/
def Connector.combine : Connector → List Truth → Truth
  | .and => Truth.all
  | .or => Truth.any

theorem Connector.combine_singleton (c : Connector) (a : Truth) : c.combine [a] = a := by
  cases c with
  | and => exact Truth.all_singleton a
  | or => exact Truth.any_singleton a

/-- What a group comes to: its members joined by its connector, and nothing if it has none. -/
def Connector.joined (c : Connector) : List Truth → List Truth
  | [] => []
  | first :: rest => [c.combine (first :: rest)]

/-! ## The reader -/

/-- Whether a token is a word of the language, in any case. -/
def Token.isWord (name : List Char) : Token → Bool
  | .word text => text.map Char.toUpper == name
  | _ => false

def Token.isSign (mark : Char) : Token → Bool
  | .sign c => c == mark
  | _ => false

/-- The word that stands for a connector. -/
def Token.connects (t : Token) (c : Connector) : Bool := t.isWord c.text.toList

/-- How deep in parentheses a place is, and whether a range outside of them waits for its end. -/
structure Place where
  depth : Nat
  ranged : Bool
  deriving DecidableEq

def Place.top : Place := ⟨0, false⟩

/-- The place behind a token. -/
def Place.next (p : Place) (t : Token) : Place :=
  if t.isSign '(' then ⟨p.depth + 1, p.ranged⟩
  else if t.isSign ')' then ⟨p.depth - 1, p.ranged⟩
  else if p.depth = 0 ∧ t.isWord "BETWEEN".toList then ⟨0, true⟩
  else if p.depth = 0 ∧ t.connects .and then ⟨0, false⟩
  else p

/-- Whether a token at a place joins what stands on its two sides. -/
def Place.parts (p : Place) (c : Connector) (t : Token) : Bool :=
  t.connects c && p.depth == 0 && !(c == .and && p.ranged)

/-- Tokens before the first of several parts. -/
def glue (ts : List Token) : List (List Token) → List (List Token)
  | [] => [ts]
  | first :: rest => (ts ++ first) :: rest

/-- The parts between the connectors of one kind that are outside of parentheses. -/
def divideFrom (c : Connector) (p : Place) : List Token → List (List Token)
  | [] => [[]]
  | t :: rest =>
    if p.parts c t then [] :: divideFrom c (p.next t) rest
    else glue [t] (divideFrom c (p.next t) rest)

def divide (c : Connector) (ts : List Token) : List (List Token) := divideFrom c .top ts

/-- The tokens before the parenthesis that closes an open one, and those behind it. -/
def closing (depth : Nat) : List Token → Option (List Token × List Token)
  | [] => none
  | t :: rest =>
    if t.isSign ')' then
      match depth with
      | 0 => some ([], rest)
      | outer + 1 => (closing outer rest).map fun (inside, after) => (t :: inside, after)
    else
      (closing (if t.isSign '(' then depth + 1 else depth) rest).map
        fun (inside, after) => (t :: inside, after)

/-- What is inside of tokens that are in parentheses as a whole. -/
def unwrap? : List Token → Option (List Token)
  | [] => none
  | t :: rest =>
    if t.isSign '(' then
      match closing 0 rest with
      | some (inside, []) => some inside
      | _ => none
    else none

/-- The truth of tokens where `v` tells the truth of tests.  Every part is shorter than the whole, so
the number of tokens is fuel enough. -/
def read (v : List Token → Truth) : Nat → List Token → Truth
  | 0, ts => v ts
  | fuel + 1, ts =>
    match divide .or ts with
    | first :: second :: rest => Truth.any ((first :: second :: rest).map (read v fuel))
    | _ =>
      match divide .and ts with
      | first :: second :: rest => Truth.all ((first :: second :: rest).map (read v fuel))
      | _ =>
        match unwrap? ts with
        | some inside => read v fuel inside
        | none => v ts

/-- The words that begin the parts of a statement. -/
inductive Keyword where
  | select
  | count
  | from_
  | left
  | on
  | where_
  | group
  | order
  | limit
  | offset
  deriving DecidableEq

def Keyword.text : Keyword → String
  | .select => "SELECT"
  | .count => "COUNT"
  | .from_ => "FROM"
  | .left => "LEFT"
  | .on => "ON"
  | .where_ => "WHERE"
  | .group => "GROUP"
  | .order => "ORDER"
  | .limit => "LIMIT"
  | .offset => "OFFSET"

def Keyword.all : List Keyword :=
  [.select, .count, .from_, .left, .on, .where_, .group, .order, .limit, .offset]

def Token.keyword? (t : Token) : Option Keyword :=
  Keyword.all.find? fun k => t.isWord k.text.toList

/-- Tokens in front of the first keyword, and the tokens behind each keyword. -/
structure Parts where
  front : List Token
  later : List (Keyword × List Token)
  deriving Inhabited

/-- More tokens in front of parts. -/
def Parts.behind (ts : List Token) (p : Parts) : Parts := ⟨ts ++ p.front, p.later⟩

/-- The parts of tokens at a depth of parentheses; keywords inside of parentheses belong to the part
that these stand in. -/
def partsFrom (depth : Nat) : List Token → Parts
  | [] => ⟨[], []⟩
  | t :: rest =>
    let others :=
      partsFrom (if t.isSign '(' then depth + 1 else if t.isSign ')' then depth - 1 else depth) rest
    match if depth = 0 then t.keyword? else none with
    | some k => ⟨[], (k, others.front) :: others.later⟩
    | none => others.behind [t]

/-- The tokens of a fragment with its parameters in place. -/
def Fragment.tokens (d : Dialect) (f : Fragment) : List Token :=
  Sql.tokens ((f.filled d).getD [])

/-- The truth of a condition where `v` tells the truth of tests; no condition at all is true. -/
def Fragment.truth (d : Dialect) (v : List Token → Truth) (f : Fragment) : Truth :=
  if f.sql.isEmpty then .yes else read v (f.tokens d).length (f.tokens d)

/-! ## Parts -/

/-- Tokens that no connector divides, whatever follows them. -/
def Solid (ts : List Token) : Prop :=
  ∀ c rest, divideFrom c .top (ts ++ rest) = glue ts (divideFrom c .top rest)

/-- Tokens whose parentheses close one another, so that inside of others they end nothing, and without
keywords, so that they belong to one part. -/
structure Balanced (ts : List Token) : Prop where
  divided : ∀ c depth ranged rest, divideFrom c ⟨depth + 1, ranged⟩ (ts ++ rest) =
    glue ts (divideFrom c ⟨depth + 1, ranged⟩ rest)
  closed : ∀ depth rest, closing depth (ts ++ rest) =
    (closing depth rest).map fun (inside, after) => (ts ++ inside, after)
  parted : ∀ depth rest, partsFrom depth (ts ++ rest) = (partsFrom depth rest).behind ts

section

variable {ts us : List Token} {t : Token}

theorem glue_nil {parts : List (List Token)} (some_part : parts ≠ []) : glue [] parts = parts := by
  cases parts with
  | nil => exact absurd rfl some_part
  | cons first rest => rfl

theorem glue_glue (ts us : List Token) (parts : List (List Token)) :
    glue ts (glue us parts) = glue (ts ++ us) parts := by
  cases parts with
  | nil => simp [glue]
  | cons first rest => simp [glue]

theorem divideFrom_ne_nil (c : Connector) (p : Place) (ts : List Token) :
    divideFrom c p ts ≠ [] := by
  cases ts with
  | nil => simp [divideFrom]
  | cons t rest =>
    rw [divideFrom]
    split
    · simp
    · cases divideFrom c (p.next t) rest with
      | nil => simp [glue]
      | cons first rest => simp [glue]

theorem Solid.append (before : Solid ts) (after : Solid us) : Solid (ts ++ us) := by
  intro c rest
  rw [List.append_assoc, before, after, glue_glue]

theorem Parts.behind_behind (ts us : List Token) (p : Parts) :
    (p.behind us).behind ts = p.behind (ts ++ us) := by
  simp [behind]

theorem balanced_nil : Balanced [] where
  divided := fun c depth ranged rest => (glue_nil (divideFrom_ne_nil c _ rest)).symm
  closed := fun depth rest => by simp
  parted := fun _ _ => rfl

theorem Balanced.append (before : Balanced ts) (after : Balanced us) : Balanced (ts ++ us) where
  divided := fun c depth ranged rest => by
    rw [List.append_assoc, before.divided, after.divided, glue_glue]
  closed := fun depth rest => by
    rw [List.append_assoc, before.closed, after.closed, Option.map_map]
    congr 1
    funext tail
    simp
  parted := fun depth rest => by
    rw [List.append_assoc, before.parted, after.parted, Parts.behind_behind]

theorem divideFrom_open (c : Connector) (depth : Nat) (ranged : Bool) (rest : List Token) :
    divideFrom c ⟨depth, ranged⟩ (.sign '(' :: rest) =
      glue [.sign '('] (divideFrom c ⟨depth + 1, ranged⟩ rest) := rfl

theorem divideFrom_close (c : Connector) (depth : Nat) (ranged : Bool) (rest : List Token) :
    divideFrom c ⟨depth + 1, ranged⟩ (.sign ')' :: rest) =
      glue [.sign ')'] (divideFrom c ⟨depth, ranged⟩ rest) := rfl

theorem closing_open (depth : Nat) (rest : List Token) : closing depth (.sign '(' :: rest) =
    (closing (depth + 1) rest).map fun (inside, after) => (.sign '(' :: inside, after) := rfl

theorem closing_close (depth : Nat) (rest : List Token) :
    closing (depth + 1) (.sign ')' :: rest) =
      (closing depth rest).map fun (inside, after) => (.sign ')' :: inside, after) := rfl

theorem partsFrom_open (depth : Nat) (rest : List Token) : partsFrom depth (.sign '(' :: rest) =
    (partsFrom (depth + 1) rest).behind [.sign '('] := by
  cases depth <;> rfl

theorem partsFrom_close (depth : Nat) (rest : List Token) :
    partsFrom (depth + 1) (.sign ')' :: rest) = (partsFrom depth rest).behind [.sign ')'] := rfl

/-- A token that is neither a parenthesis nor a keyword. -/
def Token.isFlat (t : Token) : Bool := !t.isSign '(' && !t.isSign ')' && t.keyword?.isNone

/-- Inside of parentheses nothing divides, whatever a token says. -/
theorem balanced_token (flat : t.isFlat = true) : Balanced [t] where
  divided := fun c depth ranged rest => by
    simp only [Token.isFlat, Bool.and_eq_true, Bool.not_eq_true'] at flat
    have stays : Place.next ⟨depth + 1, ranged⟩ t = ⟨depth + 1, ranged⟩ := by
      simp only [Place.next, flat.1.1, flat.1.2, Nat.add_one_ne_zero, false_and, if_false,
        Bool.false_eq_true]
    have whole : Place.parts ⟨depth + 1, ranged⟩ c t = false := by
      simp [Place.parts]
    rw [List.singleton_append, divideFrom, whole, stays]
    rfl
  closed := fun depth rest => by
    simp only [Token.isFlat, Bool.and_eq_true, Bool.not_eq_true'] at flat
    rw [List.singleton_append, closing.eq_def]
    simp only [flat.1.1, flat.1.2, Bool.false_eq_true, if_false, List.singleton_append]
  parted := fun depth rest => by
    simp only [Token.isFlat, Bool.and_eq_true, Bool.not_eq_true', Option.isNone_iff_eq_none] at flat
    rw [List.singleton_append, partsFrom]
    simp only [flat.1.1, flat.1.2, flat.2, Bool.false_eq_true, if_false, ite_self]

/-- A token that is no parenthesis, no keyword, no connector and does not begin a range. -/
def Token.isPlain (t : Token) : Bool :=
  t.isFlat && !t.isWord "BETWEEN".toList && !t.connects .and && !t.connects .or

theorem solid_token (plain : t.isPlain = true) : Solid [t] := by
  intro c rest
  simp only [Token.isPlain, Token.isFlat, Bool.and_eq_true, Bool.not_eq_true'] at plain
  obtain ⟨⟨⟨⟨⟨opens, closes⟩, _⟩, ranges⟩, isAnd⟩, isOr⟩ := plain
  have whole : Place.top.parts c t = false := by
    cases c with
    | and => rw [Place.parts, isAnd, Bool.false_and, Bool.false_and]
    | or => rw [Place.parts, isOr, Bool.false_and, Bool.false_and]
  have stays : Place.top.next t = .top := by
    simp only [Place.next, opens, closes, ranges, isAnd, Bool.false_eq_true, and_false, if_false]
  rw [List.singleton_append, divideFrom, whole, stays]
  rfl

theorem balanced_plain (plain : t.isPlain = true) : Balanced [t] := by
  simp only [Token.isPlain, Bool.and_eq_true] at plain
  exact balanced_token plain.1.1.1

theorem solid_plain (plain : ts.all Token.isPlain = true) : Solid ts ∧ Balanced ts := by
  induction ts with
  | nil =>
    exact ⟨fun c rest => (glue_nil (divideFrom_ne_nil c _ rest)).symm, balanced_nil⟩
  | cons t rest ih =>
    rw [List.all_cons, Bool.and_eq_true] at plain
    obtain ⟨solid, balanced⟩ := ih plain.2
    exact ⟨(solid_token plain.1).append solid, (balanced_plain plain.1).append balanced⟩

/-- Tokens in parentheses. -/
def wrapped (ts : List Token) : List Token := .sign '(' :: (ts ++ [.sign ')'])

theorem wrapped_append (ts rest : List Token) :
    wrapped ts ++ rest = .sign '(' :: (ts ++ .sign ')' :: rest) := by simp [wrapped]

theorem closing_wrapped (balanced : Balanced ts) (rest : List Token) :
    closing 0 (ts ++ .sign ')' :: rest) = some (ts, rest) := by
  have ending : closing 0 (.sign ')' :: rest) = some ([], rest) := rfl
  rw [balanced.closed, ending]
  simp

theorem solid_wrapped (balanced : Balanced ts) : Solid (wrapped ts) := by
  intro c rest
  rw [wrapped_append, Place.top, divideFrom_open, balanced.divided, divideFrom_close, glue_glue,
    glue_glue]
  rfl

theorem balanced_wrapped (balanced : Balanced ts) : Balanced (wrapped ts) where
  divided := fun c depth ranged rest => by
    rw [wrapped_append, divideFrom_open, balanced.divided, divideFrom_close, glue_glue, glue_glue]
    rfl
  closed := fun depth rest => by
    rw [wrapped_append, closing_open, balanced.closed, closing_close, Option.map_map,
      Option.map_map]
    congr 1
    funext tail
    simp [wrapped]
  parted := fun depth rest => by
    rw [wrapped_append, partsFrom_open, balanced.parted, partsFrom_close, Parts.behind_behind,
      Parts.behind_behind]
    rfl

theorem unwrap?_open (rest : List Token) : unwrap? (.sign '(' :: rest) =
    match closing 0 rest with
    | some (inside, []) => some inside
    | _ => none := rfl

theorem unwrap?_wrapped (balanced : Balanced ts) : unwrap? (wrapped ts) = some ts := by
  rw [wrapped, unwrap?_open, closing_wrapped balanced []]

/-- Parentheses around the beginning of tokens are not around all of them. -/
theorem unwrap?_wrapped_append (balanced : Balanced ts) {rest : List Token} (more : rest ≠ []) :
    unwrap? (wrapped ts ++ rest) = none := by
  rw [wrapped_append, unwrap?_open, closing_wrapped balanced rest]
  cases rest with
  | nil => exact absurd rfl more
  | cons t rest => rfl

end

end Curator.Sql
