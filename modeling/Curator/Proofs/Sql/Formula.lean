import Curator.Proofs.Sql.Placed
import Curator.Proofs.Sql.Reading
/-!
# Formulas

Conditions in which everything directly inside a group is joined by one connector, as the conditions
of plans are.  Their text, read as a database reads it, has the truth of the formula: the tests of a
group joined by its connector, and groups without tests left out.
-/

set_option autoImplicit false

namespace Curator.Sql

inductive Formula where
  | test (fragment : Fragment)
  | joined (connector : Connector) (parts : List Formula)

namespace Formula

/-- Induction over formulas as they nest. -/
theorem nested_induction {one : Formula → Prop} {row : List Formula → Prop}
    (test : ∀ fragment, one (.test fragment))
    (joined : ∀ connector parts, row parts → one (.joined connector parts))
    (nil : row []) (cons : ∀ first rest, one first → row rest → row (first :: rest)) :
    (∀ p, one p) ∧ ∀ ps, row ps := by
  have all : ∀ p, one p :=
    @Formula.rec one row test joined nil (fun first rest head tail => cons first rest head tail)
  refine ⟨all, fun ps => ?_⟩
  induction ps with
  | nil => exact nil
  | cons first rest ih => exact cons first rest (all first) ih

mutual

/-- A formula as a condition behind a connector. -/
def condition (outer : Connector) : Formula → Condition
  | .test fragment => .predicate outer fragment
  | .joined inner parts => .group outer (conditions inner parts)

def conditions (c : Connector) : List Formula → List Condition
  | [] => []
  | first :: rest => first.condition c :: conditions c rest

end

mutual

/-- What a formula adds to the formula around it: its truth, or nothing if there is no test in it. -/
def members (v : Fragment → Truth) : Formula → List Truth
  | .test fragment => [v fragment]
  | .joined connector parts => connector.joined (rowMembers v parts)

def rowMembers (v : Fragment → Truth) : List Formula → List Truth
  | [] => []
  | first :: rest => first.members v ++ rowMembers v rest

end

theorem conditions_append (c : Connector) (first second : List Formula) :
    conditions c (first ++ second) = conditions c first ++ conditions c second := by
  induction first with
  | nil => rfl
  | cons p rest ih => rw [List.cons_append, conditions, conditions, ih, List.cons_append]

theorem rowMembers_append (v : Fragment → Truth) (first second : List Formula) :
    rowMembers v (first ++ second) = rowMembers v first ++ rowMembers v second := by
  induction first with
  | nil => rfl
  | cons p rest ih => rw [List.cons_append, rowMembers, rowMembers, ih, List.append_assoc]

theorem condition_connector (c : Connector) (p : Formula) : (p.condition c).connector = c := by
  cases p <;> rfl

end Formula

/-! ## Parts joined by a connector -/

/-- The word of a connector. -/
def Connector.token (c : Connector) : Token := .word c.text.toList

/-- Token lists with a connector between them. -/
def joinTokens (c : Connector) : List (List Token) → List Token
  | [] => []
  | [ts] => ts
  | ts :: us :: rest => ts ++ c.token :: joinTokens c (us :: rest)

theorem joinTokens_cons (c : Connector) (ts : List Token) (rest : List (List Token)) :
    joinTokens c (ts :: rest) = ts ++ rest.flatMap (c.token :: ·) := by
  induction rest generalizing ts with
  | nil => simp [joinTokens]
  | cons us rest ih => rw [joinTokens, ih, List.flatMap_cons, List.cons_append]

theorem divide_solid {ts : List Token} (solid : Solid ts) (c : Connector) : divide c ts = [ts] := by
  have alone := solid c []
  rw [List.append_nil] at alone
  rw [divide, alone, divideFrom, glue, List.append_nil]

/-- A connector divides where it is looked for. -/
theorem divide_token (c : Connector) (rest : List Token) :
    divideFrom c .top (c.token :: rest) = [] :: divideFrom c .top rest := by
  cases c with
  | and => rfl
  | or => rfl

/-- AND divides nothing where OR is looked for. -/
theorem divide_or_and (rest : List Token) :
    divideFrom .or .top (Connector.and.token :: rest) =
      glue [Connector.and.token] (divideFrom .or .top rest) := rfl

theorem divide_joined (c : Connector) {parts : List (List Token)} (some_part : parts ≠ [])
    (solid : ∀ ts ∈ parts, Solid ts) : divide c (joinTokens c parts) = parts := by
  induction parts with
  | nil => exact absurd rfl some_part
  | cons ts rest ih =>
    have first := solid ts List.mem_cons_self
    cases rest with
    | nil => exact divide_solid first c
    | cons us rest =>
      have others := ih (by simp) fun ws member => solid ws (List.mem_cons_of_mem ts member)
      rw [divide] at others ⊢
      rw [joinTokens, first, divide_token, others, glue, List.append_nil]

/-- Parts joined by AND are one part where OR is looked for. -/
theorem divide_or_joined {parts : List (List Token)} (solid : ∀ ts ∈ parts, Solid ts) :
    divide .or (joinTokens .and parts) = [joinTokens .and parts] := by
  induction parts with
  | nil => rfl
  | cons ts rest ih =>
    have first := solid ts List.mem_cons_self
    cases rest with
    | nil => exact divide_solid first .or
    | cons us rest =>
      have others := ih fun ws member => solid ws (List.mem_cons_of_mem ts member)
      rw [divide] at others ⊢
      rw [joinTokens, first, divide_or_and, others]
      rfl

theorem length_joinTokens {c : Connector} {parts : List (List Token)} {ts : List Token}
    (member : ts ∈ parts) : ts.length ≤ (joinTokens c parts).length ∧
      (2 ≤ parts.length → ts.length < (joinTokens c parts).length) := by
  induction parts with
  | nil => cases member
  | cons first rest ih =>
    cases rest with
    | nil =>
      rw [List.mem_singleton.mp member]
      simp [joinTokens]
    | cons second rest =>
      have long : (joinTokens c (first :: second :: rest)).length =
          first.length + 1 + (joinTokens c (second :: rest)).length := by
        simp [joinTokens]
        omega
      rcases List.mem_cons.mp member with rfl | inside
      · omega
      · have shorter := (ih inside).1
        omega

/-- Tokens that are read to a truth value, with as much fuel as there are tokens. -/
def ReadsTo (v : List Token → Truth) (ts : List Token) (t : Truth) : Prop :=
  ∀ fuel, ts.length ≤ fuel → read v fuel ts = t

theorem map_read {v : List Token → Truth} {fuel : Nat} {parts : List (List Token)}
    {ts : List Truth} (truths : List.Forall₂ (ReadsTo v) parts ts)
    (enough : ∀ part ∈ parts, part.length ≤ fuel) : parts.map (read v fuel) = ts := by
  induction truths with
  | nil => rfl
  | cons head _ ih =>
    rw [List.map_cons, head fuel (enough _ List.mem_cons_self),
      ih fun part member => enough part (List.mem_cons_of_mem _ member)]

/-- Parts joined by a connector are read to their truth values, joined by it. -/
theorem readsTo_joined {v : List Token → Truth} (c : Connector) {parts : List (List Token)}
    {ts : List Truth} (some_part : parts ≠ []) (solid : ∀ part ∈ parts, Solid part)
    (truths : List.Forall₂ (ReadsTo v) parts ts) :
    ReadsTo v (joinTokens c parts) (c.combine ts) := by
  intro fuel enough
  cases truths with
  | nil => exact absurd rfl some_part
  | cons head tail =>
    rename_i first truth rest others
    cases tail with
    | nil =>
      rw [Connector.combine_singleton]
      exact head fuel enough
    | cons next more =>
      rename_i second other rest others
      -- of several parts each is shorter than the whole, so the fuel below suffices for all of them
      have truths : List.Forall₂ (ReadsTo v) (first :: second :: rest) (truth :: other :: others) :=
        .cons head (.cons next more)
      cases fuel with
      | zero =>
        have member : first ∈ first :: second :: rest := List.mem_cons_self
        have long := (length_joinTokens (c := c) member).2 (by simp)
        omega
      | succ fuel =>
        have short : ∀ part ∈ first :: second :: rest, part.length ≤ fuel := by
          intro part member
          have shorter := (length_joinTokens (c := c) member).2 (by simp)
          omega
        have values := map_read truths short
        cases c with
        | or =>
          rw [read, divide_joined .or some_part solid]
          exact congrArg Truth.any values
        | and =>
          rw [read, divide_or_joined solid, divide_joined .and some_part solid]
          exact congrArg Truth.all values

/-- Tokens in parentheses are read to what is inside of them. -/
theorem readsTo_wrapped {v : List Token → Truth} {ts : List Token} {t : Truth}
    (balanced : Balanced ts) (reads : ReadsTo v ts t) : ReadsTo v (wrapped ts) t := by
  intro fuel enough
  have long : (wrapped ts).length = ts.length + 2 := by simp [wrapped]
  cases fuel with
  | zero => omega
  | succ fuel =>
    have solid := solid_wrapped balanced
    rw [read, divide_solid solid, divide_solid solid, unwrap?_wrapped balanced]
    exact reads fuel (by omega)

/-- Tokens that are a test: nothing divides them, and they are not in parentheses as a whole. -/
structure TestTokens (ts : List Token) : Prop where
  solid : Solid ts
  balanced : Balanced ts
  bare : unwrap? ts = none

theorem TestTokens.readsTo {ts : List Token} (test : TestTokens ts) (v : List Token → Truth) :
    ReadsTo v ts (v ts) := by
  intro fuel _
  cases fuel with
  | zero => rfl
  | succ fuel => rw [read, divide_solid test.solid, divide_solid test.solid, test.bare]

theorem balanced_joined (c : Connector) {parts : List (List Token)}
    (balanced : ∀ part ∈ parts, Balanced part) : Balanced (joinTokens c parts) := by
  have word : Balanced [c.token] := balanced_token (by cases c <;> rfl)
  induction parts with
  | nil => exact balanced_nil
  | cons ts rest ih =>
    have first := balanced ts List.mem_cons_self
    cases rest with
    | nil => exact first
    | cons us rest =>
      exact first.append (word.append (ih fun ws member => balanced ws (List.mem_cons_of_mem ts member)))

/-! ## Rows of formulas -/

/-- The tokens of conditions. -/
def tokenLayout (d : Dialect) : Layout Token where
  leaf := fun f => f.tokens d
  word := fun c => [c.token]
  opening := [.sign '(']
  closing := [.sign ')']

/-- A fragment that is read as a test. -/
structure Fragment.ReadsAsTest (d : Dialect) (f : Fragment) : Prop where
  reads : Reads ((f.filled d).getD []) (f.tokens d)
  test : TestTokens (f.tokens d)

section

variable {d : Dialect}

theorem word_closed (c : Connector) : Closed ((pieceLayout d).word c) [c.token] := by
  cases c with
  | and => exact closed_of_run rfl
  | or => exact closed_of_run rfl

/-- Conditions are read part by part. -/
theorem row_reads :
    (∀ c : Condition, c.Every (·.ReadsAsTest d) →
      Reads (c.lay (pieceLayout d)) (c.lay (tokenLayout d))) ∧
    ∀ cs : List Condition, Condition.EveryRow (·.ReadsAsTest d) cs →
      Reads (Condition.layRow (pieceLayout d) false cs)
        (Condition.layRow (tokenLayout d) false cs) ∧
      Reads (Condition.layRow (pieceLayout d) true cs)
        (Condition.layRow (tokenLayout d) true cs) ∧
      Breaks (Condition.layRow (pieceLayout d) true cs) := by
  refine Condition.nested_induction ?predicate ?group ?nil ?cons
  case predicate =>
    intro connector fragment test
    exact test.reads
  case group =>
    intro connector children row tests
    have opening : Closed (pieceLayout d).opening (tokenLayout d).opening := closed_of_run rfl
    have closing : Closed (pieceLayout d).closing (tokenLayout d).closing := closed_of_run rfl
    exact (opening.append_reads (row tests).1).append closing.reads
      (Or.inr ⟨')', [], rfl, by decide⟩)
  case nil =>
    intro _
    exact ⟨closed_nil.reads, closed_nil.reads, Or.inl rfl⟩
  case cons =>
    intro first rest head tail tests
    obtain ⟨alone, behind, breaks⟩ := tail tests.2
    cases blank : first.isBlank with
    | true =>
      rw [Condition.layRow_blank _ _ blank, Condition.layRow_blank _ _ blank,
        Condition.layRow_blank _ _ blank, Condition.layRow_blank _ _ blank]
      exact ⟨alone, behind, breaks⟩
    | false =>
      rw [Condition.layRow_solid _ _ blank, Condition.layRow_solid _ _ blank,
        Condition.layRow_solid _ _ blank, Condition.layRow_solid _ _ blank]
      have reads := (head tests.1).append behind breaks
      refine ⟨reads, ?_, ?_⟩
      · have joined := (word_closed (d := d) first.connector).append_reads reads
        simpa [tokenLayout, List.append_assoc] using joined
      · refine Or.inr ⟨' ', ?_, ?_, by decide⟩
        · exact (Piece.ofText (first.connector.text.toList ++ [' ']) ++ first.lay (pieceLayout d)) ++
            Condition.layRow (pieceLayout d) true rest
        · simp [pieceLayout, Condition.textLayout, Piece.ofText]

/-- A formula as tokens: nothing if there is no test in it, and otherwise one part of its row, read to
what the formula adds. -/
structure Formula.PartReads (d : Dialect) (v : List Token → Truth) (outer : Connector) (p : Formula) :
    Prop where
  blank : (p.condition outer).isBlank = (p.members fun f => v (f.tokens d)).isEmpty
  part : (p.condition outer).isBlank = false →
    Solid ((p.condition outer).lay (tokenLayout d)) ∧
    Balanced ((p.condition outer).lay (tokenLayout d)) ∧
    ∃ t, p.members (fun f => v (f.tokens d)) = [t] ∧
      ReadsTo v ((p.condition outer).lay (tokenLayout d)) t

/-- A row of formulas as tokens: parts with the connector between them, and in front of them where
something stands before the row. -/
structure Formula.RowReads (d : Dialect) (v : List Token → Truth) (c : Connector) (ps : List Formula)
    (parts : List (List Token)) : Prop where
  alone : Condition.layRow (tokenLayout d) false (Formula.conditions c ps) = joinTokens c parts
  behind : Condition.layRow (tokenLayout d) true (Formula.conditions c ps) =
    parts.flatMap (c.token :: ·)
  blank : Condition.rowIsBlank (Formula.conditions c ps) = parts.isEmpty
  shape : ∀ part ∈ parts, Solid part ∧ Balanced part
  truths : List.Forall₂ (ReadsTo v) parts (Formula.rowMembers (fun f => v (f.tokens d)) ps)

theorem Formula.RowReads.nil {v : List Token → Truth} {c : Connector} : RowReads d v c [] [] :=
  ⟨rfl, rfl, rfl, nofun, .nil⟩

theorem Formula.RowReads.cons {v : List Token → Truth} {c : Connector} {first : Formula}
    {rest : List Formula} {parts : List (List Token)} (head : first.PartReads d v c)
    (tail : RowReads d v c rest parts) : ∃ parts, RowReads d v c (first :: rest) parts := by
  cases kind : (first.condition c).isBlank with
  -- a formula without tests leaves no trace in the text and adds nothing to the truth
  | true =>
    have none : first.members (fun f => v (f.tokens d)) = [] := by
      have blank := head.blank
      rw [kind] at blank
      exact List.isEmpty_iff.mp blank.symm
    refine ⟨parts, ?_, ?_, ?_, tail.shape, ?_⟩
    · rw [conditions, Condition.layRow_blank _ _ kind, tail.alone]
    · rw [conditions, Condition.layRow_blank _ _ kind, tail.behind]
    · rw [conditions, Condition.rowIsBlank, kind, tail.blank, Bool.true_and]
    · rw [rowMembers, none, List.nil_append]
      exact tail.truths
  | false =>
    obtain ⟨solid, balanced, t, members, reads⟩ := head.part kind
    refine ⟨(first.condition c).lay (tokenLayout d) :: parts, ?_, ?_, ?_, ?_, ?_⟩
    · rw [conditions, Condition.layRow_solid _ _ kind, tail.behind, joinTokens_cons]
      rfl
    · rw [conditions, Condition.layRow_solid _ _ kind, tail.behind, condition_connector]
      rfl
    · rw [conditions, Condition.rowIsBlank, kind]
      rfl
    · intro part member
      rcases List.mem_cons.mp member with rfl | member
      · exact ⟨solid, balanced⟩
      · exact tail.shape part member
    · rw [rowMembers, members]
      exact .cons reads tail.truths

/-- A group is one part, its row in parentheses. -/
theorem Formula.RowReads.group {v : List Token → Truth} {c : Connector} {ps : List Formula}
    {parts : List (List Token)} (row : RowReads d v c ps parts) (outer : Connector) :
    (Formula.joined c ps).PartReads d v outer := by
  have truths := row.truths
  constructor
  · rw [condition, Condition.isBlank, row.blank, members]
    generalize rowMembers (fun f => v (f.tokens d)) ps = ts at truths
    cases truths with
    | nil => rfl
    | cons _ _ => rfl
  · intro solid
    rw [condition, Condition.isBlank, row.blank] at solid
    have some_part : parts ≠ [] := by
      rintro rfl
      cases solid
    have whole : ((Formula.joined c ps).condition outer).lay (tokenLayout d) =
        wrapped (joinTokens c parts) := by
      rw [condition, Condition.lay, row.alone]
      simp [tokenLayout, wrapped]
    have balanced := balanced_joined c fun part member => (row.shape part member).2
    have reads := readsTo_joined c some_part (fun part member => (row.shape part member).1) truths
    rw [whole, members]
    generalize rowMembers (fun f => v (f.tokens d)) ps = ts at truths reads
    refine ⟨solid_wrapped balanced, balanced_wrapped balanced, _, ?_,
      readsTo_wrapped balanced reads⟩
    cases truths with
    | nil => exact absurd rfl some_part
    | cons _ _ => rfl

/-- Formulas are read as they are meant, however they nest. -/
theorem formula_reads (v : List Token → Truth) :
    (∀ p : Formula, ∀ outer, (p.condition outer).Every (·.ReadsAsTest d) → p.PartReads d v outer) ∧
    ∀ ps : List Formula, ∀ c, Condition.EveryRow (·.ReadsAsTest d) (Formula.conditions c ps) →
      ∃ parts, Formula.RowReads d v c ps parts := by
  refine Formula.nested_induction ?test ?joined ?nil ?cons
  case test =>
    intro fragment outer holds
    have test : TestTokens (fragment.tokens d) := holds.test
    exact ⟨rfl, fun _ => ⟨test.solid, test.balanced, _, rfl, test.readsTo v⟩⟩
  case joined =>
    intro c ps row outer holds
    obtain ⟨parts, reads⟩ := row c holds
    exact reads.group outer
  case nil => exact fun c _ => ⟨[], .nil⟩
  case cons =>
    intro first rest head tail c holds
    obtain ⟨parts, reads⟩ := tail c holds.2
    exact reads.cons (head c holds.1)

end

end Curator.Sql
