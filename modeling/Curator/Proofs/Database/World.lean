import Curator.Proofs.Database.Exchange
import Curator.Proofs.Database.Sent
import Curator.Proofs.Plan.Core
import Curator.Proofs.Sql.Questions
import Mathlib.Data.List.Dedup
/-!
# Tables that are queried

What a database makes of queries over tables: rows are joined, those on which the condition is true
are found, and the query returns as many rows as were found, or as many as there are groups of them,
within its limits.  What tests come to and which rows belong together is left to the database.
-/

set_option autoImplicit false

namespace Curator

open Sql Outcome

/-- Rows next to one another, each under the name of its table; where nothing matched there is none. -/
abbrev Combination (Row : Type) := List (String × Option Row)

/-- Tables, and what a database sees in combinations of their rows: the truth of a test, and the group
that the values of expressions put a combination into. -/
structure World (Row : Type) where
  rows : String → List Row
  test : Combination Row → List Token → Truth
  group : Combination Row → List Token → Nat

/-! ## Queries -/

/-- A query without its limits. -/
def Sql.Query.unbounded (q : Query) : Query := { q with limit := none, offset := none }

namespace World

variable {Row : Type} (w : World Row)

/-- The truth of a condition; none at all is true. -/
def truth (c : Combination Row) : Option (List Token) → Truth
  | none => .yes
  | some ts => read (w.test c) ts.length ts

/-- A combination with each of the rows that are joined to it, or with none if no row matches. -/
def extended (c : Combination Row) (j : Joined) : List (Combination Row) :=
  let all := (w.rows j.source.table).map fun row => c ++ [(j.source.label, some row)]
  match all.filter fun longer => w.truth longer (some j.on) == .yes with
  | [] => [c ++ [(j.source.label, none)]]
  | matching => matching

/-- The rows of a query's table, each with the rows that its joins bring. -/
def combinations (q : Query) : List (Combination Row) :=
  q.joins.foldl (fun cs j => cs.flatMap fun c => w.extended c j)
    ((w.rows q.source.table).map fun row => [(q.source.label, some row)])

/-- The combinations on which the condition of a query is true. -/
def found (q : Query) : List (Combination Row) :=
  (w.combinations q).filter fun c => w.truth c q.condition == .yes

/-- How many rows a query has, or how many groups if it groups them, its limits left aside. -/
def size (q : Query) : Nat :=
  match q.groups with
  | none => (w.found q).length
  | some ts => ((w.found q).map fun c => w.group c ts).dedup.length

/-- A limit as a number; a negative one limits nothing. -/
def limit? : List Token → Option Nat
  | [.word digits] => (String.ofList digits).toNat?
  | _ => none

/-- How many rows a query returns. -/
def returned (q : Query) : Nat :=
  let rest := w.size q - (q.offset.bind limit?).getD 0
  match q.limit.bind limit? with
  | none => rest
  | some most => min most rest

/-- The reply to a statement is that of a database with these tables: it has as many rows as the query
returns, or their number where the statement asks for that. -/
structure Answers (d : Dialect) (x : Exchange) : Prop where
  rows : ∀ q, x.statement.question? d = some (.rows q) →
    ∃ answer, x.answer d = .ok answer ∧ answer.rows.length = w.returned q
  count : ∀ q, x.statement.question? d = some (.count q) → x.count d = .ok (w.returned q)

variable {w} {q r : Query}

theorem returned_unlimited (limit : q.limit = none) (offset : q.offset = none) :
    w.returned q = w.size q := by
  simp [returned, limit, offset]

theorem returned_unbounded (q : Query) : w.returned q.unbounded = w.size q :=
  w.returned_unlimited (q := q.unbounded) rfl rfl

/-- Queries about the same tables, joins and groups have the same size if their conditions are equally
true. -/
theorem size_congr (source : q.source = r.source) (joins : q.joins = r.joins)
    (groups : q.groups = r.groups)
    (condition : ∀ c, w.truth c q.condition = w.truth c r.condition) : w.size q = w.size r := by
  have found : w.found q = w.found r := by
    simp only [World.found, combinations, source, joins, condition]
  simp only [size, groups, found]

end World

/-! ## Selections -/

namespace Sql.Select

variable {Row : Type} {w : World Row} {d : Dialect} {s t : Select} {q r : Query} {f g : Fragment}

theorem quoted_injective {name other : String} (same : quoted name = quoted other) :
    name = other := by
  have chars := congrArg String.toList same
  simp only [quoted, String.toList_append] at chars
  exact String.toList_inj.mp (List.append_cancel_left (List.append_cancel_right chars))

theorem truth_condition (w : World Row) (c : Combination Row) (s : Select) :
    w.truth c s.condition = (Condition.renderRoot s.root).truth s.dialect (w.test c) := by
  unfold condition Fragment.truth
  simp only
  split <;> rfl

/-- Queries that find the rows of selections which agree have the same size. -/
theorem Agrees.size_eq (agrees : s.Agrees t) (first : s.Finds q) (second : t.Finds r) :
    w.size q = w.size r := by
  refine w.size_congr ?_ ?_ ?_ fun c => ?_
  · obtain ⟨named, plain⟩ := first.source
    obtain ⟨otherNamed, otherPlain⟩ := second.source
    have same : quoted q.source.table = quoted r.source.table :=
      Option.some.inj (named.symm.trans (agrees.table.trans otherNamed))
    exact Source.ext (quoted_injective same) (plain.trans otherPlain.symm)
  · rw [first.joins, second.joins, joined, joined, joinText, joinText, agrees.joins]
  · rw [first.groups, second.groups, agrees.groups]
  · rw [first.condition, second.condition, truth_condition, truth_condition, agrees.truth]

/-- Where one selection is counted and another that agrees with it is fetched, the database finds one
number of rows. -/
theorem Agrees.exists_size (agrees : s.Agrees t) (w : World Row) (made : s.Made) (counted : t.Made)
    (speaks : s.dialect = d) (speaksToo : t.dialect = d) (fetches : s.toSql = .ok f)
    (counts : t.countSql = .ok g) :
    ∃ q, f.question? d = some (.rows q) ∧
      (∀ x : Exchange, x.statement = g → w.Answers d x → x.count d = .ok (w.size q)) ∧
      (s.limit = none → s.offset = none → ∀ x : Exchange, x.statement = f → w.Answers d x →
        ∃ answer, x.answer d = .ok answer ∧ answer.rows.length = w.size q) := by
  obtain ⟨q, asks, finds, free⟩ := toSql_question made fetches
  obtain ⟨r, asksToo, findsToo, limit, offset⟩ := countSql_question counted counts
  rw [speaks] at asks
  rw [speaksToo] at asksToo
  refine ⟨q, asks, fun x same answers => ?_, fun unlimited unmoved x same answers => ?_⟩
  · rw [agrees.size_eq finds findsToo, ← w.returned_unlimited limit offset]
    exact answers.count r (same ▸ asksToo)
  · obtain ⟨limit, offset⟩ := free unlimited unmoved
    rw [← w.returned_unlimited limit offset]
    exact answers.rows q (same ▸ asks)

end Sql.Select

/-!
## What work asks first

Work on an open connection that asks one question of the database before anything else, and makes of
the reply what it will.  What such work comes to is decided by the tables that are asked, whatever it
does after that.
-/

namespace Session

variable {α β : Type} {d : Dialect} {mode : TrashedMode}
  {Q : Except Failure α → List Exchange → Prop} {R : Except Failure β → List Exchange → Prop}

/-- What work comes to on an open connection while rows are seen in a mode: its outcome and its
exchanges stand in a relation. -/
def Yields (d : Dialect) (mode : TrashedMode) (work : Session α)
    (Q : Except Failure α → List Exchange → Prop) : Prop :=
  ∀ s script, s.database.dialect = d → s.database.pending = some script → s.model.trashed = mode →
    Q (work s).outcome ((work s).sent script)

theorem Yields.mono {Q' : Except Failure α → List Exchange → Prop} {work : Session α}
    (yields : Yields d mode work Q) (weaker : ∀ outcome xs, Q outcome xs → Q' outcome xs) :
    Yields d mode work Q' :=
  fun s script speaks connected sees => weaker _ _ (yields s script speaks connected sees)

/-! ### Before the first statement -/

/-- Work on the result of a computation. -/
theorem yields_of_bind {made : Except Failure α} {next : α → Session β}
    (fails : ∀ failure, made = .error failure → R (.error failure) [])
    (goes : ∀ a, made = .ok a → Yields d mode (next a) R) : Yields d mode (of made >>= next) R := by
  intro s script speaks connected sees
  cases made with
  | error failure => exact fails failure rfl
  | ok a => exact goes a rfl s script speaks connected sees

theorem yields_dialect_bind {next : Dialect → Session β} (goes : Yields d mode (next d) R) :
    Yields d mode (dialect >>= next) R := by
  intro s script speaks connected sees
  have told := goes s script speaks connected sees
  rw [← speaks] at told
  exact told

theorem yields_mode_bind {next : TrashedMode → Session β} (goes : Yields d mode (next mode) R) :
    Yields d mode (Model.mode >>= next) R := by
  intro s script speaks connected sees
  have told := goes s script speaks connected sees
  rw [← sees] at told
  exact told

theorem yields_log_bind {level : LogLevel} {message : String} {next : Unit → Session β}
    (goes : Yields d mode (next ()) R) : Yields d mode (log level message >>= next) R :=
  fun s script speaks connected sees => goes s script speaks connected sees

theorem ran_map (work : Session α) (f : α → β) (s : SessionState) :
    ((work >>= fun a => pure (f a)) s).outcome = (work s).outcome.map f ∧
      ((work >>= fun a => pure (f a)) s).entries = (work s).entries := by
  cases came : (work s).outcome with
  | error failure =>
    rw [ran_failed came]
    exact ⟨rfl, rfl⟩
  | ok a =>
    rw [ran_on came]
    exact ⟨rfl, List.append_nil _⟩

theorem Yields.map {work : Session α} {f : α → β}
    (yields : Yields d mode work fun outcome xs => R (outcome.map f) xs) :
    Yields d mode (work >>= fun a => pure (f a)) R := by
  intro s script speaks connected sees
  obtain ⟨outcome, entries⟩ := ran_map work f s
  rw [Ran.sent, outcome, entries]
  exact yields s script speaks connected sees

/-! ### The first statement -/

/-- A statement and what follows its reply. -/
theorem yields_execute_bind {f : Fragment} {next : Answered → Session β}
    (refused : ∀ x : Exchange, x.statement = f → ∀ failure, x.answer d = .error failure →
      R (.error failure) [x])
    (goes : ∀ x : Exchange, x.statement = f → ∀ a, x.answer d = .ok a → ∀ s script,
      R (next a s).outcome (x :: (next a s).sent script)) :
    Yields d mode (execute f >>= next) R := by
  intro s script speaks connected sees
  have ran := execute_connected (f := f) connected
  rw [speaks] at ran
  have told : statements (execute f s).entries = [f] := by
    rw [ran]
    rfl
  cases came : (Exchange.mk f script.head?).answer d with
  | error failure =>
    have fails : (execute f s).outcome = .error failure := by
      rw [ran]
      exact came
    rw [ran_failed fails, Ran.sent, told]
    exact refused ⟨f, script.head?⟩ rfl failure came
  | ok a =>
    have returns : (execute f s).outcome = .ok a := by
      rw [ran]
      exact came
    rw [ran_on returns, Ran.sent, statements_append, told]
    exact goes ⟨f, script.head?⟩ rfl a came _ script.tail

/-! ### Questions to tables -/

/-- Work that fails and asks nothing. -/
def Refused : Except Failure α → List Exchange → Prop :=
  fun outcome xs => (∃ failure, outcome = .error failure) ∧ xs = []

/-- Work that asks something first, and comes to what `P` says of the exchange and the outcome where
the reply is that of a database with given tables. -/
def Asks {Row : Type} (w : World Row) (d : Dialect) (P : Exchange → Except Failure α → Prop) :
    Except Failure α → List Exchange → Prop :=
  fun outcome xs => ∃ x rest, xs = x :: rest ∧ (w.Answers d x → P x outcome)

variable {Row : Type} {w : World Row} {selection : Select} {f : Fragment} {n : Nat}

theorem refused_of {failure : Failure} : Refused (.error failure : Except Failure α) [] :=
  ⟨⟨failure, rfl⟩, rfl⟩

/-- Rows are fetched by one statement. -/
theorem fetch_bind (written : selection.toSql = .ok f) (next : List Record → Session β) :
    fetch selection >>= next = execute f >>= fun answer => next answer.rows := by
  have made : of selection.toSql = (pure f : Session Fragment) := by
    rw [written]
    rfl
  rw [fetch, made, pure_bind, select, bind_assoc]
  simp only [pure_bind]

/-- Work with the rows of a selection, whose number the tables tell. -/
theorem yields_fetch_bind {next : List Record → Session β} {P : Exchange → Except Failure β → Prop}
    (written : selection.toSql = .ok f)
    (told : ∀ x : Exchange, x.statement = f → w.Answers d x →
      ∃ answer, x.answer d = .ok answer ∧ answer.rows.length = n)
    (goes : ∀ x answer s, x.answer d = .ok answer → answer.rows.length = n →
      P x (next answer.rows s).outcome) :
    Yields d mode (fetch selection >>= next) (Asks w d P) := by
  rw [fetch_bind written]
  refine yields_execute_bind (fun x same failure refused => ?_) fun x same a came s script => ?_
  · refine ⟨x, [], rfl, fun answers => ?_⟩
    obtain ⟨answer, answered, _⟩ := told x same answers
    cases answered.symm.trans refused
  · refine ⟨x, _, rfl, fun answers => ?_⟩
    obtain ⟨answer, answered, length⟩ := told x same answers
    cases Except.ok.inj (came.symm.trans answered)
    exact goes x a s came length

/-- The number of rows of a selection, which the tables tell. -/
theorem yields_total (written : selection.countSql = .ok f)
    (told : ∀ x : Exchange, x.statement = f → w.Answers d x → x.count d = .ok n) :
    Yields d mode (total selection) (Asks w d fun _ outcome => outcome = .ok (n : Int)) := by
  have plain : total selection = execute f >>= fun a =>
      of (countOf (((a.rows.head?.bind List.head?).map (·.2)).getD .null)) := by
    have made : of selection.countSql = (pure f : Session Fragment) := by
      rw [written]
      rfl
    rw [total, made, pure_bind, counted_eq]
  rw [plain]
  refine yields_execute_bind (fun x same failure refused => ?_) fun x same a came s script => ?_
  · refine ⟨x, [], rfl, fun answers => ?_⟩
    have counted := told x same answers
    rw [Exchange.count, refused] at counted
    cases counted
  · refine ⟨x, _, rfl, fun answers => ?_⟩
    have counted := told x same answers
    rw [Exchange.count, came] at counted
    exact counted

end Session

end Curator
