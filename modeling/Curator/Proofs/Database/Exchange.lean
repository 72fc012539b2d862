import Curator.Model.Basic
import Curator.Proofs.Lifecycle.Blind
/-!
# Exchanges with a database

The statements that work sends, each with the reply it met.  An open connection replies from a script,
so what work comes to on every script is what it comes to whatever the database does.  A property of
the outcome and the exchanges together is passed along a sequence of works: what follows is judged by
what has been exchanged before it.
-/

set_option autoImplicit false

namespace Curator

open Sql

/-! ## Statements and replies -/

def Entry.statement? : Entry → Option Fragment
  | .statement sql params _ => some ⟨sql, params⟩
  | _ => none

/-- The statements among entries of a journal, in order. -/
def statements (entries : List Entry) : List Fragment :=
  entries.filterMap Entry.statement?

theorem statements_append (first second : List Entry) :
    statements (first ++ second) = statements first ++ statements second :=
  List.filterMap_append

/-- A statement and the reply it met; none if the script had ended. -/
structure Exchange where
  statement : Fragment
  reply : Option Reply

/-- Statements paired with the replies of a script. -/
def exchanges : List Fragment → List Reply → List Exchange
  | [], _ => []
  | f :: rest, script => ⟨f, script.head?⟩ :: exchanges rest script.tail

theorem exchanges_append (first second : List Fragment) (script : List Reply) :
    exchanges (first ++ second) script =
      exchanges first script ++ exchanges second (script.drop first.length) := by
  induction first generalizing script with
  | nil => rfl
  | cons f rest ih =>
    have later := ih script.tail
    rw [List.drop_tail] at later
    exact congrArg (⟨f, script.head?⟩ :: ·) later

theorem reply_of_exchanges {statements : List Fragment} {script : List Reply} {x : Exchange}
    {later : List Exchange} (same : exchanges statements script = x :: later) :
    x.reply = script.head? := by
  cases statements with
  | nil => cases same
  | cons f rest =>
    cases same
    rfl

namespace Exchange

/-- What the engine makes of the reply. -/
def answer (d : Dialect) (x : Exchange) : Except Failure Answered :=
  match x.reply with
  | none => .ok .empty
  | some (.answered answer) => .ok answer
  | some (.refused kind words) => .error (d.refusalFailure kind words)

/-- The first value of the first row of the reply as a count. -/
def count (d : Dialect) (x : Exchange) : Except Failure Int := do
  let answer ← x.answer d
  Session.countOf (((answer.rows.head?.bind List.head?).map (·.2)).getD .null)

end Exchange

/-- The exchanges of work that ran on a script. -/
def Ran.sent {α : Type} (ran : Ran α) (script : List Reply) : List Exchange :=
  exchanges (statements ran.entries) script

/-! ## Kinds of statements -/

def Sql.Fragment.Selects (f : Fragment) : Prop := ∃ rest, f.sql = "SELECT " ++ rest

def Sql.Fragment.Counts (f : Fragment) : Prop := ∃ rest, f.sql = "SELECT COUNT(" ++ rest

def Sql.Fragment.Inserts (f : Fragment) : Prop := ∃ rest, f.sql = "INSERT INTO " ++ rest

def Sql.Fragment.Updates (f : Fragment) : Prop := ∃ rest, f.sql = "UPDATE " ++ rest

/-! ## What work tells -/

/-- An open connection with a script still to come, outside of an upsert. -/
structure SessionState.Open (s : SessionState) (d : Dialect) (script : List Reply) : Prop where
  dialect : s.database.dialect = d
  pending : s.database.pending = some script
  upserting : s.model.upserting = false

/-- What work comes to on an open connection: its outcome and its exchanges stand in a relation, and
the connection is left where the script has come to. -/
def Session.Tells {α : Type} (d : Dialect) (work : Session α)
    (Q : Except Failure α → List Exchange → Prop) : Prop :=
  ∀ s script, s.Open d script →
    (work s).state.Open d (script.drop (statements (work s).entries).length) ∧
      Q (work s).outcome (exchanges (statements (work s).entries) script)

/-- Every exchange is as `P` says, whatever the outcome. -/
def Every {α : Type} (P : Exchange → Prop) : Except Failure α → List Exchange → Prop :=
  fun _ xs => ∀ x ∈ xs, P x

/-- Where there is a result, it and the exchanges are as `P` says. -/
def Returns {α : Type} (P : α → List Exchange → Prop) :
    Except Failure α → List Exchange → Prop :=
  fun outcome xs => ∀ a, outcome = .ok a → P a xs

theorem returns_error {α : Type} {P : α → List Exchange → Prop} {failure : Failure}
    {xs : List Exchange} : Returns P (.error failure) xs :=
  nofun

namespace Session

variable {α β : Type} {d : Dialect} {Q : Except Failure α → List Exchange → Prop}
  {R : Except Failure β → List Exchange → Prop} {P : Exchange → Prop}

theorem Tells.mono {Q' : Except Failure α → List Exchange → Prop} {work : Session α}
    (tells : Tells d work Q) (weaker : ∀ outcome xs, Q outcome xs → Q' outcome xs) :
    Tells d work Q' := by
  intro s script opened
  have told := tells s script opened
  exact ⟨told.1, weaker _ _ told.2⟩

theorem Tells.and {Q' : Except Failure α → List Exchange → Prop} {work : Session α}
    (first : Tells d work Q) (second : Tells d work Q') :
    Tells d work fun outcome xs => Q outcome xs ∧ Q' outcome xs := by
  intro s script opened
  exact ⟨(first s script opened).1, (first s script opened).2, (second s script opened).2⟩

theorem tells_pure {a : α} (holds : Q (.ok a) []) : Tells d (pure a) Q :=
  fun _ _ opened => ⟨opened, holds⟩

theorem tells_done {a : α} (holds : Q (.ok a) []) : Tells d (done a) Q :=
  fun _ _ opened => ⟨opened, holds⟩

theorem tells_fail {failure : Failure} (holds : Q (.error failure) []) :
    Tells d (fail failure) Q :=
  fun _ _ opened => ⟨opened, holds⟩

theorem tells_of {result : Except Failure α} (holds : Q result []) : Tells d (of result) Q :=
  fun _ _ opened => ⟨opened, holds⟩

theorem tells_record {entry : Entry} {Q : Except Failure Unit → List Exchange → Prop}
    (none : entry.statement? = none) (holds : Q (.ok ()) []) : Tells d (record entry) Q := by
  intro s script opened
  have nothing : statements [entry] = [] := by simp [statements, none]
  refine ⟨?_, ?_⟩
  · change s.Open d (script.drop (statements [entry]).length)
    rw [nothing]
    exact opened
  · change Q (.ok ()) (exchanges (statements [entry]) script)
    rw [nothing]
    exact holds

theorem tells_dialect {Q : Except Failure Dialect → List Exchange → Prop}
    (holds : Q (.ok d) []) : Tells d dialect Q := by
  intro s script opened
  refine ⟨opened, ?_⟩
  change Q (.ok s.database.dialect) []
  rw [opened.dialect]
  exact holds

theorem tells_setBus {bus : EventBus} {Q : Except Failure Unit → List Exchange → Prop}
    (holds : Q (.ok ()) []) : Tells d (setBus bus) Q :=
  fun _ _ opened => ⟨⟨opened.dialect, opened.pending, opened.upserting⟩, holds⟩

/-- What follows a result is judged by what has been exchanged before it. -/
theorem Tells.bind {first : Session α} {next : α → Session β}
    (tells : Tells d first fun outcome xs =>
      match outcome with
      | .error failure => R (.error failure) xs
      | .ok a => Tells d (next a) fun outcome ys => R outcome (xs ++ ys)) :
    Tells d (first >>= next) R := by
  intro s script opened
  obtain ⟨left, told⟩ := tells s script opened
  simp only [Bind.bind, andThen]
  cases came : (first s).outcome with
  | error failure =>
    rw [came] at told
    exact ⟨left, told⟩
  | ok a =>
    rw [came] at told
    obtain ⟨ends, told⟩ := told _ _ left
    simp only [statements_append, List.length_append, exchanges_append]
    rw [List.drop_drop] at ends
    exact ⟨ends, told⟩

theorem Tells.bind_every {first : Session α} {next : α → Session β}
    (head : Tells d first (Every P)) (tail : ∀ a, Tells d (next a) (Every P)) :
    Tells d (first >>= next) (Every P) := by
  refine Tells.bind (head.mono fun outcome xs before => ?_)
  cases outcome with
  | error failure => exact before
  | ok a =>
    refine (tail a).mono fun outcome ys after x member => ?_
    rcases List.mem_append.mp member with member | member
    · exact before x member
    · exact after x member

theorem Tells.bind_returns {first : Session α} {next : α → Session β}
    {before : α → List Exchange → Prop} {after : β → List Exchange → Prop}
    (head : Tells d first (Returns before))
    (tail : ∀ a xs, before a xs → Tells d (next a) (Returns fun b ys => after b (xs ++ ys))) :
    Tells d (first >>= next) (Returns after) := by
  refine Tells.bind (head.mono fun outcome xs told => ?_)
  cases outcome with
  | error failure => exact nofun
  | ok a => exact tail a xs (told a rfl)

theorem tells_returned {a : α} {P : α → List Exchange → Prop} (holds : P a []) :
    Tells d (pure a) (Returns P) := by
  refine tells_pure fun b same => ?_
  cases same
  exact holds

theorem tells_record_bind {entry : Entry} {next : Unit → Session β}
    (none : entry.statement? = none) (goes : Tells d (next ()) R) :
    Tells d (record entry >>= next) R :=
  Tells.bind (tells_record none goes)

theorem tells_log_bind {level : LogLevel} {message : String} {next : Unit → Session β}
    (goes : Tells d (next ()) R) : Tells d (log level message >>= next) R :=
  tells_record_bind rfl goes

theorem tells_dialect_bind {next : Dialect → Session β} (goes : Tells d (next d) R) :
    Tells d (dialect >>= next) R :=
  Tells.bind (tells_dialect goes)

/-- Work on the result of a computation. -/
theorem tells_of_bind {made : Except Failure α} {next : α → Session β}
    (fails : ∀ failure, made = .error failure → R (.error failure) [])
    (goes : ∀ a, made = .ok a → Tells d (next a) R) : Tells d (of made >>= next) R := by
  refine Tells.bind (tells_of ?_)
  cases came : made with
  | error failure => exact fails failure came
  | ok a => exact goes a came

theorem Tells.map {work : Session α} {f : α → β}
    (tells : Tells d work fun outcome xs => R (outcome.map f) xs) : Tells d (f <$> work) R := by
  rw [← bind_pure_comp]
  refine Tells.bind (tells.mono fun outcome xs told => ?_)
  cases outcome with
  | error failure => exact told
  | ok a =>
    refine tells_pure ?_
    rw [List.append_nil]
    exact told

theorem Tells.outcomeOf {work : Session α}
    {Q : Except Failure (Except Failure α) → List Exchange → Prop}
    (tells : Tells d work fun outcome xs => Q (.ok outcome) xs) : Tells d (outcomeOf work) Q :=
  fun s script opened => tells s script opened

theorem every_nil (outcome : Except Failure α) : Every P outcome [] := fun _ member => nomatch member

theorem of_bind (x : Except Failure α) (f : α → Except Failure β) :
    of (x >>= f) = of x >>= fun a => of (f a) := by
  cases x with
  | error failure => rfl
  | ok a => rfl

/-! ## Statements -/

theorem execute_disconnected {f : Fragment} {s : SessionState}
    (disconnected : s.database.pending = none) :
    execute f s = ⟨.error (.misuse .notConnected), s, []⟩ := by
  simp only [execute, Bind.bind, andThen, state, disconnected]
  rfl

/-- A statement on an open connection takes the next reply of its script. -/
theorem execute_connected {f : Fragment} {s : SessionState} {script : List Reply}
    (connected : s.database.pending = some script) :
    let answer := (Exchange.mk f script.head?).answer s.database.dialect
    execute f s = ⟨answer, { s with database := { s.database with pending := some script.tail } },
      [.logged .debug (statementMessage f), .statement f.sql f.params answer.isOk]⟩ := by
  simp only [execute, Bind.bind, andThen, state, connected]
  rcases script with - | ⟨reply, rest⟩
  · rfl
  · cases reply with
    | answered answer => rfl
    | refused kind words => rfl

theorem tells_execute {f : Fragment} {Q : Except Failure Answered → List Exchange → Prop}
    (holds : ∀ reply, Q ((Exchange.mk f reply).answer d) [⟨f, reply⟩]) :
    Tells d (execute f) Q := by
  intro s script opened
  have answered := holds script.head?
  rw [execute_connected opened.pending, opened.dialect]
  refine ⟨⟨opened.dialect, ?_, opened.upserting⟩, answered⟩
  exact congrArg some (List.drop_one (l := script)).symm

end Session

end Curator
