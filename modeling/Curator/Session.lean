import Curator.Database.Basic
import Curator.Journal
import Curator.Plan.Basic
/-!
# Sessions

Work on a database, an event bus and the state of one model.  Such work ends with a result or a
failure; either way it leaves a new state and the entries of the journal that it made.  Work that
follows other work runs in the state that was left, and its entries come after those made before;
what follows a failure does not run.
-/

set_option autoImplicit false

namespace Curator

/-- The state a model keeps between and during its operations. -/
structure ModelState where
  /-- Whether an operation is under way. -/
  begun : Bool
  /-- Which rows the next operation sees. -/
  trashed : TrashedMode
  /-- Whether the operation under way is an upsert. -/
  upserting : Bool
  deriving DecidableEq, Repr, Inhabited

/-- The state between operations. -/
def ModelState.idle : ModelState := ⟨false, .exclude, false⟩

structure SessionState where
  database : Database
  bus : EventBus
  model : ModelState

/-- What work has come to. -/
structure Ran (α : Type) where
  outcome : Except Failure α
  state : SessionState
  entries : List Entry

/-- Work in a session. -/
def Session (α : Type) : Type :=
  SessionState → Ran α

namespace Session

variable {α β : Type}

/-- Work that does nothing and gives a result. -/
def done (a : α) : Session α :=
  fun s => ⟨.ok a, s, []⟩

def fail (failure : Failure) : Session α :=
  fun s => ⟨.error failure, s, []⟩

/-- Work followed by more work on its result. -/
def andThen (first : Session α) (next : α → Session β) : Session β :=
  fun s =>
    let ran := first s
    match ran.outcome with
    | .error failure => ⟨.error failure, ran.state, ran.entries⟩
    | .ok a =>
      let rest := next a ran.state
      ⟨rest.outcome, rest.state, ran.entries ++ rest.entries⟩

instance : Monad Session where
  pure := done
  bind := andThen

/-- The result of a computation, or its failure. -/
def of (result : Except Failure α) : Session α :=
  fun s => ⟨result, s, []⟩

/-- Adds an entry to the journal. -/
def record (entry : Entry) : Session Unit :=
  fun s => ⟨.ok (), s, [entry]⟩

def log (level : LogLevel) (message : String) : Session Unit :=
  record (.logged level message)

/-- The outcome of work as a result, which never fails. -/
def outcomeOf (work : Session α) : Session (Except Failure α) :=
  fun s =>
    let ran := work s
    ⟨.ok ran.outcome, ran.state, ran.entries⟩

/-- Work whose failures are dealt with. -/
def rescue (work : Session α) (handle : Failure → Session α) : Session α :=
  andThen (outcomeOf work) fun
    | .ok a => done a
    | .error failure => handle failure

def state : Session SessionState :=
  fun s => ⟨.ok s, s, []⟩

def dialect : Session Sql.Dialect :=
  fun s => ⟨.ok s.database.dialect, s, []⟩

def model : Session ModelState :=
  fun s => ⟨.ok s.model, s, []⟩

def setDatabase (database : Database) : Session Unit :=
  fun s => ⟨.ok (), { s with database }, []⟩

def setBus (bus : EventBus) : Session Unit :=
  fun s => ⟨.ok (), { s with bus }, []⟩

def setModel (model : ModelState) : Session Unit :=
  fun s => ⟨.ok (), { s with model }, []⟩

/-- Work with a model state of its own, after which the present one is back. -/
def withModel (model : ModelState) (work : Session α) : Session α :=
  fun s =>
    let ran := work { s with model }
    ⟨ran.outcome, { ran.state with model := s.model }, ran.entries⟩

end Session

end Curator
