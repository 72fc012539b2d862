import Curator.Sql.Dialect
import Curator.Text.Casing
/-!
# Databases

A database as the engine meets it: a connection that answers statements, each with rows and counts
or with a refusal.  The answers a connection will give are part of the database's state; when they
are used up every further answer is empty.
-/

set_option autoImplicit false

namespace Curator

open Sql

/-- Why a database refuses a statement. -/
inductive RefusalKind where
  | unique
  | integrity
  | other
  deriving DecidableEq, Repr

/-- What a database answers to a statement it performs. -/
structure Answered where
  rows : List Record
  /-- The number of rows the statement wrote. -/
  count : Int
  /-- The key of the row it inserted, where the database tells. -/
  lastId : Value
  deriving Inhabited

def Answered.empty : Answered := ⟨[], 0, .null⟩

inductive Reply where
  | answered (answer : Answered)
  | refused (kind : RefusalKind) (words : String)

structure Database where
  dialect : Dialect
  target : String
  /-- What a new connection answers, statement by statement. -/
  answers : List Reply
  /-- What the open connection still has to answer; none without a connection. -/
  pending : Option (List Reply)
  lastId : Value

namespace Database

/-- A database that nobody is connected to. -/
def closed (dialect : Dialect) (target : String) (answers : List Reply) : Database :=
  ⟨dialect, target, answers, none, .null⟩

def opened (dialect : Dialect) (target : String) (answers : List Reply) : Database :=
  ⟨dialect, target, answers, some answers, .null⟩

end Database

/-- The failure a refusal is reported as.  One kind of database tells the violation of a unique
constraint from others of its integrity only in its words. -/
def Sql.Dialect.refusalFailure (dialect : Dialect) (kind : RefusalKind) (words : String) : Failure :=
  match dialect, kind with
  | .postgresql, .unique => .conflict (.refused words)
  | .sqlite, .other => .unexpected (.database words)
  | .sqlite, _ =>
    if Text.holds (Text.upper words) "UNIQUE" then .conflict (.refused words)
    else .unexpected (.integrity words)
  | .postgresql, _ => .unexpected (.database words)

end Curator
