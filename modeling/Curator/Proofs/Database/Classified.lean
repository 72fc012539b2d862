import Mathlib.Data.List.Forall2
import Curator.Proofs.Database.Exchange
/-!
# Classes of refusals

How the two databases report what they refuse, over any row of statements: which failure a refusal
becomes, and whether a statement is committed or rolled back.  They differ on one kind of refusal
only: one database is known to tell of uniqueness by a word, which may as well be part of the name
of a table or a column.
-/

set_option autoImplicit false

namespace Curator

open Sql

/-! ## What a reply stands for -/

namespace Exchange

end Exchange

/-- Statements one after the other, whatever each of them comes to. -/
def Session.each (fs : List Fragment) : Session (List (Except Failure Answered)) :=
  fs.mapM fun f => outcomeOf (execute f)

/-- How a statement ended: committed or rolled back. -/
def Entry.ending? : Entry → Option (Fragment × Bool)
  | .statement sql params committed => some (⟨sql, params⟩, committed)
  | _ => none

namespace Session

end Session

/-! ## Both databases -/

namespace Sample

def lite (script : List Reply) : SessionState := ⟨.opened .sqlite ":memory:" script, .empty, .idle⟩

end Sample

end Curator
