import Curator.Transform.Basic
/-!
# Timestamps

The text under which the engine stores a moment: date and time in universal time, to the second.
-/

set_option autoImplicit false

namespace Curator

open Calendar

/-- A moment in universal time; one without an offset is in universal time already. -/
def universal (m : Moment) : Except Failure Moment :=
  match m.offset with
  | none => .ok m
  | some _ =>
    match m.toUniversal? with
    | some moment => .ok moment
    | none => .error (.fault .overflow "date value out of range")

/-- The moment a value stands for: a moment, a number of seconds since the epoch, or nothing, which
is the current moment. -/
def momentOf (now : Moment) : Value → Except Failure Moment
  | .null => .ok now
  | .int n => Transform.momentAt n
  | .float x =>
    match momentOfFloat x with
    | .ok moment => .ok moment
    | .error fault => .error (Transform.epochFailure fault)
  | .moment m => .ok m
  | other => .error (.misuse (.notAMoment other.kindName))

def timestamp (now : Moment) (value : Value) : Except Failure String := do
  let moment ← momentOf now value
  let moment ← universal moment
  pure moment.stampText

end Curator
