import Curator.Metadata.Load
import Curator.Proofs.Metadata.Shapes
import Curator.Proofs.Outcome
/-!
# Taking accepted documents in

A document that its shape accepts becomes a schema or settings, or is refused over the
configuration.  Each step on the way takes what the step before it gives, so what is known of the
document's parts is carried along.
-/

set_option autoImplicit false

namespace Curator

/-! ## Configuring -/

namespace Outcome

variable {α β : Type} {Q : α → Prop} {R : β → Prop} {a : α} {x : Except Failure α}

/-- A computation that gives what `Q` says or is refused over the configuration. -/
def Configures (Q : α → Prop) (x : Except Failure α) : Prop :=
  FailsOnly x (fun f => f.category = .configuration) ∧ ∀ a, x = .ok a → Q a

theorem configures_error {f : Failure} (refused : f.category = .configuration) :
    Configures Q (.error f) :=
  ⟨failsOnly_error refused, nofun⟩

theorem Configures.mono {Q' : α → Prop} (first : Configures Q x) (weaker : ∀ a, Q a → Q' a) :
    Configures Q' x :=
  ⟨first.1, fun a came => weaker a (first.2 a came)⟩

theorem Configures.bind {next : α → Except Failure β} (first : Configures Q x)
    (later : ∀ a, Q a → Configures R (next a)) : Configures R (x >>= next) := by
  cases x with
  | error f => exact configures_error (first.1 f rfl)
  | ok a => exact later a (first.2 a rfl)

end Outcome

open Outcome

section

variable {v : Value} {values : List Value} {entries : Record}

end

/-! ## Checks -/

section

variable {fail : DefinitionFault → Failure}
  (refuses : ∀ fault, (fail fault).category = .configuration)

include refuses

end

namespace Metadata

variable {rest : Shape} {v : Value}

end Metadata

end Curator
