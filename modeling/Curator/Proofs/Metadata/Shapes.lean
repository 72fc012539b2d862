import Curator.Metadata.Document
/-!
# Documents of accepted shapes

What a document that its shape accepts is made of: which of its parts are texts, lists and mappings.
Patterns and bounds are left aside, for nothing that takes the document in relies on them.
-/

set_option autoImplicit false

namespace Curator

/-! ## Texts -/

namespace Metadata

variable {shape rest : Shape} {rule : Rule} {v : Value} {kind : Kind}

/-- A shape accepts what does not violate it. -/
def Accepts (shape : Shape) (v : Value) : Prop := shapeViolations shape v = []

/-! ## Rules -/

theorem keeps_plain {plain : PlainRule} :
    (Rule.plain plain).violations v = [] ↔ plain.breaches v = [] :=
  List.map_eq_nil_iff

end Metadata

end Curator
