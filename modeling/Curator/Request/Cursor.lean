import Curator.Text.Encoding
import Curator.Value.Conversion
/-!
# Cursors

The opaque token for a place in a list: the text of the cursor field's value in base 64.  A token
whose text is an integer stands for the integer.
-/

set_option autoImplicit false

namespace Curator.Cursor

def ofText (text : String) : String :=
  String.ofList (Text.encodeBase64 (Text.utf8Bytes text))

/-- The token of a value. -/
def encode (value : Value) : Except Failure String := do
  let text ← value.text?
  pure (ofText text)

/-- The text in a token, which must not be empty. -/
def text? (token : String) : Option String := do
  let data ← Text.decodeBase64 token.toList
  let text ← Text.ofUtf8? data
  if text = "" then none else some text

/-- Whether a text is an optional minus and digits; one line end may follow. -/
def isIntegerText (text : List Char) : Bool :=
  let text := Text.withoutFinalNewline text
  let digits := if text.head? = some '-' then text.tail else text
  !digits.isEmpty && digits.all Text.isDigit

/-- The value a token stands for. -/
def decode (token : String) : Except Failure Value :=
  match text? token with
  | none => .error (.request .cursor)
  | some text =>
    if isIntegerText text.toList then do
      let n ← integerOfText text
      pure (.int n)
    else .ok (.str text)

end Curator.Cursor
