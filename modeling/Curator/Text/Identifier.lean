import Curator.Text.Basic
/-!
# Identifiers

The names that may stand in a statement: identifiers, keys inside a JSON column, and the aliases of
output columns, which join identifiers by dots and keys by arrows.  A line end at the very end of a
name is let through.
-/

set_option autoImplicit false

namespace Curator.Text

/-- An ASCII letter or an underscore. -/
def isNameStart (c : Char) : Bool :=
  c.isAlpha || c == '_'

def isNameRest (c : Char) : Bool :=
  c.isAlphanum || c == '_'

/-- Whether a text is a letter or underscore followed by letters, digits and underscores. -/
def isBareIdentifier : List Char → Bool
  | [] => false
  | c :: rest => isNameStart c && rest.all isNameRest

def isKeyChar (c : Char) : Bool :=
  c.isAlphanum || c == '_' || c == '-'

/-- Whether a text is a non-empty run of letters, digits, underscores and dashes. -/
def isBareKey (text : List Char) : Bool :=
  !text.isEmpty && text.all isKeyChar

/-- The mark between a JSON column and the keys inside it. -/
def arrow : List Char := ['-', '>']

/-- Whether a text is a segment of an alias: an identifier with keys behind arrows. -/
def isBareSegment (text : List Char) : Bool :=
  match pieces arrow text with
  | [] => false
  | column :: keys => isBareIdentifier column && keys.all isBareKey

def isIdentifier (name : String) : Bool :=
  isBareIdentifier (withoutFinalNewline name.toList)

def isJsonKey (name : String) : Bool :=
  isBareKey (withoutFinalNewline name.toList)

def isAlias (name : String) : Bool :=
  (pieces ['.'] (withoutFinalNewline name.toList)).all isBareSegment

end Curator.Text
