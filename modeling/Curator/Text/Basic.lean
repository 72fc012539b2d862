/-!
# Pieces of text

Cutting a text at a mark, joining the pieces, replacing a mark and trimming the ends, on lists of
characters.  Every function has a twin on `String` of the same meaning.  Pieces are found from the
left and do not overlap.
-/

set_option autoImplicit false

namespace Curator.Text

/-- The pieces of a text between the occurrences of `mark`.  `skip` counts the characters of the
current occurrence that are still to be passed over. -/
def piecesFrom (mark : List Char) : Nat → List Char → List (List Char)
  | _, [] => [[]]
  | skip + 1, _ :: rest => piecesFrom mark skip rest
  | 0, c :: rest =>
    if mark.isPrefixOf (c :: rest) then
      [] :: piecesFrom mark (mark.length - 1) rest
    else
      match piecesFrom mark 0 rest with
      | [] => [[c]]
      | piece :: pieces => (c :: piece) :: pieces

/-- The pieces of a text between the occurrences of a non-empty `mark`; a text without the mark is
its own single piece. -/
def pieces (mark text : List Char) : List (List Char) :=
  piecesFrom mark 0 text

/-- The text before and after the first occurrence of `mark`. -/
def cut? (mark : List Char) : List Char → Option (List Char × List Char)
  | [] => if mark.isEmpty then some ([], []) else none
  | c :: rest =>
    if mark.isPrefixOf (c :: rest) then some ([], (c :: rest).drop mark.length)
    else (cut? mark rest).map fun (before, after) => (c :: before, after)

/-- Whether `mark` occurs somewhere in the text. -/
def occurs (mark text : List Char) : Bool :=
  (cut? mark text).isSome

/-- Every occurrence of `mark` becomes `image`. -/
def replaced (mark image text : List Char) : List Char :=
  image.intercalate (pieces mark text)

/-- The text without the characters of a class at its end. -/
def trimEnd (inClass : Char → Bool) (text : List Char) : List Char :=
  (text.reverse.dropWhile inClass).reverse

/-- The text without the characters of a class at both ends. -/
def trim (inClass : Char → Bool) (text : List Char) : List Char :=
  trimEnd inClass (text.dropWhile inClass)

/-- One line end at the very end of a text does not count for the patterns of this library that are
anchored at the end. -/
def withoutFinalNewline (text : List Char) : List Char :=
  match text.getLast? with
  | some '\n' => text.dropLast
  | _ => text

/-! ## On strings -/

def split (text mark : String) : List String :=
  (pieces mark.toList text.toList).map String.ofList

def splitOnce? (text mark : String) : Option (String × String) :=
  (cut? mark.toList text.toList).map fun (before, after) =>
    (String.ofList before, String.ofList after)

def join (mark : String) (parts : List String) : String :=
  String.intercalate mark parts

def replace (text mark image : String) : String :=
  String.ofList (replaced mark.toList image.toList text.toList)

def holds (text mark : String) : Bool :=
  occurs mark.toList text.toList

def startsWith (text mark : String) : Bool :=
  mark.toList.isPrefixOf text.toList

/-- The text without the leading characters of a class. -/
def dropLeading (inClass : Char → Bool) (text : String) : String :=
  String.ofList (text.toList.dropWhile inClass)

/-! ## Digits of a base -/

def hexDigit (value : Nat) : Char :=
  if value < 10 then Char.ofNat (48 + value) else Char.ofNat (87 + value)

def hexValue? (c : Char) : Option Nat :=
  if '0' ≤ c ∧ c ≤ '9' then some (c.toNat - 48)
  else if 'a' ≤ c ∧ c ≤ 'f' then some (c.toNat - 87)
  else if 'A' ≤ c ∧ c ≤ 'F' then some (c.toNat - 55)
  else none

/-- A number in hexadecimal with exactly `width` digits, the leading ones zero. -/
def hexPadded : Nat → Nat → List Char
  | 0, _ => []
  | width + 1, value => hexPadded width (value / 16) ++ [hexDigit (value % 16)]

/-- A number in decimal, with zeros in front up to `width` digits. -/
def padded (width value : Nat) : String :=
  let digits := (toString value).toList
  String.ofList (List.replicate (width - digits.length) '0' ++ digits)

end Curator.Text
