import Curator.Text.Basic
/-!
# Encodings of text

Text as bytes.  Bytes of unknown encoding are taken for UTF-8 unless a mark of byte order or zero
bytes at the beginning show one of the wider encodings.  In such bytes a surrogate that stands alone
reads as the replacement character.
-/

set_option autoImplicit false

namespace Curator.Text

def utf8Bytes (text : String) : List UInt8 :=
  text.toUTF8.toList

def ofUtf8? (data : List UInt8) : Option String :=
  String.fromUTF8? ⟨data.toArray⟩

/-- The sixteen-bit units of a text of bytes; none when a byte is left over. -/
def units16? (bigEndian : Bool) : List UInt8 → Option (List Nat)
  | [] => some []
  | [_] => none
  | a :: b :: rest => do
    let units ← units16? bigEndian rest
    pure ((if bigEndian then a.toNat * 256 + b.toNat else b.toNat * 256 + a.toNat) :: units)

/-- What is read in place of a surrogate that stands alone. -/
def replacementChar : Char := Char.ofNat 0xFFFD

def isSurrogate (unit : Nat) : Bool := 0xD800 ≤ unit && unit < 0xE000

def charsOfUnits16 : List Nat → List Char
  | [] => []
  | [unit] => [if isSurrogate unit then replacementChar else Char.ofNat unit]
  | unit :: low :: rest =>
    if unit < 0xDC00 ∧ isSurrogate unit ∧ 0xDC00 ≤ low ∧ isSurrogate low then
      Char.ofNat (0x10000 + (unit - 0xD800) * 0x400 + (low - 0xDC00)) :: charsOfUnits16 rest
    else
      (if isSurrogate unit then replacementChar else Char.ofNat unit) ::
        charsOfUnits16 (low :: rest)

/-- The characters of a text of bytes in units of thirty-two bits. -/
def chars32? (bigEndian : Bool) : List UInt8 → Option (List Char)
  | [] => some []
  | a :: b :: c :: d :: rest => do
    let n :=
      if bigEndian then ((a.toNat * 256 + b.toNat) * 256 + c.toNat) * 256 + d.toNat
      else ((d.toNat * 256 + c.toNat) * 256 + b.toNat) * 256 + a.toNat
    let chars ← chars32? bigEndian rest
    if isSurrogate n then pure (replacementChar :: chars)
    else if n.isValidChar then pure (Char.ofNat n :: chars)
    else none
  | _ => none

/-- The bytes with every surrogate written in three of them replaced. -/
def replaceSurrogates : List UInt8 → List UInt8
  | 0xED :: b :: c :: rest =>
    if 0xA0 ≤ b ∧ b < 0xC0 ∧ 0x80 ≤ c ∧ c < 0xC0 then
      0xEF :: 0xBF :: 0xBD :: replaceSurrogates rest
    else 0xED :: replaceSurrogates (b :: c :: rest)
  | a :: rest => a :: replaceSurrogates rest
  | [] => []

/-- The text of bytes in UTF-8 that may hold surrogates. -/
def ofWideUtf8? (data : List UInt8) : Option String :=
  ofUtf8? (replaceSurrogates data)

def ofUtf16? (bigEndian : Bool) (data : List UInt8) : Option String := do
  let units ← units16? bigEndian data
  pure (String.ofList (charsOfUnits16 units))

def ofUtf32? (bigEndian : Bool) (data : List UInt8) : Option String :=
  (chars32? bigEndian data).map String.ofList

/-- The text of bytes whose encoding shows in the bytes themselves. -/
def ofBytes? (data : List UInt8) : Option String :=
  match data with
  | 0x00 :: 0x00 :: 0xFE :: 0xFF :: rest => ofUtf32? true rest
  | 0xFF :: 0xFE :: 0x00 :: 0x00 :: rest => ofUtf32? false rest
  | 0xFE :: 0xFF :: rest => ofUtf16? true rest
  | 0xFF :: 0xFE :: rest => ofUtf16? false rest
  | 0xEF :: 0xBB :: 0xBF :: rest => ofWideUtf8? rest
  | a :: b :: c :: d :: _ =>
    if a = 0 then (if b = 0 then ofUtf32? true data else ofUtf16? true data)
    else if b = 0 then (if c = 0 ∧ d = 0 then ofUtf32? false data else ofUtf16? false data)
    else ofWideUtf8? data
  | [a, b] =>
    if a = 0 then ofUtf16? true data else if b = 0 then ofUtf16? false data else ofWideUtf8? data
  | _ => ofWideUtf8? data

/-!
## Base 64

Bytes as text of sixty-four characters and padding, and back.  The decoder takes only characters of
the alphabet with padding at the end.
-/

def base64Char (n : Nat) : Char :=
  if n < 26 then Char.ofNat (65 + n)
  else if n < 52 then Char.ofNat (97 + (n - 26))
  else if n < 62 then Char.ofNat (48 + (n - 52))
  else if n = 62 then '+'
  else '/'

def base64Value? (c : Char) : Option Nat :=
  if 'A' ≤ c ∧ c ≤ 'Z' then some (c.toNat - 65)
  else if 'a' ≤ c ∧ c ≤ 'z' then some (c.toNat - 97 + 26)
  else if '0' ≤ c ∧ c ≤ '9' then some (c.toNat - 48 + 52)
  else if c = '+' then some 62
  else if c = '/' then some 63
  else none

def encodeBase64 : List UInt8 → List Char
  | [] => []
  | [a] =>
    let n := a.toNat * 16
    [base64Char (n / 64), base64Char (n % 64), '=', '=']
  | [a, b] =>
    let n := (a.toNat * 256 + b.toNat) * 4
    [base64Char (n / 4096), base64Char (n / 64 % 64), base64Char (n % 64), '=']
  | a :: b :: c :: rest =>
    let n := (a.toNat * 256 + b.toNat) * 256 + c.toNat
    base64Char (n / 262144) :: base64Char (n / 4096 % 64) :: base64Char (n / 64 % 64) ::
      base64Char (n % 64) :: encodeBase64 rest

/-- Whether a text of padding may end the encoding after `place` characters of a group of four:
it fills the group, and after a full group any amount of it is passed over. -/
def endsGroup (place : Nat) (padding : List Char) : Bool :=
  padding.all (· == '=') && (place == 0 || (2 ≤ place && place + padding.length == 4))

/-- The bytes of the rest of an encoded text.  `place` counts the characters of the current group of
four, and `carry` holds the bits that do not fill a byte yet. -/
def decodeBase64From (place carry : Nat) : List Char → Option (List UInt8)
  | [] => if place = 0 then some [] else none
  | c :: rest =>
    if c = '=' then (if endsGroup place (c :: rest) then some [] else none)
    else
      match base64Value? c with
      | none => none
      | some v =>
        if place = 0 then decodeBase64From 1 v rest
        else if place = 1 then
          (decodeBase64From 2 (v % 16) rest).map (UInt8.ofNat (carry * 4 + v / 16) :: ·)
        else if place = 2 then
          (decodeBase64From 3 (v % 4) rest).map (UInt8.ofNat (carry * 16 + v / 4) :: ·)
        else (decodeBase64From 0 0 rest).map (UInt8.ofNat (carry * 64 + v) :: ·)

/-- The bytes an encoded text stands for; padding may not come first. -/
def decodeBase64 (text : List Char) : Option (List UInt8) :=
  if text.head? = some '=' then none else decodeBase64From 0 0 text

end Curator.Text
