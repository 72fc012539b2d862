import Curator.Pattern.Basic
import Curator.Value.Literal
/-!
# Reading patterns

The notation of regular expressions, with the fault and its position when a text is not one.
-/

set_option autoImplicit false

namespace Curator.Pattern

/-- What is wrong with the text of a pattern. -/
inductive Fault where
  | unterminatedGroup
  | unterminatedComment
  | unbalancedParenthesis
  | unterminatedSet
  | badRange (first last : String)
  | nothingToRepeat
  | multipleRepeat
  | emptyRepeatRange
  | badEscape (escape : String)
  | danglingEscape
  | unknownExtension (mark : String)
  | unexpectedEnd
  | missingGroupName
  | unterminatedName
  | badGroupName (name : String)
  | duplicateGroupName (name : String) (group earlier : Nat)
  | unknownGroupName (name : String)
  | invalidReference (group : Nat)
  | openReference
  | missingFlagEnd
  | missingFlag
  | missingColon
  | unknownFlag
  | contraryFlags
  | lateFlags
  | variableLookBehind
  | incompleteEscape (escape : String)
  deriving DecidableEq, Repr

def Fault.reason : Fault → String
  | .unterminatedGroup => "missing ), unterminated subpattern"
  | .unterminatedComment => "missing ), unterminated comment"
  | .unbalancedParenthesis => "unbalanced parenthesis"
  | .unterminatedSet => "unterminated character set"
  | .badRange first last => s!"bad character range {first}-{last}"
  | .nothingToRepeat => "nothing to repeat"
  | .multipleRepeat => "multiple repeat"
  | .emptyRepeatRange => "min repeat greater than max repeat"
  | .badEscape escape => s!"bad escape {escape}"
  | .danglingEscape => "bad escape (end of pattern)"
  | .unknownExtension mark => s!"unknown extension {mark}"
  | .unexpectedEnd => "unexpected end of pattern"
  | .missingGroupName => "missing group name"
  | .unterminatedName => "missing >, unterminated name"
  | .badGroupName name => s!"bad character in group name {Value.stringLiteral name}"
  | .duplicateGroupName name group earlier =>
    s!"redefinition of group name {Value.stringLiteral name} as group {group}; was group {earlier}"
  | .unknownGroupName name => s!"unknown group name {Value.stringLiteral name}"
  | .invalidReference group => s!"invalid group reference {group}"
  | .openReference => "cannot refer to an open group"
  | .missingFlagEnd => "missing -, : or )"
  | .missingFlag => "missing flag"
  | .missingColon => "missing :"
  | .unknownFlag => "unknown flag"
  | .contraryFlags => "bad inline flags: flag turned on and off"
  | .lateFlags => "global flags not at the start of the expression"
  | .variableLookBehind => "look-behind requires fixed-width pattern"
  | .incompleteEscape escape => s!"incomplete escape {escape}"

/-- A fault and where in the text it is. -/
structure FaultAt where
  fault : Fault
  position : Nat
  deriving DecidableEq, Repr

def FaultAt.text (f : FaultAt) : String :=
  if f.fault = .variableLookBehind then f.fault.reason
  else s!"{f.fault.reason} at position {f.position}"

/-- The reader's place: the text that is left, how much was read, the groups opened and named so
far, those still open, the options set, and whether options for the whole may still be set. -/
structure Cursor where
  rest : List Char
  position : Nat
  groups : Nat
  names : List (String × Nat)
  openGroups : List Nat
  options : PatternOptions
  leading : Bool
  deriving Repr

namespace Cursor

def advance (c : Cursor) (count : Nat) : Cursor :=
  { c with rest := c.rest.drop count, position := c.position + count }

def fail {α : Type} (position : Nat) (fault : Fault) : Except FaultAt α :=
  .error ⟨fault, position⟩

end Cursor

/-- The text that is read as one: an escape with its letter, or one character. -/
def tokenText : List Char → String
  | '\\' :: letter :: _ => String.ofList ['\\', letter]
  | letter :: _ => String.ofList [letter]
  | [] => ""

def literalSet (c : Char) : SetItem := .range c c

def classEscape? : Char → Option SetItem
  | 'd' => some .digit
  | 'D' => some .notDigit
  | 's' => some .blank
  | 'S' => some .notBlank
  | 'w' => some .word
  | 'W' => some .notWord
  | _ => none

def controlEscape? : Char → Option Char
  | 'a' => some (Char.ofNat 7)
  | 'f' => some (Char.ofNat 12)
  | 'n' => some '\n'
  | 'r' => some '\r'
  | 't' => some '\t'
  | 'v' => some (Char.ofNat 11)
  | _ => none

def hexNumber? (digits : List Char) : Option Nat :=
  digits.foldlM (fun n c => (Text.hexValue? c).map (n * 16 + ·)) 0

/-- A character written by a fixed number of hexadecimal digits, the cursor being at the backslash. -/
def readHexEscape (c : Cursor) (width : Nat) : Except FaultAt (Char × Cursor) :=
  let letter := c.rest.drop 1 |>.take 1
  let digits := ((c.rest.drop 2).take width).takeWhile fun d => (Text.hexValue? d).isSome
  match hexNumber? digits with
  | some n =>
    if digits.length = width then .ok (Char.ofNat n, c.advance (2 + width))
    else Cursor.fail c.position (.incompleteEscape (String.ofList ('\\' :: letter ++ digits)))
  | none => Cursor.fail c.position (.incompleteEscape (String.ofList ('\\' :: letter)))

def isOctal (c : Char) : Bool := '0' ≤ c && c ≤ '7'

def octalNumber (digits : List Char) : Nat :=
  digits.foldl (fun n c => n * 8 + (c.toNat - 48)) 0

/-- An escape that stands for a character in sets and outside them alike, or a fault. -/
def readPlainEscape (c : Cursor) (letter : Char) : Except FaultAt (Char × Cursor) :=
  match controlEscape? letter with
  | some control => .ok (control, c.advance 2)
  | none =>
    if letter = 'x' then readHexEscape c 2
    else if letter = 'u' then readHexEscape c 4
    else if letter = 'U' then readHexEscape c 8
    else if letter.isAlpha then
      Cursor.fail c.position (.badEscape (String.ofList ['\\', letter]))
    else .ok (letter, c.advance 2)

/-- One member of a set, what a fault calls it, and the cursor after it. -/
def readSetMember (c : Cursor) : Except FaultAt (SetItem × String × Cursor) :=
  let name := tokenText c.rest
  match c.rest with
  | '\\' :: letter :: _ =>
    match classEscape? letter with
    | some item => .ok (item, name, c.advance 2)
    | none =>
      if letter = 'b' then .ok (literalSet (Char.ofNat 8), name, c.advance 2)
      else if isOctal letter then
        let digits := ((c.rest.drop 1).take 3).takeWhile isOctal
        .ok (literalSet (Char.ofNat (octalNumber digits)), name, c.advance (1 + digits.length))
      else if letter.isDigit then Cursor.fail c.position (.badEscape name)
      else do
        let (plain, after) ← readPlainEscape c letter
        pure (literalSet plain, name, after)
  | '\\' :: [] => Cursor.fail c.position .danglingEscape
  | letter :: _ => .ok (literalSet letter, name, c.advance 1)
  | [] => Cursor.fail c.position .unterminatedSet

/-- The members of a set up to its closing bracket; `start` is where the set was opened. -/
def readSetMembers (start : Nat) :
    Nat → List SetItem → Cursor → Except FaultAt (List SetItem × Cursor)
  | 0, _, _ => Cursor.fail start .unterminatedSet
  | fuel + 1, items, c =>
    match c.rest with
    | [] => Cursor.fail start .unterminatedSet
    | first :: _ =>
      if first = ']' ∧ !items.isEmpty then .ok (items, c.advance 1)
      else do
        let (low, lowName, after) ← readSetMember c
        match after.rest with
        | '-' :: [] => Cursor.fail start .unterminatedSet
        | '-' :: ']' :: _ => pure (items ++ [low, literalSet '-'], after.advance 2)
        | '-' :: _ :: _ => do
          let (high, highName, next) ← readSetMember (after.advance 1)
          let place := next.position - (lowName.length + 1 + highName.length)
          match low, high with
          | .range a a', .range b b' =>
            if a = a' ∧ b = b' ∧ a ≤ b then
              readSetMembers start fuel (items ++ [.range a b]) next
            else Cursor.fail place (.badRange lowName highName)
          | _, _ => Cursor.fail place (.badRange lowName highName)
        | _ => readSetMembers start fuel (items ++ [low]) after

/-- A set, the cursor being at its opening bracket. -/
def readSet (c : Cursor) : Except FaultAt (Pattern × Cursor) := do
  let start := c.position
  let inside := c.advance 1
  let negated := inside.rest.head? = some '^'
  let inside := if negated then inside.advance 1 else inside
  let (items, after) ← readSetMembers start (inside.rest.length + 1) [] inside
  pure (.set negated items, after)

/-- An escape outside sets, the cursor being at its backslash. -/
def readEscape (c : Cursor) : Except FaultAt (Pattern × Cursor) :=
  match c.rest.drop 1 with
  | [] => Cursor.fail c.position .danglingEscape
  | letter :: more =>
    match classEscape? letter with
    | some item => .ok (.set false [item], c.advance 2)
    | none =>
      match letter with
      | 'A' => .ok (.assertion .textStart, c.advance 2)
      | 'Z' => .ok (.assertion .textEnd, c.advance 2)
      | 'b' => .ok (.assertion .wordEdge, c.advance 2)
      | 'B' => .ok (.assertion .notWordEdge, c.advance 2)
      | '0' =>
        let digits := (more.take 2).takeWhile isOctal
        .ok (.char (Char.ofNat (octalNumber digits)), c.advance (2 + digits.length))
      | _ =>
        if letter.isDigit then
          let digits := letter :: (more.take 1).takeWhile Char.isDigit
          let group := digits.foldl (fun (n : Nat) (d : Char) => n * 10 + (d.toNat - 48)) 0
          if c.groups < group then Cursor.fail (c.position + 1) (.invalidReference group)
          else if c.openGroups.contains group then Cursor.fail c.position .openReference
          else .ok (.reference group, c.advance (1 + digits.length))
        else do
          let (plain, after) ← readPlainEscape c letter
          pure (.char plain, after)

/-- The bounds a repetition asks for, the cursor being at its first character.  None when a brace
does not begin a repetition. -/
def readBounds? (c : Cursor) : Except FaultAt (Option (Nat × Option Nat × Cursor)) :=
  match c.rest with
  | '*' :: _ => .ok (some (0, none, c.advance 1))
  | '+' :: _ => .ok (some (1, none, c.advance 1))
  | '?' :: _ => .ok (some (0, some 1, c.advance 1))
  | '\x7b' :: rest =>
    let number := fun (digits : List Char) =>
      digits.foldl (fun (n : Nat) (d : Char) => n * 10 + (d.toNat - 48)) 0
    if rest.head? = some '\x7d' then .ok none
    else
      let low := rest.takeWhile Char.isDigit
      let afterLow := rest.drop low.length
      let comma := afterLow.head? = some ','
      let high := if comma then (afterLow.drop 1).takeWhile Char.isDigit else low
      let afterHigh := if comma then afterLow.drop (1 + high.length) else afterLow
      if afterHigh.head? = some '\x7d' then
        let least := number low
        let most := if high.isEmpty then none else some (number high)
        let length := 2 + low.length + (if comma then 1 + high.length else 0)
        match most with
        | some m =>
          if m < least then Cursor.fail (c.position + 1) .emptyRepeatRange
          else .ok (some (least, most, c.advance length))
        | none => .ok (some (least, none, c.advance length))
      else .ok none
  | _ => .ok none

def isRepeated : Pattern → Bool
  | .repeated .. => true
  | _ => false

def isAssertion : Pattern → Bool
  | .assertion _ => true
  | _ => false

/-- The items of a sequence, in order, as one pattern. -/
def ofItems (items : List Pattern) : Pattern :=
  items.foldr .sequence .nothing

def optionsOf? : Char → Option PatternOptions
  | 'i' => some ⟨true, false, false⟩
  | 'm' => some ⟨false, true, false⟩
  | 's' => some ⟨false, false, true⟩
  | 'u' => some .none
  | _ => none

/-- The options named by letters up to one of some marks, with the mark, the cursor being at a
letter; `missing` is the fault of anything else. -/
def readOptions (marks : List Char) (missing : Fault) :
    List Char → PatternOptions → Cursor → Except FaultAt (PatternOptions × Char × Cursor)
  | [], _, c => Cursor.fail c.position missing
  | letter :: rest, options, c =>
    match optionsOf? letter with
    | some more =>
      let options := options.change more .none
      match rest with
      | mark :: _ =>
        if marks.contains mark then .ok (options, mark, c.advance 2)
        else readOptions marks missing rest options (c.advance 1)
      | [] => Cursor.fail (c.position + 1) missing
    | none => Cursor.fail c.position (if letter.isAlpha then .unknownFlag else missing)

/-- The options that a group turns on and off, with the mark after them: a parenthesis when they
are meant for the whole, and a colon when they are meant for what follows in the group. -/
def readOptionGroup (c : Cursor) : Except FaultAt (PatternOptions × PatternOptions × Char × Cursor) := do
  let (on, mark, after) ←
    if c.rest.head? = some '-' then pure (.none, '-', c.advance 1)
    else readOptions [')', '-', ':'] .missingFlagEnd c.rest .none c
  if mark = '-' then
    match after.rest with
    | [] => Cursor.fail after.position .missingFlag
    | letter :: _ =>
      if (optionsOf? letter).isNone && !letter.isAlpha then
        Cursor.fail after.position .missingFlag
      else
        let (off, mark, last) ← readOptions [':'] .missingColon after.rest .none after
        if on.overlap off then Cursor.fail (last.position - 1) .contraryFlags
        else pure (on, off, mark, last)
  else pure (on, .none, mark, after)

def isNameChar (c : Char) : Bool := Text.isWord c

/-- A group name up to its end mark, the cursor being behind the opening mark. -/
def readGroupName (c : Cursor) (endMark : Char) : Except FaultAt (String × Cursor) :=
  let name := c.rest.takeWhile (· != endMark)
  if name.length = c.rest.length then
    if name.isEmpty then Cursor.fail c.position .missingGroupName
    else Cursor.fail c.position .unterminatedName
  else if name.isEmpty then Cursor.fail c.position .missingGroupName
  else if name.all isNameChar && !((name.head?.map Text.isDigit).getD true) then
    .ok (String.ofList name, c.advance (name.length + 1))
  else Cursor.fail c.position (.badGroupName (String.ofList name))

mutual

/-- Alternatives up to a closing parenthesis or the end of the text. -/
def readChoice : Nat → Cursor → Except FaultAt (Pattern × Cursor)
  | 0, c => Cursor.fail c.position .unexpectedEnd
  | fuel + 1, c => do
    let (first, after) ← readSequence fuel [] c
    match after.rest with
    | '|' :: _ => do
      let (second, last) ← readChoice fuel { after.advance 1 with leading := false }
      pure (.choice first second, last)
    | _ => pure (first, after)

/-- The items of a sequence, those read so far in reverse. -/
def readSequence : Nat → List Pattern → Cursor → Except FaultAt (Pattern × Cursor)
  | 0, _, c => Cursor.fail c.position .unexpectedEnd
  | fuel + 1, items, c =>
    match c.rest with
    | [] => .ok (ofItems items.reverse, c)
    | ')' :: _ => .ok (ofItems items.reverse, c)
    | '|' :: _ => .ok (ofItems items.reverse, c)
    | '\\' :: _ => do
      let (item, after) ← readEscape c
      readSequence fuel (item :: items) after
    | '[' :: _ => do
      let (item, after) ← readSet c
      readSequence fuel (item :: items) after
    | '.' :: _ => readSequence fuel (.any :: items) (c.advance 1)
    | '^' :: _ => readSequence fuel (.assertion .lineStart :: items) (c.advance 1)
    | '$' :: _ => readSequence fuel (.assertion .lineEnd :: items) (c.advance 1)
    | '(' :: _ => do
      let (item?, after) ← readGroup fuel (c.leading && items.isEmpty) c
      match item? with
      | some item => readSequence fuel (item :: items) after
      | none => readSequence fuel items after
    | letter :: _ => do
      match ← readBounds? c with
      | none => readSequence fuel (.char letter :: items) (c.advance 1)
      | some (least, most, after) =>
        match items with
        | [] => Cursor.fail c.position .nothingToRepeat
        | item :: before =>
          if isAssertion item then Cursor.fail c.position .nothingToRepeat
          else if isRepeated item then Cursor.fail c.position .multipleRepeat
          else
            let after :=
              if after.rest.head? = some '?' ∨ after.rest.head? = some '+' then after.advance 1
              else after
            readSequence fuel (.repeated item least most :: before) after

/-- A group, the cursor being at its opening parenthesis; none for a group that only sets options,
which it may do only where `leading` allows it. -/
def readGroup : Nat → Bool → Cursor → Except FaultAt (Option Pattern × Cursor)
  | 0, _, c => Cursor.fail c.position .unexpectedEnd
  | fuel + 1, leading, c =>
    let start := c.position
    let close := fun (wrap : Pattern → Pattern) (inside : Cursor) => do
      let (body, after) ← readChoice fuel { inside with leading := false }
      match after.rest with
      | ')' :: _ => pure (some (wrap body), { after.advance 1 with leading := c.leading })
      | _ => Cursor.fail start .unterminatedGroup
    let closeCapture := fun (inside : Cursor) => do
      let group := inside.groups + 1
      let opened :=
        { inside with
          groups := group, openGroups := group :: inside.openGroups, leading := false }
      let (body, after) ← readChoice fuel opened
      match after.rest with
      | ')' :: _ =>
        pure (some (.capture group body),
          { after.advance 1 with
            openGroups := after.openGroups.filter (· != group), leading := c.leading })
      | _ => Cursor.fail start .unterminatedGroup
    match c.rest.drop 1 with
    | '?' :: [] => Cursor.fail (start + 2) .unexpectedEnd
    | '?' :: ':' :: _ => close id (c.advance 3)
    | '?' :: '>' :: _ => close id (c.advance 3)
    | '?' :: '=' :: _ => close (.lookAhead false) (c.advance 3)
    | '?' :: '!' :: _ => close (.lookAhead true) (c.advance 3)
    | '?' :: '<' :: '=' :: _ => close (.lookBehind false) (c.advance 4)
    | '?' :: '<' :: '!' :: _ => close (.lookBehind true) (c.advance 4)
    | '?' :: '<' :: [] => Cursor.fail (start + 3) .unexpectedEnd
    | '?' :: '<' :: rest =>
      Cursor.fail (start + 1) (.unknownExtension ("?<" ++ tokenText rest))
    | '?' :: 'P' :: '<' :: _ => do
      let inside := c.advance 4
      let (name, after) ← readGroupName inside '>'
      match after.names.lookup name with
      | some earlier =>
        Cursor.fail inside.position (.duplicateGroupName name (after.groups + 1) earlier)
      | none => closeCapture { after with names := (name, after.groups + 1) :: after.names }
    | '?' :: 'P' :: '=' :: _ => do
      let inside := c.advance 4
      let (name, after) ← readGroupName inside ')'
      match after.names.lookup name with
      | some group =>
        if after.openGroups.contains group then Cursor.fail inside.position .openReference
        else pure (some (.reference group), after)
      | none => Cursor.fail inside.position (.unknownGroupName name)
    | '?' :: 'P' :: [] => Cursor.fail (start + 3) .unexpectedEnd
    | '?' :: 'P' :: rest =>
      Cursor.fail (start + 1) (.unknownExtension ("?P" ++ tokenText rest))
    | '?' :: '#' :: _ =>
      let comment := (c.rest.drop 3).takeWhile (· != ')')
      if comment.length + 3 < c.rest.length then pure (none, c.advance (comment.length + 4))
      else Cursor.fail start .unterminatedComment
    | '?' :: letter :: more =>
      if (optionsOf? letter).isNone && letter != '-' then
        Cursor.fail (start + 1) (.unknownExtension ("?" ++ tokenText (letter :: more)))
      else do
        let (on, off, mark, after) ← readOptionGroup (c.advance 2)
        if mark = ')' then
          if leading then pure (none, { after with options := after.options.change on .none })
          else Cursor.fail start .lateFlags
        else close (.scoped on off) after
    | _ => closeCapture (c.advance 1)

end

/-- The expression a text denotes. -/
def read (text : String) : Except FaultAt Expression := do
  let chars := text.toList
  let start : Cursor := ⟨chars, 0, 0, [], [], .none, true⟩
  let (pattern, last) ← readChoice (4 * chars.length + 4) start
  match last.rest with
  | [] =>
    if pattern.looksBehindFixed then pure ⟨last.options, pattern⟩
    else Cursor.fail 0 .variableLookBehind
  | _ => Cursor.fail last.position .unbalancedParenthesis

end Curator.Pattern
