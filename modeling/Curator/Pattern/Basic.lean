import Curator.Text.Casing
import Curator.Text.Classes
/-!
# Patterns

Regular expressions with captures, back references and assertions, and what they match.  A pattern
denotes a function from a place in the text to the places where a match from there can end, each
with the captures made on the way, so that searching needs no backtracking.
-/

set_option autoImplicit false

namespace Curator

/-- A member of a character set. -/
inductive SetItem where
  | range (first last : Char)
  | digit
  | notDigit
  | blank
  | notBlank
  | word
  | notWord
  deriving DecidableEq, Repr

/-- What a pattern can ask of a place without passing over a character. -/
inductive Assertion where
  | lineStart
  | lineEnd
  | textStart
  | textEnd
  | wordEdge
  | notWordEdge
  deriving DecidableEq, Repr

/-- What a pattern is matched under. -/
structure PatternOptions where
  ignoreCase : Bool
  multiline : Bool
  dotAll : Bool
  deriving DecidableEq, Repr, Inhabited

namespace PatternOptions

def none : PatternOptions := ⟨false, false, false⟩

/-- The options after some are turned on and some are turned off. -/
def change (options on off : PatternOptions) : PatternOptions where
  ignoreCase := (options.ignoreCase || on.ignoreCase) && !off.ignoreCase
  multiline := (options.multiline || on.multiline) && !off.multiline
  dotAll := (options.dotAll || on.dotAll) && !off.dotAll

/-- Whether two sets of options have one in common. -/
def overlap (a b : PatternOptions) : Bool :=
  (a.ignoreCase && b.ignoreCase) || (a.multiline && b.multiline) || (a.dotAll && b.dotAll)

end PatternOptions

inductive Pattern where
  | nothing
  | char (c : Char)
  | any
  | set (negated : Bool) (items : List SetItem)
  | assertion (a : Assertion)
  | sequence (first second : Pattern)
  | choice (first second : Pattern)
  | repeated (body : Pattern) (least : Nat) (most : Option Nat)
  | capture (group : Nat) (body : Pattern)
  | reference (group : Nat)
  | lookAhead (negated : Bool) (body : Pattern)
  | lookBehind (negated : Bool) (body : Pattern)
  | scoped (on off : PatternOptions) (body : Pattern)
  deriving Repr, Inhabited

namespace Pattern

/-- A place reached in the text, and the captures on the way to it, the latest first. -/
structure Place where
  position : Nat
  captures : List (Nat × Nat × Nat)
  deriving DecidableEq, Repr

def SetItem.holds (c : Char) : SetItem → Bool
  | .range first last => first ≤ c && c ≤ last
  | .digit => Text.isDigit c
  | .notDigit => !Text.isDigit c
  | .blank => Text.isBlank c
  | .notBlank => !Text.isBlank c
  | .word => Text.isWord c
  | .notWord => !Text.isWord c

def sameChar (options : PatternOptions) (a b : Char) : Bool :=
  a == b || (options.ignoreCase && (Text.caseVariants a).contains b)

/-- Without regard to case a range holds what differs in case from one of its characters, and a
class is asked about the small letter. -/
def setHolds (options : PatternOptions) (items : List SetItem) (c : Char) : Bool :=
  if options.ignoreCase then
    let variants := Text.caseVariants c
    items.any fun item =>
      match item with
      | .range _ _ => variants.any (SetItem.holds · item)
      | _ => SetItem.holds (Text.smallChar c) item
  else items.any (SetItem.holds c)

def wordAt (text : Array Char) (i : Nat) : Bool :=
  ((text[i]?).map Text.isWord).getD false

def assertionHolds (options : PatternOptions) (text : Array Char) (i : Nat) : Assertion → Bool
  | .textStart => i == 0
  | .lineStart => i == 0 || (options.multiline && text[i - 1]? == some '\n')
  | .textEnd => i == text.size
  | .lineEnd =>
    i == text.size || (i + 1 == text.size && text[i]? == some '\n') ||
      (options.multiline && text[i]? == some '\n')
  | .wordEdge => (0 < i && wordAt text (i - 1)) != wordAt text i
  | .notWordEdge => text.size != 0 && (0 < i && wordAt text (i - 1)) == wordAt text i

/-- The least and the greatest number of characters a match passes over; no greatest when nothing
bounds it. -/
def width : Pattern → Nat × Option Nat
  | .nothing => (0, some 0)
  | .char _ => (1, some 1)
  | .any => (1, some 1)
  | .set _ _ => (1, some 1)
  | .assertion _ => (0, some 0)
  | .sequence first second =>
    let (a, a') := first.width
    let (b, b') := second.width
    (a + b, do pure ((← a') + (← b')))
  | .choice first second =>
    let (a, a') := first.width
    let (b, b') := second.width
    (min a b, do pure (max (← a') (← b')))
  | .repeated body least most =>
    let (a, a') := body.width
    (a * least, do pure ((← a') * (← most)))
  | .capture _ body => body.width
  | .reference _ => (0, none)
  | .lookAhead _ _ => (0, some 0)
  | .lookBehind _ _ => (0, some 0)
  | .scoped _ _ body => body.width

/-- Whether all matches pass over the same number of characters. -/
def isFixedWidth (p : Pattern) : Bool :=
  p.width.2 == some p.width.1

/-- Whether every look behind has a fixed width, so that it says where to begin. -/
def looksBehindFixed : Pattern → Bool
  | .sequence first second => first.looksBehindFixed && second.looksBehindFixed
  | .choice first second => first.looksBehindFixed && second.looksBehindFixed
  | .repeated body _ _ => body.looksBehindFixed
  | .capture _ body => body.looksBehindFixed
  | .lookAhead _ body => body.looksBehindFixed
  | .lookBehind _ body => body.isFixedWidth && body.looksBehindFixed
  | .scoped _ _ body => body.looksBehindFixed
  | _ => true

/-- The places reached from some places by exactly `count` steps. -/
def afterSteps (step : Place → List Place) : Nat → List Place → List Place
  | 0, places => places
  | count + 1, places => afterSteps step count (places.flatMap step).eraseDups

/-- The places reached from `frontier` by at most `rounds` steps, together with those seen before. -/
def reached (step : Place → List Place) : Nat → List Place → List Place → List Place
  | 0, _, seen => seen
  | rounds + 1, frontier, seen =>
    let fresh := ((frontier.flatMap step).eraseDups).filter fun place => !seen.contains place
    if fresh.isEmpty then seen else reached step rounds fresh (seen ++ fresh)

def passing (text : Array Char) (test : Char → Bool) (place : Place) : List Place :=
  match text[place.position]? with
  | some c => if test c then [{ place with position := place.position + 1 }] else []
  | none => []

/-- The place itself with the captures made on the way to others, or without them when none is to be
reached. -/
def staying (negated : Bool) (place : Place) (found : List Place) : List Place :=
  if negated then (if found.isEmpty then [place] else [])
  else (found.map fun other => { place with captures := other.captures }).eraseDups

/-- Where matches of a pattern from a place can end. -/
def ends (text : Array Char) : Pattern → PatternOptions → Place → List Place
  | .nothing, _, place => [place]
  | .char c, options, place => passing text (sameChar options c) place
  | .any, options, place => passing text (fun c => options.dotAll || c != '\n') place
  | .set negated items, options, place =>
    passing text (fun c => setHolds options items c != negated) place
  | .assertion a, options, place =>
    if assertionHolds options text place.position a then [place] else []
  | .sequence first second, options, place =>
    ((ends text first options place).flatMap fun place => ends text second options place).eraseDups
  | .choice first second, options, place =>
    (ends text first options place ++ ends text second options place).eraseDups
  | .repeated body least most, options, place =>
    let step := fun place => ends text body options place
    let start := afterSteps step least [place]
    let rounds :=
      match most with
      | some most => min (most - least) (text.size + 1)
      | none => text.size + 1
    reached step rounds start start
  | .capture group body, options, place =>
    (ends text body options place).map fun stop =>
      { stop with captures := (group, place.position, stop.position) :: stop.captures }
  | .reference group, options, place =>
    match place.captures.find? (·.1 == group) with
    | some (_, start, stop) =>
      let length := stop - start
      let agrees := (List.range length).all fun i =>
        match text[start + i]?, text[place.position + i]? with
        | some a, some b => sameChar options a b
        | _, _ => false
      if agrees then [{ place with position := place.position + length }] else []
    | none => []
  | .lookAhead negated body, options, place =>
    staying negated place (ends text body options place)
  | .lookBehind negated body, options, place =>
    let width := body.width.1
    let found :=
      if width ≤ place.position then
        (ends text body options { place with position := place.position - width }).filter
          (·.position == place.position)
      else []
    staying negated place found
  | .scoped on off body, options, place => ends text body (options.change on off) place

end Pattern

/-- A pattern with the options it is matched under. -/
structure Expression where
  options : PatternOptions
  pattern : Pattern
  deriving Repr, Inhabited

/-- Whether the pattern matches anywhere in a text. -/
def Expression.occursIn (e : Expression) (text : String) : Bool :=
  let chars := text.toList.toArray
  (List.range (chars.size + 1)).any fun start =>
    !(e.pattern.ends chars e.options ⟨start, []⟩).isEmpty

end Curator
