import LeadingComment.Pattern
import LeadingComment.Pattern.Mistake
import LeadingComment.Text.Blank

/-! Reading the text of a pattern from left to right. A mistake in its form ends the reading; a part
that is well formed and yet cannot be looked for is only remembered, as the form of what follows
counts before it. -/
namespace LeadingComment.Pattern

/-- What a pattern may switch on and off as it goes along. -/
structure Flags where
  anyCase : Bool := false
  /-- Whether `^` and `$` stand for the ends of lines. -/
  manyLines : Bool := false
  dotTakesNewline : Bool := false
  swapsGreed : Bool := false
  /-- Whether characters are matched, and not single bytes. -/
  beyondAscii : Bool := true
  carriageReturns : Bool := false
  skipsBlanks : Bool := false
deriving DecidableEq, Repr

structure Cursor where
  position : Nat := 0
  rest : List Char
  flags : Flags := {}
  /-- The names of groups so far, with the places where they stand. -/
  names : List (List Char × Span) := []
  /-- How many groups have begun that are numbered. -/
  numbered : Nat := 0
  /-- The first part that cannot be looked for. -/
  refused : Option Mistake := none
deriving DecidableEq, Repr

abbrev Reader := StateT Cursor (Except Mistake)

/-- How long the white space and the comments are that a text begins with. -/
def idleLength (inComment : Bool) : List Char → Nat
  | [] => 0
  | char :: chars =>
    if inComment then idleLength (char != '\n') chars + 1
    else if isBlank char then idleLength false chars + 1
    else if char = '#' then idleLength true chars + 1
    else 0

/-- For each depth, from the outermost on, the first part of a pattern that stands so deep. -/
abbrev Nesting := List Span

def Nesting.beside (left right : Nesting) : Nesting :=
  if right.length ≤ left.length then left else left ++ right.drop left.length

def Nesting.within (span : Span) (nesting : Nesting) : Nesting := span :: nesting.take depthLimit

/-- What holds a part that stands too deep is refused in the end, so that nothing else of it needs to
be kept. -/
def Nesting.isTooDeep (nesting : Nesting) : Bool := depthLimit < nesting.length

namespace Reader

def rest : Reader (List Char) := return (← get).rest

def position : Reader Nat := return (← get).position

def flags : Reader Flags := return (← get).flags

def setFlags (flags : Flags) : Reader Unit := modify fun cursor => { cursor with flags }

def advance (count : Nat) : Reader Unit := modify fun cursor =>
  { cursor with
    position := cursor.position + (cursor.rest.take count).length
    rest := cursor.rest.drop count }

def skipIdle : Reader Unit := do
  if (← flags).skipsBlanks then advance (idleLength false (← rest))

/-- Passes over one character and what does not count behind it. -/
def step : Reader Unit := do
  advance 1
  skipIdle

def takeIf (expected : String) : Reader Bool := do
  if expected.toList.isPrefixOf (← rest) then
    advance expected.length
    return true
  else return false

def takeAny : List String → Reader Bool
  | [] => return false
  | expected :: others => do
    if ← takeIf expected then return true else takeAny others

def here : Reader Span := return ⟨← position, ← position⟩

def onNext : Reader Span := return ⟨← position, (← position) + 1⟩

def since (start : Nat) : Reader Span := return ⟨start, ← position⟩

def fail {Value : Type} (kind : MistakeKind) (span : Span) : Reader Value := throw { kind, span }

/-- Remembers what cannot be looked for, unless something before it has been. -/
def refuse (kind : MistakeKind) (span : Span) : Reader Unit := modify fun cursor =>
  { cursor with refused := cursor.refused <|> some { kind, span } }

/-- Reads characters as long as they are wanted, no more than there are in `bound`. -/
def takeWithin (wanted : Char → Bool) : (bound : List Char) → Reader (List Char)
  | [] => return []
  | _ :: bound => do
    match ← rest with
    | char :: _ =>
      if wanted char then
        step
        return char :: (← takeWithin wanted bound)
      else return []
    | [] => return []

def takeWhile (wanted : Char → Bool) : Reader (List Char) := do takeWithin wanted (← rest)

/-! ### Sets of characters -/

/-- Completes a set: both cases are put in first, unless it is `closed` because all that is in it has
been completed before, and then it may be turned into its opposite. -/
def completeSet (set : CharSet) (closed negated : Bool) (span : Span) : Reader CharSet := do
  let flags ← flags
  if flags.beyondAscii && flags.anyCase && !closed && !set.isEmpty then refuse .noCaseTable span
  let set := if flags.anyCase then set.anyCase else set
  let set := if negated then set.outside else set
  if !flags.beyondAscii && !set.isAscii then refuse .notUtf8 span
  return set

end Reader
end LeadingComment.Pattern
