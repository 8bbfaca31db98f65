import LeadingComment.Text.CharSet

/-! Regular expressions in a normal form: sequences and alternatives are not nested in themselves,
characters in a row are one text, and alternatives that are all single characters or all sets are one
set. -/
namespace LeadingComment

/-- A place with regard to words, of which only one half may be looked at. -/
inductive WordEdge where
  | boundary | inside | start | stop | startHalf | stopHalf
deriving DecidableEq, Repr

namespace WordEdge

def holds (edge : WordEdge) (before after : Bool) : Bool :=
  match edge with
  | boundary => before != after
  | inside => before == after
  | start => !before && after
  | stop => before && !after
  | startHalf => !before
  | stopHalf => !after

end WordEdge

/-- What a place between two characters can be required to be. -/
inductive Look where
  | textStart
  | textEnd
  /-- With `paired` a line ends at a carriage return as well, or at one and the newline after it. -/
  | lineStart (paired : Bool)
  | lineEnd (paired : Bool)
  /-- With `beyondAscii` a word may hold any letter there is, and otherwise those of ASCII. -/
  | word (edge : WordEdge) (beyondAscii : Bool)
deriving DecidableEq, Repr

namespace Look

def isWordChar (char : Option Char) : Bool := char.any CharSet.wordChars.contains

/-- Words are told by the characters of ASCII: a pattern that needs more is refused earlier. -/
def holds (before after : Option Char) : Look → Bool
  | textStart => before.isNone
  | textEnd => after.isNone
  | lineStart paired =>
    before.isNone || before == some '\n' || (paired && before == some '\r' && after != some '\n')
  | lineEnd paired =>
    after.isNone || (after == some '\n' && !(paired && before == some '\r'))
      || (paired && after == some '\r')
  | word edge _ => edge.holds (isWordChar before) (isWordChar after)

end Look

inductive Pattern where
  | empty
  /-- These characters in a row, of which there is at least one. -/
  | literal (chars : List Char)
  /-- One character of a set; `bytes` if the set was given as one of bytes. -/
  | one (set : CharSet) (bytes : Bool)
  | look (place : Look)
  | seq (first second : Pattern)
  | alt (left right : Pattern)
  /-- At least `least` times in a row, and no more often than `most` if that is given. Whether few
  turns are preferred makes no difference to whether there is a match. -/
  | times (pattern : Pattern) (least : Nat) (most : Option Nat) (few : Bool)
  | group (number : Nat) (pattern : Pattern)
deriving DecidableEq, Repr

namespace Pattern

/-! ### Sequences and alternatives -/

def parts : Pattern → List Pattern
  | empty => []
  | seq first second => first :: second.parts
  | pattern => [pattern]

def sequenceParts : Pattern → List Pattern
  | seq first second => first :: second.parts
  | _ => []

def alternatives : Pattern → List Pattern
  | alt left right => left :: right.alternatives
  | pattern => [pattern]

def nothing : Pattern := one .none true

def ofSet (set : CharSet) (bytes : Bool) : Pattern :=
  if set.isEmpty then nothing
  else
    match set.member? with
    | some char => literal [char]
    | none => one set bytes

def joinLiteral (pattern : Pattern) (later : List Pattern) : List Pattern :=
  match pattern, later with
  | literal chars, literal more :: later => literal (chars ++ more) :: later
  | pattern, later => pattern :: later

def sequence (patterns : List Pattern) : Pattern :=
  match ((patterns.flatMap parts).foldr joinLiteral []).reverse with
  | [] => empty
  | last :: earlier => earlier.foldl (fun later pattern => seq pattern later) last

def char? : Pattern → Option Char
  | literal [char] => some char
  | _ => none

def set? : Pattern → Option CharSet
  | one set _ => some set
  | _ => none

/-- What alternatives match together, if all of them are single characters or all are sets. -/
def commonSet? (patterns : List Pattern) : Option CharSet :=
  match patterns.mapM char? with
  | some chars => some (.unionOf (chars.map .single))
  | none => (patterns.mapM set?).map .unionOf

def sharedLength (left right : List Pattern) : Nat :=
  ((left.zip right).takeWhile fun (left, right) => left == right).length

def ofAlternatives (patterns : List Pattern) : Pattern :=
  match patterns.reverse with
  | [] => nothing
  | last :: earlier => earlier.foldl (fun later pattern => alt pattern later) last

def nodeCount : Pattern → Nat
  | seq first second => first.nodeCount + second.nodeCount + 1
  | alt left right => left.nodeCount + right.nodeCount + 1
  | times pattern _ _ _ => pattern.nodeCount + 1
  | group _ pattern => pattern.nodeCount + 1
  | _ => 1

/-- What all alternatives begin with comes before them; what is left of them then has fewer nodes,
of which there are less than `bound`. -/
def alternationFrom : (bound : Nat) → List Pattern → Pattern
  | 0, patterns => ofAlternatives patterns
  | bound + 1, patterns =>
    let patterns := patterns.flatMap alternatives
    match patterns with
    | [] | [_] => ofAlternatives patterns
    | first :: later =>
      match commonSet? patterns with
      | some set => ofSet set false
      | none =>
        let start := later.foldl (fun start pattern =>
          start.take (sharedLength start pattern.sequenceParts)) first.sequenceParts
        if start.isEmpty then ofAlternatives patterns
        else
          let rests := patterns.map fun pattern => sequence (pattern.parts.drop start.length)
          sequence (start ++ [alternationFrom bound rests])

def alternation (patterns : List Pattern) : Pattern :=
  alternationFrom (patterns.foldl (fun count pattern => count + pattern.nodeCount) 1) patterns

/-! ### Matches and their surroundings -/

def shortest : Pattern → Option Nat
  | empty | look _ => some 0
  | literal chars => some chars.length
  | one set _ => if set.isEmpty then none else some 1
  | seq first second => return (← first.shortest) + (← second.shortest)
  | alt left right => return min (← left.shortest) (← right.shortest)
  | times pattern least _ _ => return (← pattern.shortest) * least
  | group _ pattern => pattern.shortest

structure Extent where
  /-- Whether all matches are empty. -/
  widthless : Bool
  /-- Whether a match can only begin where the text does. -/
  startBound : Bool
  /-- Whether a match can only end where the text does. -/
  endBound : Bool
deriving DecidableEq, Repr

def extent : Pattern → Extent
  | empty => ⟨true, false, false⟩
  | literal _ | one _ _ => ⟨false, false, false⟩
  | look place => ⟨true, place == .textStart, place == .textEnd⟩
  | seq first second =>
    let first := first.extent
    let second := second.extent
    ⟨first.widthless && second.widthless, first.startBound || (first.widthless && second.startBound),
      second.endBound || (second.widthless && first.endBound)⟩
  | alt left right =>
    let left := left.extent
    let right := right.extent
    ⟨left.widthless && right.widthless, left.startBound && right.startBound,
      left.endBound && right.endBound⟩
  | times pattern least _ _ =>
    let extent := pattern.extent
    ⟨extent.widthless, 0 < least && extent.startBound, 0 < least && extent.endBound⟩
  | group _ pattern => pattern.extent

/-- What only matches nothing need not be repeated. -/
def repeated (pattern : Pattern) (least : Nat) (most : Option Nat) (few : Bool) : Pattern :=
  let (least, most) :=
    if pattern.extent.widthless then (min least 1, some (min (most.getD 1) 1)) else (least, most)
  if most = some 0 then empty
  else if least = 1 && most = some 1 then pattern
  else times pattern least most few

/-- Whether it asks for words beyond ASCII, for which there is no table. -/
def needsWordTable : Pattern → Bool
  | look (.word _ beyondAscii) => beyondAscii
  | seq first second => first.needsWordTable || second.needsWordTable
  | alt left right => left.needsWordTable || right.needsWordTable
  | times pattern _ _ _ => pattern.needsWordTable
  | group _ pattern => pattern.needsWordTable
  | _ => false

end Pattern
end LeadingComment
