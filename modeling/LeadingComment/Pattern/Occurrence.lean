import LeadingComment.Pattern

/-! Whether a pattern occurs in a text. The places of a text are those before each character and the
one at its end; a set of them is a number, the bits of which are the places. Each pattern takes a set
of places where it may begin to the set of those where it may end; as the ends for two sets together
are those for each of them, no place has to be walked from twice. -/
namespace LeadingComment.Pattern

/-! ### Sets of places -/

/-- Joins neighbours, each a first place and a set of places that are counted from there. -/
def joinPairs : List (Nat × Nat) → List (Nat × Nat)
  | (first, low) :: (second, high) :: later =>
    (first, low ||| (high <<< (second - first))) :: joinPairs later
  | parts => parts

/-- Joins all parts; every turn leaves half of them, and there are no more than `bound`. -/
def joinParts : (bound : Nat) → List (Nat × Nat) → Nat
  | bound + 1, first :: second :: later => joinParts bound (joinPairs (first :: second :: later))
  | _, (start, places) :: _ => places <<< start
  | _, [] => 0

def placesOf (members : List Nat) : Nat :=
  joinParts members.length (members.map fun place => (place, 1))

/-! ### A text -/

def surroundingsOf (text : List Char) : List (Option Char × Option Char) :=
  (none :: text.map some).zip (text.map some ++ [none])

/-- Where a text fulfils what patterns require. -/
structure Chart where
  length : Nat
  /-- Each of its characters with the places before it. -/
  chars : List (Char × Nat)
  /-- Each requirement with the places that fulfil it. -/
  looks : List (Look × Nat)
deriving DecidableEq, Repr

namespace Chart

def requirements : List Look :=
  let edges : List WordEdge := [.boundary, .inside, .start, .stop, .startHalf, .stopHalf]
  [.textStart, .textEnd, .lineStart false, .lineStart true, .lineEnd false, .lineEnd true]
    ++ edges.map (Look.word · false) ++ edges.map (Look.word · true)

def addPlace (char : Char) (place : Nat) : List (Char × List Nat) → List (Char × List Nat)
  | [] => [(char, [place])]
  | (other, places) :: later =>
    if other = char then (other, place :: places) :: later
    else (other, places) :: addPlace char place later

def ofText (text : List Char) : Chart where
  length := text.length
  chars :=
    let places := text.zipIdx.foldr (fun (char, place) found => addPlace char place found) []
    places.map fun (char, places) => (char, placesOf places)
  looks :=
    let surroundings := (surroundingsOf text).zipIdx
    requirements.map fun look =>
      (look, placesOf (surroundings.filterMap fun ((before, after), place) =>
        if look.holds before after then some place else none))

def all (chart : Chart) : Nat := (1 <<< (chart.length + 1)) - 1

def char (chart : Chart) (char : Char) : Nat := (chart.chars.lookup char).getD 0

def set (chart : Chart) (set : CharSet) : Nat :=
  chart.chars.foldl (fun places (char, more) =>
    if set.contains char then places ||| more else places) 0

def look (chart : Chart) (look : Look) : Nat := (chart.looks.lookup look).getD 0

end Chart

/-! ### Walking -/

/-- What is remembered of earlier walks of a pattern: the places at which turns of its repetitions
without a limit have begun, each of which leads to nothing new when it is come to again. -/
inductive Trail where
  | fresh
  | both (first second : Trail)
  /-- Turns that are required and turns that may be left out, and all turns of a repetition without a
  limit. -/
  | turns (required optional : List Trail) (begun : Nat) (endless : Trail)

namespace Trail

def isFresh : Trail → Bool
  | fresh => true
  | _ => false

def halves : Trail → Trail × Trail
  | both first second => (first, second)
  | _ => (fresh, fresh)

def join (first second : Trail) : Trail :=
  if first.isFresh && second.isFresh then fresh else both first second

def before (turn : Trail) (later : List Trail) : List Trail :=
  if turn.isFresh && later.isEmpty then [] else turn :: later

end Trail

/-- A walk goes from a set of places to those behind a match, except for those it has come to earlier. -/
abbrev Move := Trail → Nat → Nat × Trail

/-- Required turns; once they make no difference, the others do not either. -/
def require (move : Move) : (count : Nat) → (places : Nat) → List Trail → Nat × List Trail
  | 0, places, trails => (places, trails)
  | count + 1, places, trails =>
    let (next, trail) := move (trails.headD .fresh) places
    if next = places then (places, trail.before trails.tail)
    else
      let (last, later) := require move count next trails.tail
      (last, trail.before later)

/-- All places that are reached within a number of turns from the `last` ones of those so far. -/
def allow (move : Move) : (count : Nat) → (places last : Nat) → List Trail → Nat × List Trail
  | 0, places, _, trails => (places, trails)
  | count + 1, places, last, trails =>
    let (next, trail) := move (trails.headD .fresh) last
    let all := places ||| next
    if all = places then (places, trail.before trails.tail)
    else
      let (reached, later) := allow move count all next trails.tail
      (reached, trail.before later)

def without (places others : Nat) : Nat := places ^^^ (places &&& others)

/-- Any number of turns from places at which none has begun. Every turn begins at new places, of which
there are fewer than `bound`. -/
def exhaust (move : Move) : (bound : Nat) → (places last begun : Nat) → Trail → Nat × Nat × Trail
  | 0, places, _, begun, trail => (places, begun, trail)
  | bound + 1, places, last, begun, trail =>
    if last = 0 then (places, begun, trail)
    else
      let (next, trail) := move trail last
      let begun := begun ||| last
      let new := without next begun
      exhaust move bound (places ||| new) new begun trail

/-- Where matches end that begin at one of the places, save for ends that an earlier walk has told. -/
def walk (chart : Chart) : Pattern → Move
  | empty, trail, places => (places, trail)
  | literal chars, trail, places =>
    (chars.foldl (fun places char => (places &&& chart.char char) <<< 1) places, trail)
  | one set _, trail, places => ((places &&& chart.set set) <<< 1, trail)
  | look place, trail, places => (places &&& chart.look place, trail)
  | seq first second, trail, places =>
    let (firstTrail, secondTrail) := trail.halves
    let (middle, firstTrail) := walk chart first firstTrail places
    if middle = 0 then (0, firstTrail.join secondTrail)
    else
      let (reached, secondTrail) := walk chart second secondTrail middle
      (reached, firstTrail.join secondTrail)
  | alt left right, trail, places =>
    let (leftTrail, rightTrail) := trail.halves
    let (fromLeft, leftTrail) := walk chart left leftTrail places
    let (fromRight, rightTrail) := walk chart right rightTrail places
    (fromLeft ||| fromRight, leftTrail.join rightTrail)
  | group _ pattern, trail, places => walk chart pattern trail places
  | times pattern least most _, trail, places =>
    let (required, optional, begun, endless) :=
      match trail with
      | .turns required optional begun endless => (required, optional, begun, endless)
      | _ => ([], [], 0, .fresh)
    let (first, required) := require (walk chart pattern) least places required
    match most with
    | some most =>
      let (reached, optional) := allow (walk chart pattern) (most - least) first first optional
      (reached, if required.isEmpty && optional.isEmpty then .fresh
        else .turns required optional begun endless)
    | none =>
      let new := without first begun
      let (reached, begun, endless) :=
        exhaust (walk chart pattern) (chart.length + 2) new new begun endless
      (reached, .turns required optional begun endless)

def occursIn (pattern : Pattern) (text : List Char) : Bool :=
  let chart := Chart.ofText text
  (pattern.walk chart .fresh chart.all).1 != 0

end LeadingComment.Pattern
