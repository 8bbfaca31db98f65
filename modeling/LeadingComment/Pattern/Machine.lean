import LeadingComment.Pattern
import LeadingComment.Text.Utf8.Ranges
import Std.Data.HashMap

/-! How large a machine for a pattern is. The machine reads bytes; each of its states takes the same
room, and more for each edge or choice that leads on from it. There are two machines for a pattern:
one that reads the text forwards and notes where groups begin and end, and one that reads backwards
and does not. -/
namespace LeadingComment.Pattern.Machine

/-- The states so far, which are numbered in this order, and the room that they take beside their
own. -/
structure Size where
  states : Nat := 0
  extra : Nat := 0
deriving DecidableEq, Repr

def stateRoom : Nat := 32

def edgeRoom : Nat := 8

def choiceRoom : Nat := 4

def roomLimit : Nat := 10485760

def Size.room (size : Size) : Nat := size.states * stateRoom + size.extra

def Size.check (size : Size) : Option Size := if roomLimit < size.room then none else some size

def Size.add (size more : Size) : Size := ⟨size.states + more.states, size.extra + more.extra⟩

def Size.scale (count : Nat) (size : Size) : Size := ⟨count * size.states, count * size.extra⟩

def Size.of (states choices edges : Nat) : Size := ⟨states, choices * choiceRoom + edges * edgeRoom⟩

/-! ### Sets of characters beyond ASCII -/

def piecesOf (set : CharSet) : List (List (Nat × Nat)) :=
  set.ranges.flatMap fun (low, high) =>
    Utf8.pieces (CharSet.codeOfRank low) (CharSet.codeOfRank high)

/-- States that may serve again, by their slots: of two with one slot the later one is kept. -/
abbrev Known := Std.HashMap Nat (List Nat × Nat)

def mix (hash : UInt64) (value : Nat) : UInt64 := (hash ^^^ UInt64.ofNat value) * 1099511628211

def slotOf (slots : Nat) (key : List Nat) : Nat :=
  (key.foldl mix 14695981039346656037).toNat % slots

def Known.find? (known : Known) (slots : Nat) (key : List Nat) : Option Nat :=
  match known[slotOf slots key]? with
  | some (held, state) => if held = key then some state else none
  | none => none

def Known.keep (known : Known) (slots : Nat) (key : List Nat) (state : Nat) : Known :=
  known.insert (slotOf slots key) (key, state)

/-- A state under construction: its edges, each a range of bytes with the state it leads to, the last
one first; and a range that does not lead anywhere yet. -/
structure Node where
  edges : List (Nat × Nat × Nat) := []
  pending : Option (Nat × Nat) := none

def Node.lead (node : Node) (target : Nat) : Node :=
  match node.pending with
  | some (low, high) => { edges := (low, high, target) :: node.edges }
  | none => node

/-- The way that was taken last, the state at its end first. -/
structure Draft where
  size : Size
  known : Known := ∅
  way : List Node := [{}]

def forwardSlots : Nat := 10000

/-- Completes a state, unless there is one with the same edges. -/
def Draft.complete (draft : Draft) (edges : List (Nat × Nat × Nat)) : Nat × Draft :=
  let key := edges.reverse.flatMap fun (low, high, target) => [low, high, target]
  match draft.known.find? forwardSlots key with
  | some state => (state, draft)
  | none =>
    let state := draft.size.states
    let size : Size := ⟨state + 1, draft.size.extra + edges.length * edgeRoom⟩
    (state, { draft with size, known := draft.known.keep forwardSlots key state })

/-- Completes the states behind the first `kept + 1` of the way, the last of which leads to
`target`. -/
def Draft.completeBehind (target kept : Nat) (draft : Draft) : List Node → Draft
  | [] => draft
  | node :: way =>
    if kept < way.length then
      let (state, draft) := draft.complete (node.lead target).edges
      Draft.completeBehind state kept draft way
    else { draft with way := node.lead target :: way }

/-- Adds a piece, which has the start of its way in common with the piece before. -/
def Draft.addPiece (target : Nat) (draft : Draft) (piece : List (Nat × Nat)) : Draft :=
  let shared := ((piece.zip draft.way.reverse).takeWhile fun (range, node) =>
    node.pending == some range).length
  let draft := Draft.completeBehind target shared draft draft.way
  match piece.drop shared, draft.way with
  | range :: ranges, node :: way =>
    let inner := ranges.map fun range => { pending := some range : Node }
    { draft with way := inner.reverse ++ { node with pending := some range } :: way }
  | _, _ => draft

/-- Ways that end alike share their ends. -/
def growForwards (pieces : List (List (Nat × Nat))) (size : Size) : Size :=
  let target := size.states
  let draft : Draft := { size := { size with states := size.states + 1 } }
  let draft := pieces.foldl (Draft.addPiece target) draft
  let draft := Draft.completeBehind target 0 draft draft.way
  let edges := (draft.way.head?.map Node.edges).getD []
  (draft.complete edges).2.size

def backwardSlots : Nat := 1000

/-- One byte of a piece, from the state that it leads to when the text is read forwards. -/
def stepBack (state : Nat × Size × Known) (range : Nat × Nat) : Nat × Size × Known :=
  let (target, size, known) := state
  let key := [target, range.1, range.2]
  match known.find? backwardSlots key with
  | some state => (state, size, known)
  | none =>
    (size.states, { size with states := size.states + 1 },
      known.keep backwardSlots key size.states)

/-- Each piece is a choice, and pieces that begin alike share their beginnings. -/
def growBackwards (pieces : List (List (Nat × Nat))) (size : Size) : Size :=
  let target := size.states + 1
  let (size, _) := pieces.foldl (fun (size, known) piece =>
    let (_, size, known) := piece.foldl stepBack (target, size, known)
    ({ size with extra := size.extra + choiceRoom }, known))
    ({ size with states := size.states + 2 }, (∅ : Known))
  size

/-! ### Alternatives that are texts -/

/-- The texts that go on from one place, in parts: where a text ends there, a part ends too, unless
nothing goes on before. Within a part, texts that begin alike are together. -/
def addText (parts : List (List (UInt8 × List Bytes))) (text : Bytes) :
    List (List (UInt8 × List Bytes)) :=
  match text, parts with
  | [], parts => if parts.all List.isEmpty && 1 < parts.length then parts else [] :: parts
  | byte :: rest, part :: earlier =>
    let part :=
      if part.any fun branch => branch.1 == byte then
        part.map fun branch => if branch.1 == byte then (byte, rest :: branch.2) else branch
      else (byte, [rest]) :: part
    part :: earlier
  | byte :: rest, [] => [[(byte, [rest])]]

/-- A state for each part that has texts, a choice between the parts and the end after each part but
the last, and all that follows; texts that end right away need nothing. No text is longer than
`depth`. -/
def sizeOfTexts : (depth : Nat) → List Bytes → Size
  | 0, _ => {}
  | depth + 1, texts =>
    let parts := texts.foldl addText [[]]
    let full := parts.filter fun part => !part.isEmpty
    if full.isEmpty then {}
    else
      let edges := (full.filter fun part => 1 < part.length).flatten.length
      full.flatten.foldl (fun size branch => size.add (sizeOfTexts depth branch.2.reverse))
        (Size.of (full.length + 1) (full.length + (parts.length - 1)) edges)

def textOf? : Pattern → Option Bytes
  | literal chars => some (Utf8.encode chars)
  | _ => none

/-! ### The whole -/

/-- What a machine is made of. The states of a set beyond ASCII are found again by their numbers, so
that its size depends on what was made before; all else takes the same room everywhere. -/
inductive Plan where
  | fixed (size : Size)
  | set (pieces : List (List (Nat × Nat)))
  | seq (first second : Plan)
  | turns (count : Nat) (plan : Plan)
deriving DecidableEq, Repr

namespace Plan

def none : Plan := fixed {}

def states (count : Nat) : Plan := fixed (Size.of count 0 0)

def beside : Plan → Plan → Plan
  | fixed first, fixed second => fixed (first.add second)
  | first, second => seq first second

def inOrder (plans : List Plan) : Plan := plans.foldl beside none

def repeated (count : Nat) : Plan → Plan
  | fixed size => fixed (size.scale count)
  | plan => turns count plan

/-- A number of turns, until the machine is too large. -/
def repeatedly (grow : Size → Option Size) : Nat → Size → Option Size
  | 0, size => some size
  | count + 1, size =>
    match grow size with
    | .none => .none
    | some size => repeatedly grow count size

def grow (backwards : Bool) : Plan → Size → Option Size
  | fixed more, size => (size.add more).check
  | set pieces, size =>
    (if backwards then growBackwards pieces size else growForwards pieces size).check
  | seq first second, size => do second.grow backwards (← first.grow backwards size)
  | turns count plan, size => repeatedly (plan.grow backwards) count size

end Plan

def planOfSet (set : CharSet) : Plan :=
  if set.isAscii then .fixed (Size.of 2 0 set.ranges.length) else .set (piecesOf set)

/-- What joins alternatives: nothing after the first, a choice and an end after the second, and one
more choice after each other. -/
def join (index : Nat) : Plan :=
  match index with
  | 0 => .none
  | 1 => .fixed (Size.of 2 2 0)
  | _ => .fixed (Size.of 0 1 0)

/-- The machine of a repetition, from that of one turn. -/
def planOfTurns (turn : Plan) (isEmptyTurn : Bool) (least : Nat) (most : Option Nat) : Plan :=
  let optional := Plan.beside (.fixed (Size.of 1 2 0)) turn
  match least, most with
  | 0, some 1 => .inOrder [.states 1, turn, .fixed (Size.of 1 2 0)]
  | 0, none =>
    if isEmptyTurn then turn.beside (.fixed (Size.of 3 4 0))
    else .inOrder [.states 1, turn, .fixed (Size.of 0 2 0)]
  | 0, some most => Plan.beside (.states 2) (optional.repeated most)
  | least, none => (turn.repeated least).beside (.fixed (Size.of 1 2 0))
  | least, some most =>
    if least = most then turn.repeated least
    else .inOrder [turn.repeated least, .states 1, optional.repeated (most - least)]

/-- The machine of a pattern that is the alternative with this index, or stands alone. -/
def planOf (backwards : Bool) (index : Nat) : Pattern → Plan
  | empty => (Plan.states 1).beside (join index)
  | literal chars => (Plan.states (Utf8.encode chars).length).beside (join index)
  | one set _ => (planOfSet set).beside (join index)
  | look _ => (Plan.states 1).beside (join index)
  | seq first second =>
    let first := planOf backwards 0 first
    let second := planOf backwards 0 second
    (if backwards then second.beside first else first.beside second).beside (join index)
  | alt left right =>
    let texts? := if index = 0 then (left :: right.alternatives).mapM textOf? else none
    match texts? with
    | some texts =>
      let texts := if backwards then texts.map List.reverse else texts
      let depth := (texts.map List.length).foldl max 0
      (Plan.states 1).beside (.fixed (sizeOfTexts (depth + 1) texts))
    | none =>
      .inOrder [planOf backwards 0 left, join index, planOf backwards (index + 1) right]
  | group _ pattern =>
    let plan := planOf backwards 0 pattern
    let plan := if backwards then plan else .inOrder [.states 1, plan, .states 1]
    plan.beside (join index)
  | times pattern least most _ =>
    let isEmptyTurn := (pattern.shortest.getD 0) = 0
    (planOfTurns (planOf backwards 0 pattern) isEmptyTurn least most).beside (join index)

/-- The machine that reads forwards. Unless a match can only begin where the text does, it begins
with a state that passes over any byte. -/
def planForwards (pattern : Pattern) : Plan :=
  .inOrder [.fixed (if pattern.extent.startBound then Size.of 1 0 0 else Size.of 3 2 1), .states 1,
    planOf false 0 pattern, .states 2]

def planBackwards (pattern : Pattern) : Plan :=
  .inOrder [.fixed (if pattern.extent.endBound then Size.of 1 0 0 else Size.of 3 2 1),
    planOf true 0 pattern, .states 1]

def isTooLarge (backwards : Bool) (pattern : Pattern) : Bool :=
  let plan := if backwards then planBackwards pattern else planForwards pattern
  (plan.grow backwards {}).isNone

end LeadingComment.Pattern.Machine
