/-! Sets of characters, written as ranges. Characters count by their rank, which is their place among
all characters: the codes of surrogates are no characters, so that what is left and right of them
is next to each other. -/
namespace LeadingComment

structure CharSet where
  /-- The first and the last rank of each range, in ascending order and with gaps between them. -/
  ranges : List (Nat × Nat) := []
deriving DecidableEq, Repr

namespace CharSet

def rankOf (char : Char) : Nat :=
  if char.toNat < 0xD800 then char.toNat else char.toNat - 0x800

def codeOfRank (rank : Nat) : Nat := if rank < 0xD800 then rank else rank + 0x800

def characterCount : Nat := 0x10F800

/-- Puts a range in front of others that do not begin before it. -/
def absorb (low high : Nat) : List (Nat × Nat) → List (Nat × Nat)
  | [] => [(low, high)]
  | (nextLow, nextHigh) :: ranges =>
    if nextLow ≤ high + 1 then absorb low (max high nextHigh) ranges
    else (low, high) :: (nextLow, nextHigh) :: ranges

def ofRanges (ranges : List (Nat × Nat)) : CharSet :=
  let sorted := ranges.mergeSort fun left right => left.1 ≤ right.1
  { ranges := sorted.foldr (fun (low, high) => absorb low high) [] }

def contains (set : CharSet) (char : Char) : Bool :=
  set.ranges.any fun (low, high) => low ≤ rankOf char && rankOf char ≤ high

def none : CharSet := {}

def isEmpty (set : CharSet) : Bool := set.ranges.isEmpty

def range (low high : Char) : CharSet := { ranges := [(rankOf low, rankOf high)] }

def single (char : Char) : CharSet := range char char

def ofList (ranges : List (Char × Char)) : CharSet :=
  ofRanges (ranges.map fun (low, high) => (rankOf low, rankOf high))

def either (one other : CharSet) : CharSet := ofRanges (one.ranges ++ other.ranges)

def unionOf (sets : List CharSet) : CharSet := ofRanges (sets.flatMap CharSet.ranges)

def outside (set : CharSet) : CharSet :=
  let (start, gaps) := set.ranges.foldl (fun (start, gaps) (low, high) =>
    (high + 1, if start < low then (start, low - 1) :: gaps else gaps)) (0, [])
  let gaps := if start < characterCount then (start, characterCount - 1) :: gaps else gaps
  { ranges := gaps.reverse }

def both (one other : CharSet) : CharSet := outside (either (outside one) (outside other))

def less (one other : CharSet) : CharSet := both one (outside other)

def butNotBoth (one other : CharSet) : CharSet := less (either one other) (both one other)

def digits : CharSet := range '0' '9'

def letters : CharSet := ofList [('A', 'Z'), ('a', 'z')]

/-- Letters, digits and the underscore. -/
def wordChars : CharSet := ofList [('0', '9'), ('A', 'Z'), ('_', '_'), ('a', 'z')]

def blanks : CharSet := ofList [('\t', '\r'), (' ', ' ')]

/-- Together with the other case of the letters from A to Z that are in it. -/
def anyCase (set : CharSet) : CharSet :=
  let upper := both set (range 'A' 'Z')
  let lower := both set (range 'a' 'z')
  ofRanges (set.ranges ++ upper.ranges.map (fun (low, high) => (low + 32, high + 32))
    ++ lower.ranges.map fun (low, high) => (low - 32, high - 32))

/-- Ranks are codes where they are those of ASCII. -/
def isAscii (set : CharSet) : Bool := set.ranges.all fun (_, high) => high < 128

def member? (set : CharSet) : Option Char :=
  match set.ranges with
  | [(low, high)] => if low = high then some (Char.ofNat (codeOfRank low)) else Option.none
  | _ => Option.none

end CharSet
end LeadingComment
