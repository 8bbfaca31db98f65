import LeadingComment.Text.Utf8

namespace LeadingComment.Utf8

/-- Where a range of codes has to be cut: the last code before and the first one after. Both parts
of a piece have as many bytes, and a place of theirs varies only if those behind it are free. -/
def cut? (low high : Nat) : Option (Nat × Nat) :=
  if low < 0xE000 && 0xD7FF < high then some (0xD7FF, 0xE000)
  else
    match [0x7F, 0x7FF, 0xFFFF].find? fun last => low ≤ last && last < high with
    | some last => some (last, last + 1)
    | none =>
      if high ≤ 0x7F then none
      else
        [0x40, 0x1000, 0x40000].findSome? fun block =>
          if low / block = high / block then none
          else if low % block ≠ 0 then some ((low / block + 1) * block - 1, (low / block + 1) * block)
          else if high % block ≠ block - 1 then some (high / block * block - 1, high / block * block)
          else none

/-- The pieces of a range in ascending order; no range needs more than `cuts` cuts in a row. -/
def piecesFrom : (cuts : Nat) → (low high : Nat) → List (List (Nat × Nat))
  | 0, _, _ => []
  | cuts + 1, low, high =>
    match cut? low high with
    | some (last, first) => piecesFrom cuts low last ++ piecesFrom cuts first high
    | none =>
      [((encodeChar (Char.ofNat low)).zip (encodeChar (Char.ofNat high))).map fun (low, high) =>
        (low.toNat, high.toNat)]

def pieces (low high : Nat) : List (List (Nat × Nat)) := piecesFrom 64 low high

end LeadingComment.Utf8
