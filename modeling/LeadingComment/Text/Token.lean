import LeadingComment.Text.Utf8

namespace LeadingComment.Token

def starts (token text : List Char) : Bool := token.isPrefixOf text

/-- The empty token occurs in every text. -/
def occursIn (token : List Char) : List Char → Bool
  | [] => token.isEmpty
  | char :: text => starts token (char :: text) || occursIn token text

theorem starts_iff {token text : List Char} : starts token text = true ↔ token <+: text :=
  List.isPrefixOf_iff_prefix

theorem occursIn_iff {token text : List Char} : occursIn token text = true ↔ token <:+: text := by
  induction text with
  | nil => simp [occursIn]
  | cons char text hyp => rw [occursIn, Bool.or_eq_true, starts_iff, hyp, List.infix_cons_iff]

/-- The order of UTF-8 bytes, a proper start coming first. -/
def atMost (left right : String) : Bool := decide (utf8 left ≤ utf8 right)

def size (token : String) : Nat := (utf8 token).length

end LeadingComment.Token
