import LeadingComment.Catalog.Builtin
import LeadingComment.Proofs.CommentExtent
import LeadingComment.Proofs.CommentMode
import LeadingComment.Text.Utf8.RoundTrip
import Mathlib.Data.List.DropRight
import Mathlib.Data.List.Sort

/-! Which style a line is given. Longer openings are tried first, so the first that starts the line is the
longest that does. Two openings that start the same line start one another; hence neither the order of the
tables nor that of equally long openings has a say, and a line comment goes on where detection would find
its opening or one that begins with it. -/
namespace LeadingComment

theorem trimEnd_eq_rdropWhile (text : List Char) : trimEnd text = text.rdropWhile isBlank := rfl

theorem trim_eq_nil_iff (text : List Char) : trim text = [] ↔ ∀ char ∈ text, isBlank char = true := by
  rw [trim, trimEnd_eq_rdropWhile, List.rdropWhile_eq_nil_iff, ← List.dropWhile_eq_nil_iff, trimStart,
    List.dropWhile_idempotent, List.dropWhile_eq_nil_iff]

theorem trim_blanks_append {before : List Char} (blank : ∀ char ∈ before, isBlank char = true)
    (text : List Char) : trim (before ++ text) = trim text := by
  rw [trim, trimStart, List.dropWhile_append_of_pos blank]
  rfl

theorem trim_append_blanks (text : List Char) {after : List Char}
    (blank : ∀ char ∈ after, isBlank char = true) : trim (text ++ after) = trim text := by
  induction after using List.reverseRecOn with
  | nil => rw [List.append_nil]
  | append_singleton after mark hyp =>
    obtain ⟨here, last⟩ := List.forall_mem_append.mp blank
    rw [← List.append_assoc, trim_concat (last mark List.mem_cons_self), hyp here]

namespace Token

/-- The token is not empty and does not end in a blank. -/
def isSolid (token : String) : Bool := token.toList.getLast?.any fun mark => !isBlank mark

theorem starts_trim_iff {token : String} (solid : isSolid token = true) (text : List Char) :
    token.toList <+: trim text ↔ token.toList <+: trimStart text := by
  constructor
  · intro starts
    have within := trim_prefix text
    exact starts.trans within
  · rintro ⟨rest, whole⟩
    obtain ⟨mark, last, filled⟩ : ∃ mark, token.toList.getLast? = some mark ∧ isBlank mark = false := by
      simpa [isSolid, Option.any_eq_true] using solid
    obtain ⟨front, split⟩ := List.getLast?_eq_some_iff.mp last
    have kept : token.toList.reverse.dropWhile isBlank = token.toList.reverse := by
      rw [split, List.reverse_concat, List.dropWhile_cons_of_neg (by simp [filled])]
    rw [trim, ← whole, trimEnd, List.reverse_append, List.dropWhile_append]
    split
    · exact ⟨[], by rw [kept, List.reverse_reverse, List.append_nil]⟩
    · rw [List.reverse_append, List.reverse_reverse]
      exact List.prefix_append _ _

theorem atMost_total (left right : String) : atMost left right = true ∨ atMost right left = true := by
  simp only [atMost, decide_eq_true_eq]
  exact Std.Total.total _ _

theorem atMost_trans {first second third : String} (before : atMost first second = true)
    (behind : atMost second third = true) : atMost first third = true := by
  simp only [atMost, decide_eq_true_eq] at *
  exact List.le_trans before behind

/-- Of two tokens at the start of one text, the one with fewer bytes starts the other. -/
theorem starts_of_size_le {token other : String} {text : List Char} (starts : token.toList <+: text)
    (otherStarts : other.toList <+: text) (shorter : size token ≤ size other) :
    token.toList <+: other.toList := by
  rcases List.prefix_or_prefix_of_prefix starts otherStarts with within | ⟨rest, longer⟩
  · exact within
  · have sizes : (Utf8.encode rest).length = 0 := by
      rw [size, size, utf8, utf8, ← longer, Utf8.encode_append, List.length_append] at shorter
      omega
    have empty : rest = [] := by
      by_contra nonempty
      exact Utf8.encode_ne_nil nonempty (List.eq_nil_of_length_eq_zero sizes)
    exact ⟨[], by rw [← longer, empty, List.append_nil, List.append_nil]⟩

end Token

namespace Catalog

theorem precedes_iff (left right : Style) : precedes left right = true ↔
    Token.size right.opening < Token.size left.opening ∨
      Token.size left.opening = Token.size right.opening ∧
        Token.atMost left.opening right.opening = true := by
  rw [precedes]
  split
  next same => simp [same]
  next other => simp [other]

instance : Std.Total fun left right : Style => precedes left right = true where
  total left right := by
    simp only [precedes_iff]
    have bytes := Token.atMost_total left.opening right.opening
    rcases Nat.lt_trichotomy (Token.size left.opening) (Token.size right.opening) with
      shorter | same | longer
    · exact .inr (.inl shorter)
    · exact bytes.imp (fun first => .inr ⟨same, first⟩) fun second => .inr ⟨same.symm, second⟩
    · exact .inl (.inl longer)

instance : IsTrans Style fun left right => precedes left right = true where
  trans first second third before behind := by
    simp only [precedes_iff] at *
    rcases before with longer | ⟨same, bytes⟩
    · left
      rcases behind with further | ⟨equal, _⟩ <;> omega
    · rcases behind with longer | ⟨equal, others⟩
      · left
        omega
      · exact .inr ⟨same.trans equal, Token.atMost_trans bytes others⟩

theorem byOpening_eq_insertionSort (catalog : Catalog) :
    catalog.byOpening = catalog.styles.insertionSort fun left right => precedes left right = true := by
  have same : insertStyle = List.orderedInsert fun left right => precedes left right = true := by
    funext style styles
    induction styles with
    | nil => rfl
    | cons first later hyp => rw [insertStyle, List.orderedInsert, hyp]
  rw [byOpening, same]
  rfl

theorem byOpening_perm (catalog : Catalog) : catalog.byOpening.Perm catalog.styles := by
  rw [byOpening_eq_insertionSort]
  exact List.perm_insertionSort _ _

theorem byOpening_pairwise (catalog : Catalog) :
    catalog.byOpening.Pairwise fun left right => precedes left right = true := by
  rw [byOpening_eq_insertionSort]
  exact List.pairwise_insertionSort _ _

/-- The style is listed, and of all listed openings that start the text none has more bytes than its own. -/
structure Longest (catalog : Catalog) (text : List Char) (style : Style) : Prop where
  listed : style ∈ catalog.styles
  starts : style.opening.toList <+: text
  longest : ∀ other ∈ catalog.styles, other.opening.toList <+: text →
    Token.size other.opening ≤ Token.size style.opening

variable {catalog : Catalog} {text line : List Char} {style : Style}

theorem Longest.starts_opening (found : catalog.Longest text style) {other : Style}
    (listed : other ∈ catalog.styles) (starts : other.opening.toList <+: text) :
    other.opening.toList <+: style.opening.toList :=
  Token.starts_of_size_le starts found.starts (found.longest other listed starts)

theorem Longest.unique (distinct : (catalog.styles.map Style.opening).Nodup)
    (found : catalog.Longest text style) {other : Style} (too : catalog.Longest text other) :
    style = other := by
  have openings : style.opening.toList = other.opening.toList := by
    have forth := too.starts_opening found.listed found.starts
    have back := found.starts_opening too.listed too.starts
    exact forth.eq_of_length (Nat.le_antisymm forth.length_le back.length_le)
  exact List.inj_on_of_nodup_map distinct found.listed too.listed (String.toList_injective openings)

theorem Longest.perm {other : Catalog} (order : other.styles.Perm catalog.styles)
    (found : catalog.Longest text style) : other.Longest text style where
  listed := order.mem_iff.mpr found.listed
  starts := found.starts
  longest rival member := found.longest rival (order.mem_iff.mp member)

theorem longest_of_match? (found : catalog.match? line = some style) :
    catalog.Longest (trim line) style := by
  rw [match?] at found
  split at found
  · cases found
  obtain ⟨starts, before, after, order, missed⟩ := List.find?_eq_some_iff_append.mp found
  simp only [Token.starts_iff, Bool.not_eq_true', Bool.eq_false_iff, ne_eq] at starts missed
  have ordered := catalog.byOpening_pairwise
  rw [order, List.pairwise_append] at ordered
  constructor
  case listed =>
    apply catalog.byOpening_perm.mem_iff.mp
    rw [order]
    exact List.mem_append_right _ List.mem_cons_self
  case starts => exact starts
  case longest =>
    intro other listed otherStarts
    have member := catalog.byOpening_perm.mem_iff.mpr listed
    rw [order] at member
    -- What is tried before the style does not start the line, and what comes behind it is not longer.
    rcases List.mem_append.mp member with earlier | later
    · exact absurd otherStarts (missed other earlier)
    rcases List.mem_cons.mp later with rfl | later
    · exact Nat.le_refl _
    · rcases (precedes_iff _ _).mp (List.rel_of_pairwise_cons ordered.2.1 later) with longer | ⟨same, _⟩
      · exact Nat.le_of_lt longer
      · exact Nat.le_of_eq same.symm

theorem match?_eq_none_iff (catalog : Catalog) (line : List Char) :
    catalog.match? line = none ↔
      (∀ char ∈ line, isBlank char = true) ∨
        ∀ style ∈ catalog.styles, ¬ style.opening.toList <+: trim line := by
  rw [← trim_eq_nil_iff, match?]
  by_cases empty : trim line = []
  · simp [empty]
  · simp only [empty, List.isEmpty_iff, if_false, List.find?_eq_none, Token.starts_iff,
      catalog.byOpening_perm.mem_iff, false_or]

/-- A line that is not blank and starts with some opening is given a style. -/
theorem exists_match? (filled : ∃ char ∈ line, isBlank char = false) (listed : style ∈ catalog.styles)
    (starts : style.opening.toList <+: trim line) : ∃ found, catalog.match? line = some found := by
  cases matched : catalog.match? line with
  | some found => exact ⟨found, rfl⟩
  | none =>
    rcases (catalog.match?_eq_none_iff line).mp matched with blank | unmatched
    · obtain ⟨char, member, other⟩ := filled
      rw [blank char member] at other
      cases other
    · exact absurd starts (unmatched style listed)

theorem match?_eq_some_iff (distinct : (catalog.styles.map Style.opening).Nodup) (line : List Char)
    (style : Style) :
    catalog.match? line = some style ↔
      (∃ char ∈ line, isBlank char = false) ∧ catalog.Longest (trim line) style := by
  constructor
  · intro found
    have matched : catalog.match? line ≠ none := by simp [found]
    rw [ne_eq, match?_eq_none_iff, not_or] at matched
    exact ⟨by simpa using matched.1, longest_of_match? found⟩
  · rintro ⟨filled, longest⟩
    obtain ⟨found, matched⟩ := exists_match? filled longest.listed longest.starts
    rw [matched, (longest_of_match? matched).unique distinct longest]

/-- A line that is not all blank is given the style whose opening is the longest that starts it, blanks
around the line left aside; no other style has such an opening. The order of the styles plays no part in
this, nor do blanks before and behind the line. -/
theorem match_longest (catalog : Catalog) (distinct : (catalog.styles.map Style.opening).Nodup)
    (line : List Char) :
    (catalog.match? line = none ↔
      (∀ char ∈ line, isBlank char = true) ∨
        ∀ style ∈ catalog.styles, ¬ style.opening.toList <+: trim line) ∧
    (∀ style, catalog.match? line = some style ↔
      (∃ char ∈ line, isBlank char = false) ∧ catalog.Longest (trim line) style) ∧
    (∀ other : Catalog, other.styles.Perm catalog.styles → other.match? line = catalog.match? line) ∧
    ∀ before after : List Char, (∀ char ∈ before ++ after, isBlank char = true) →
      catalog.match? (before ++ line ++ after) = catalog.match? line := by
  refine ⟨catalog.match?_eq_none_iff line, match?_eq_some_iff distinct line, ?_, ?_⟩
  · intro other order
    have otherDistinct : (other.styles.map Style.opening).Nodup :=
      (order.map Style.opening).nodup_iff.mpr distinct
    apply Option.ext
    intro style
    -- Which opening is the longest does not depend on the order.
    rw [match?_eq_some_iff distinct, match?_eq_some_iff otherDistinct]
    exact and_congr_right fun _ => ⟨.perm order.symm, .perm order⟩
  · intro before after blank
    obtain ⟨front, behind⟩ := List.forall_mem_append.mp blank
    rw [match?, match?, List.append_assoc, trim_blanks_append front, trim_append_blanks line behind]

/-- The known openings are pairwise different, and none of them is empty or ends in a blank. -/
theorem builtin_openings : (builtin.styles.map Style.opening).Nodup ∧
    ∀ style ∈ builtin.styles, Token.isSolid style.opening = true :=
  ⟨by decide, List.all_eq_true.mp (by decide)⟩

/-- Two openings start the line, `#` and `#|`. -/
theorem match_longest_nested :
    let line := "#| a".toList
    let turned : Catalog := ⟨builtin.lineStyles.reverse, builtin.blockStyles.reverse⟩
    let style : Style := ⟨"Lisp", .block "#|" "|#", []⟩
    (builtin.styles.map Style.opening).Nodup ∧
      builtin.match? line = some style ∧ builtin.Longest (trim line) style ∧
      turned.match? line = some style ∧
      builtin.match? ("\t".toList ++ line ++ " \r\n".toList) = some style := by
  intro line turned style
  obtain ⟨_, given, reordered, surrounded⟩ := builtin.match_longest builtin_openings.1 line
  have found : builtin.match? line = some style := by decide
  have order : turned.styles.Perm builtin.styles :=
    (List.reverse_perm builtin.lineStyles).append (List.reverse_perm builtin.blockStyles)
  have blank : ∀ char ∈ "\t".toList ++ " \r\n".toList, isBlank char = true :=
    List.all_eq_true.mp (by decide)
  exact ⟨builtin_openings.1, found, ((given style).mp found).2, (reordered turned order).trans found,
    (surrounded "\t".toList " \r\n".toList blank).trans found⟩

/-- An opening at the start of a line is the one that detection finds there, or the beginning of it. -/
theorem starts_iff_match? (listed : style ∈ catalog.styles) (solid : Token.isSolid style.opening = true)
    (line : List Char) :
    style.opening.toList <+: trim line ↔
      ∃ found, catalog.match? line = some found ∧ style.opening.toList <+: found.opening.toList := by
  constructor
  · intro starts
    have filled : ∃ char ∈ line, isBlank char = false := by
      by_contra blank
      have empty : trim line = [] := (trim_eq_nil_iff line).mpr (by simpa using blank)
      rw [empty, List.prefix_nil] at starts
      simp [Token.isSolid, starts] at solid
    obtain ⟨found, matched⟩ := exists_match? filled listed starts
    exact ⟨found, matched, (longest_of_match? matched).starts_opening listed starts⟩
  · rintro ⟨found, matched, starts⟩
    exact starts.trans (longest_of_match? matched).starts

/-- A line comment goes on exactly over the lines for which detection finds its own opening or a longer one
that begins with it. The opening must be solid for this; it does not matter what other styles there are. -/
theorem goesOn_iff_match (catalog : Catalog) (style : Style) (listed : style ∈ catalog.styles)
    (opening : String) (delimiters : style.delimiters = .line opening)
    (solid : Token.isSolid opening = true) (line : List Char) :
    (opening.toList <+: trimStart line ↔
      ∃ found, catalog.match? line = some found ∧ opening.toList <+: found.opening.toList) ∧
    ∀ after, (Choice.comment style).verdict { raw := line, after } = .take ↔
      ∃ found, catalog.match? line = some found ∧ opening.toList <+: found.opening.toList := by
  have same : style.opening = opening := by
    rw [Style.opening, delimiters]
    rfl
  subst same
  have found := starts_iff_match? listed solid line
  refine ⟨(Token.starts_trim_iff solid line).symm.trans found, fun after => ?_⟩
  -- Extraction sees the line without its terminator. Trimming takes that away as well.
  have chosen : Choice.comment style = .whileContinued style.opening := by rw [Choice.comment, delimiters]
  rw [chosen, (Choice.whileContinued_takesWhile style.opening).verdict, ← found, ← Line.trim_chomp,
    Token.starts_trim_iff solid, Taken.chars]
  by_cases starts : style.opening.toList <+: trimStart (Line.chomp line)
  · simp [starts]
  · simp [starts]

/-- Detection finds the longer of two openings here, and a comment in the style of the shorter goes on. -/
theorem goesOn_iff_match_longer :
    let style : Style := ⟨"Lua", .line "--", []⟩
    let line := "  --[[ a\r\n".toList
    style ∈ builtin.styles ∧ Token.isSolid "--" = true ∧
      builtin.match? line = some ⟨"Lua", .block "--[[" "--]]", []⟩ ∧
      "--".toList <+: trimStart line ∧
      ∀ after, (Choice.comment style).verdict { raw := line, after } = .take := by
  intro style line
  have listed : style ∈ builtin.styles := by decide
  have solid : Token.isSolid "--" = true := builtin_openings.2 style listed
  have found : builtin.match? line = some ⟨"Lua", .block "--[[" "--]]", []⟩ := by decide
  obtain ⟨starts, takes⟩ := builtin.goesOn_iff_match style listed "--" rfl solid line
  have longer : "--".toList <+: "--[[".toList := by decide
  exact ⟨listed, solid, found, starts.mpr ⟨_, found, longer⟩, fun after =>
    (takes after).mpr ⟨_, found, longer⟩⟩

end Catalog
end LeadingComment
