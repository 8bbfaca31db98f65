import LeadingComment.Source
import Mathlib.Data.Nat.Find
import Mathlib.Tactic.ByContra

/-! Which trap a reading meets. Reading goes over offsets in order, so of the traps that halt it the one
at the least offset decides, and at one offset the first in order. Interruptions on the way are spent;
traps elsewhere stay. -/
namespace LeadingComment

namespace Trap

/-- All traps halt the reading but interruptions. -/
def halts (trap : Trap) : Bool := !trap.fault.isInterruption

theorem isInterruption_eq (trap : Trap) : trap.fault.isInterruption = !trap.halts :=
  (Bool.not_not _).symm

def isWithin (low high : Nat) (trap : Trap) : Bool := low ≤ trap.offset && trap.offset < high

/-- The traps that are still set once reading has gone from `low` to `high` without a fault. -/
def untouched (low high : Nat) (traps : List Trap) : List Trap :=
  traps.filter fun trap => !trap.isWithin low high

theorem isWithin_iff {low high : Nat} {trap : Trap} :
    trap.isWithin low high = true ↔ low ≤ trap.offset ∧ trap.offset < high := by
  simp [isWithin]

theorem isWithin_eq_false {low high : Nat} {trap : Trap} (outside : trap.offset < low ∨ high ≤ trap.offset) :
    trap.isWithin low high = false := by
  rw [Bool.eq_false_iff, ne_eq, isWithin_iff]
  omega

theorem mem_untouched {low high : Nat} {traps : List Trap} {trap : Trap} :
    trap ∈ untouched low high traps ↔ trap ∈ traps ∧ trap.isWithin low high = false := by
  simp [untouched]

theorem untouched_append (low high : Nat) (before after : List Trap) :
    untouched low high (before ++ after) = untouched low high before ++ untouched low high after :=
  List.filter_append _ _

theorem untouched_none (position : Nat) (traps : List Trap) : untouched position position traps = traps := by
  rw [untouched, List.filter_eq_self]
  intro trap _
  rw [isWithin_eq_false (Nat.lt_or_ge _ _), Bool.not_false]

theorem untouched_untouched {low middle high : Nat} (first : low ≤ middle) (second : middle ≤ high)
    (traps : List Trap) : untouched middle high (untouched low middle traps) = untouched low high traps := by
  rw [untouched, untouched, untouched, List.filter_filter]
  apply List.filter_congr
  intro trap _
  rw [Bool.eq_iff_iff]
  simp only [isWithin, Bool.and_eq_true, Bool.not_eq_true', Bool.and_eq_false_iff, decide_eq_false_iff_not]
  omega

end Trap

theorem strike_append {offset : Nat} {before : List Trap}
    (harmless : ∀ trap ∈ before, trap.offset = offset → trap.halts = false) (traps : List Trap) :
    strike offset (before ++ traps) =
      ((strike offset traps).1, Trap.untouched offset (offset + 1) before ++ (strike offset traps).2) := by
  induction before with
  | nil => rfl
  | cons trap before hyp =>
    obtain ⟨here, later⟩ := List.forall_mem_cons.mp harmless
    rw [List.cons_append, strike, hyp later]
    by_cases same : trap.offset = offset
    · simp [same, trap.isInterruption_eq, here same, Trap.untouched, Trap.isWithin]
    · have elsewhere : trap.isWithin offset (offset + 1) = false := Trap.isWithin_eq_false (by omega)
      simp [same, elsewhere, Trap.untouched]

theorem strike_of_halts {trap : Trap} {before : List Trap} (halts : trap.halts = true)
    (harmless : ∀ other ∈ before, other.offset = trap.offset → other.halts = false) (after : List Trap) :
    strike trap.offset (before ++ trap :: after) =
      (some trap.fault, Trap.untouched trap.offset (trap.offset + 1) before ++ after) := by
  rw [strike_append harmless, strike, if_pos rfl, trap.isInterruption_eq, halts]
  rfl

namespace Place

/-- No trap among the next `count` offsets halts the reading. -/
def IsQuiet (place : Place) (count : Nat) : Prop :=
  ∀ trap ∈ place.traps, trap.isWithin place.position (place.position + count) = true → trap.halts = false

/-- The trap that halts a reading over the next `count` offsets, with the traps that stand before and
behind it. -/
structure Meets (place : Place) (count : Nat) (before : List Trap) (trap : Trap) (after : List Trap) :
    Prop where
  halts : trap.halts = true
  split : place.traps = before ++ trap :: after
  reached : trap.isWithin place.position (place.position + count) = true
  least : ∀ other ∈ place.traps, other.halts = true → place.position ≤ other.offset →
    trap.offset ≤ other.offset
  first : ∀ other ∈ before, other.offset = trap.offset → other.halts = false

/-- The place at which a trap has halted the reading. -/
def halted (place : Place) (before : List Trap) (trap : Trap) (after : List Trap) : Place where
  position := trap.offset
  traps := Trap.untouched place.position (trap.offset + 1) before ++
    Trap.untouched place.position trap.offset after

/-- The place that reading over `count` offsets comes to if nothing halts it. -/
def onward (place : Place) (count : Nat) : Place where
  position := place.position + count
  traps := Trap.untouched place.position (place.position + count) place.traps

theorem quiet_or_meets (place : Place) (count : Nat) :
    place.IsQuiet count ∨ ∃ before trap after, place.Meets count before trap after := by
  by_cases quiet : place.IsQuiet count
  · exact .inl quiet
  · right
    -- First the least offset at which a trap halts, then the first such trap there.
    have there : ∃ offset, ∃ trap ∈ place.traps, trap.halts = true ∧ place.position ≤ offset ∧
        offset < place.position + count ∧ trap.offset = offset := by
      simp only [IsQuiet, not_forall, Bool.not_eq_false] at quiet
      obtain ⟨trap, member, within, halts⟩ := quiet
      obtain ⟨low, high⟩ := Trap.isWithin_iff.mp within
      exact ⟨trap.offset, trap, member, halts, low, high, rfl⟩
    obtain ⟨some_trap, member, someHalts, low, high, at_offset⟩ := Nat.find_spec there
    have found : (place.traps.find? fun trap => trap.halts && trap.offset == Nat.find there).isSome := by
      rw [List.find?_isSome]
      exact ⟨some_trap, member, by simp [someHalts, at_offset]⟩
    obtain ⟨trap, isFirst⟩ := Option.isSome_iff_exists.mp found
    obtain ⟨chosen, before, after, split, missed⟩ := List.find?_eq_some_iff_append.mp isFirst
    simp only [Bool.and_eq_true, beq_iff_eq] at chosen
    refine ⟨before, trap, after, chosen.1, split, ?_, ?_, ?_⟩
    · rw [Trap.isWithin_iff, chosen.2]
      exact ⟨low, high⟩
    · intro other otherMember otherHalts behind
      rw [chosen.2]
      by_cases far : place.position + count ≤ other.offset
      · omega
      · exact Nat.find_min' there ⟨other, otherMember, otherHalts, behind, by omega, rfl⟩
    · intro other otherMember same
      have unmet := missed other otherMember
      rw [← chosen.2] at unmet
      simpa [same] using unmet

theorem Meets.onward {place : Place} {count : Nat} {before after : List Trap} {trap : Trap}
    (meets : place.Meets count before trap after) {gone : Nat} (behind : place.position + gone ≤ trap.offset)
    {rest : Nat} (enough : trap.offset < place.position + gone + rest) :
    (place.onward gone).Meets rest (Trap.untouched place.position (place.position + gone) before) trap
      (Trap.untouched place.position (place.position + gone) after) := by
  have ahead : trap.isWithin place.position (place.position + gone) = false :=
    Trap.isWithin_eq_false (.inr behind)
  constructor
  case halts => exact meets.halts
  case split =>
    rw [Place.onward, meets.split, Trap.untouched_append]
    simp [Trap.untouched, ahead]
  case reached => exact Trap.isWithin_iff.mpr ⟨behind, enough⟩
  case least =>
    intro other member otherHalts further
    have further : place.position + gone ≤ other.offset := further
    exact meets.least other (Trap.mem_untouched.mp member).1 otherHalts (by omega)
  case first =>
    intro other member
    exact meets.first other (Trap.mem_untouched.mp member).1

theorem Meets.halted_onward {place : Place} {before after : List Trap} {trap : Trap} {gone : Nat}
    (behind : place.position + gone ≤ trap.offset) :
    (place.onward gone).halted (Trap.untouched place.position (place.position + gone) before) trap
      (Trap.untouched place.position (place.position + gone) after) = place.halted before trap after := by
  rw [halted, halted, Place.onward, Trap.untouched_untouched (Nat.le_add_right _ _) (by omega),
    Trap.untouched_untouched (Nat.le_add_right _ _) behind]

theorem Meets.quiet {place : Place} {count : Nat} {before after : List Trap} {trap : Trap}
    (meets : place.Meets count before trap after) {gone : Nat} (behind : place.position + gone ≤ trap.offset) :
    place.IsQuiet gone := by
  intro other member within
  obtain ⟨low, high⟩ := Trap.isWithin_iff.mp within
  by_contra halts
  have reached := meets.least other member (by simpa using halts) low
  omega

theorem IsQuiet.mono {place : Place} {count less : Nat} (quiet : place.IsQuiet count) (fewer : less ≤ count) :
    place.IsQuiet less := by
  intro trap member within
  obtain ⟨low, high⟩ := Trap.isWithin_iff.mp within
  exact quiet trap member (Trap.isWithin_iff.mpr ⟨low, by omega⟩)

theorem IsQuiet.onward {place : Place} {gone rest : Nat} (quiet : place.IsQuiet (gone + rest)) :
    (place.onward gone).IsQuiet rest := by
  intro trap member within
  obtain ⟨low, high⟩ := Trap.isWithin_iff.mp within
  simp only [Place.onward] at low high
  exact quiet trap (Trap.mem_untouched.mp member).1 (Trap.isWithin_iff.mpr (by omega))

theorem onward_onward (place : Place) (first second : Nat) :
    (place.onward first).onward second = place.onward (first + second) := by
  rw [onward, onward, onward, Trap.untouched_untouched (Nat.le_add_right _ _) (Nat.le_add_right _ _),
    Nat.add_assoc]

theorem strike_of_isQuiet {place : Place} (quiet : place.IsQuiet 1) :
    strike place.position place.traps = (none, (place.onward 1).traps) := by
  have harmless : ∀ trap ∈ place.traps, trap.offset = place.position → trap.halts = false := by
    intro trap member same
    exact quiet trap member (Trap.isWithin_iff.mpr (by omega))
  have struck := strike_append harmless []
  rwa [List.append_nil, strike, List.append_nil] at struck

theorem pass_of_isQuiet {place : Place} {count : Nat} (quiet : place.IsQuiet count) :
    place.pass count = (none, place.onward count) := by
  rw [pass_eq_passEach]
  induction count generalizing place with
  | zero => rw [passEach, onward, Nat.add_zero, Trap.untouched_none]
  | succ count hyp =>
    rw [Nat.add_comm count 1] at quiet
    rw [passEach, strike_of_isQuiet (quiet.mono (Nat.le_add_right 1 count))]
    simp only
    rw [Nat.add_comm count 1, ← onward_onward]
    exact hyp quiet.onward

theorem pass_of_meets {place : Place} {count : Nat} {before after : List Trap} {trap : Trap}
    (meets : place.Meets count before trap after) :
    place.pass count = (some trap.fault, place.halted before trap after) := by
  rw [pass_eq_passEach]
  induction count generalizing place before after with
  | zero =>
    have reached := Trap.isWithin_iff.mp meets.reached
    omega
  | succ count hyp =>
    obtain ⟨low, high⟩ := Trap.isWithin_iff.mp meets.reached
    rcases Nat.eq_or_lt_of_le low with here | further
    · rw [passEach, meets.split, here, strike_of_halts meets.halts meets.first, halted, here,
        Trap.untouched_none]
    · have behind : place.position + 1 ≤ trap.offset := further
      rw [passEach, strike_of_isQuiet (meets.quiet behind), ← Meets.halted_onward behind]
      exact hyp (meets.onward behind (by omega))

end Place

namespace Line

/-- How many offsets are looked at to read a line. Behind a line without newline the end of input has to
be met, and so it has where there is no line. -/
def reach (line : Bytes) : Nat := if isEnded line then line.length else line.length + 1

theorem length_le_reach (line : Bytes) : line.length ≤ reach line := by
  rw [reach]
  split
  · exact Nat.le_refl _
  · exact Nat.le_succ _

end Line

namespace Place

theorem atEnd_of_isQuiet {place : Place} (quiet : place.IsQuiet 1) :
    place.atEnd = .complete { place.onward 1 with position := place.position } := by
  rw [atEnd, strike_of_isQuiet quiet]

theorem atEnd_of_meets {place : Place} {before after : List Trap} {trap : Trap}
    (meets : place.Meets 1 before trap after) :
    place.atEnd = .failed trap.fault (place.halted before trap after) := by
  obtain ⟨low, high⟩ := Trap.isWithin_iff.mp meets.reached
  have here : place.position = trap.offset := by omega
  rw [atEnd, meets.split, here, strike_of_halts meets.halts meets.first, halted, here, Trap.untouched_none]

/-- Where nothing halts it, the line is consumed, whether it is text or not. -/
theorem readLine_of_isQuiet {place : Place} {line : Bytes} (quiet : place.IsQuiet (Line.reach line)) :
    let after : Place := { place.onward (Line.reach line) with position := place.position + line.length }
    place.readLine line =
      match Utf8.decode? line with
      | some raw => .ok { raw, after }
      | none => .error (.invalidText, after) := by
  intro after
  have within : place.IsQuiet line.length := quiet.mono (Line.length_le_reach line)
  have stop : (if Line.isEnded line then Ending.complete (place.onward line.length)
      else (place.onward line.length).atEnd) = .complete after := by
    simp only [after, Line.reach] at *
    split
    · rfl
    next unended =>
      rw [if_neg unended] at quiet
      rw [atEnd_of_isQuiet quiet.onward, onward_onward]
      rfl
  rw [readLine, pass_of_isQuiet within]
  simp only [stop]
  cases Utf8.decode? line <;> rfl

/-- A fault on the way takes precedence over what the line holds. -/
theorem readLine_of_meets {place : Place} {line : Bytes} {before after : List Trap} {trap : Trap}
    (meets : place.Meets (Line.reach line) before trap after) :
    place.readLine line = .error (trap.fault, place.halted before trap after) := by
  obtain ⟨low, high⟩ := Trap.isWithin_iff.mp meets.reached
  by_cases early : trap.offset < place.position + line.length
  · have within : place.Meets line.length before trap after :=
      { meets with reached := Trap.isWithin_iff.mpr ⟨low, early⟩ }
    rw [readLine, pass_of_meets within]
  · have behind : place.position + line.length ≤ trap.offset := by omega
    have unended : Line.isEnded line = false := by
      by_contra ended
      rw [Line.reach, if_pos (by simpa using ended)] at high
      omega
    have last : trap.offset < place.position + line.length + 1 := by
      rw [Line.reach, unended] at high
      simpa [Nat.add_assoc] using high
    rw [readLine, pass_of_isQuiet (meets.quiet behind)]
    simp only [unended, Bool.false_eq_true, ↓reduceIte]
    rw [atEnd_of_meets (meets.onward behind last), Meets.halted_onward behind]

end Place
end LeadingComment
