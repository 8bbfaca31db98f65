import LeadingComment.Detection
import LeadingComment.Proofs.TrapsMet

namespace LeadingComment
namespace Source

def headLine (source : Source) : Bytes := (Line.cut source.ahead).headD []

/-- Nothing halts a reading of the first line. -/
def ReadsHead (source : Source) : Prop := source.place.IsQuiet (Line.reach source.headLine)

/-- Right behind the first line, after a reading that nothing has halted, with the seeks that are left. -/
def behindHead (source : Source) (seeks : Option Nat) : Source :=
  { source with
    position := source.position + source.headLine.length
    traps := (source.place.onward (Line.reach source.headLine)).traps
    seeks }

/-- Back at the position, after the same reading and two seeks. -/
def restored (source : Source) : Source :=
  { source.behindHead (source.seeks.map (· - 2)) with position := source.position }

/-- All that detection can come to. -/
inductive Detects (source : Source) (catalog : Catalog) : Detection → Prop where
  /-- The position is not learnt, and nothing is consumed. -/
  | unlocated (spent : source.seeks = some 0) :
      Detects source catalog { result := .error .seekFailed, source }
  /-- A fault halts the reading, and the source stays at its offset. -/
  | halted {before after : List Trap} {trap : Trap} (located : source.seeks ≠ some 0)
      (meets : source.place.Meets (Line.reach source.headLine) before trap after) :
      Detects source catalog
        { result := .error trap.fault
          source := { source with
            position := trap.offset
            traps := (source.place.halted before trap after).traps
            seeks := source.seeks.map (· - 1) } }
  /-- The line is no text, and it is consumed. -/
  | invalid (located : source.seeks ≠ some 0) (quiet : source.ReadsHead)
      (invalid : Utf8.decode? source.headLine = none) :
      Detects source catalog
        { result := .error .invalidText, source := source.behindHead (source.seeks.map (· - 1)) }
  /-- The line is read, and the position is not restored. -/
  | unrestored (spent : source.seeks = some 1) (quiet : source.ReadsHead)
      (readable : Utf8.decode? source.headLine ≠ none) :
      Detects source catalog { result := .error .seekFailed, source := source.behindHead (some 0) }
  | empty (enough : ∀ left, source.seeks = some left → 2 ≤ left) (quiet : source.ReadsHead)
      (nothing : source.ahead = []) :
      Detects source catalog { result := .ok none, source := source.restored, notes := [.emptyInput] }
  | unmatched {raw : List Char} (enough : ∀ left, source.seeks = some left → 2 ≤ left)
      (quiet : source.ReadsHead) (something : source.ahead ≠ [])
      (decoded : Utf8.decode? source.headLine = some raw) (nowhere : catalog.match? raw = none) :
      Detects source catalog { result := .ok none, source := source.restored, notes := [.unmatched] }
  | matched {raw : List Char} {style : Style} (enough : ∀ left, source.seeks = some left → 2 ≤ left)
      (quiet : source.ReadsHead) (something : source.ahead ≠ [])
      (decoded : Utf8.decode? source.headLine = some raw) (found : catalog.match? raw = some style) :
      Detects source catalog
        { result := .ok (some style), source := source.restored, notes := [.detected style] }

theorem spendSeek?_eq (source : Source) :
    source.spendSeek? =
      if source.seeks = some 0 then none else some { source with seeks := source.seeks.map (· - 1) } := by
  obtain ⟨data, position, traps, seeks⟩ := source
  rcases seeks with _ | _ | left <;> rfl

theorem firstLine_of_meets {source : Source} {before after : List Trap} {trap : Trap}
    (meets : source.place.Meets (Line.reach source.headLine) before trap after) :
    source.firstLine = .error (trap.fault, source.place.halted before trap after) := by
  rw [headLine] at meets
  rw [firstLine, Line.first?_eq_head?]
  cases lines : Line.cut source.ahead with
  | nil =>
    rw [lines] at meets
    simp only [List.head?_nil]
    rw [Place.atEnd_of_meets meets]
  | cons line later =>
    rw [lines, List.headD_cons] at meets
    simp only [List.head?_cons]
    rw [Place.readLine_of_meets meets]

theorem firstLine_of_readsHead {source : Source} (quiet : source.ReadsHead) (seeks : Option Nat) :
    source.firstLine =
      if source.ahead = [] then .ok (none, (source.behindHead seeks).place)
      else match Utf8.decode? source.headLine with
        | some raw => .ok (some raw, (source.behindHead seeks).place)
        | none => .error (.invalidText, (source.behindHead seeks).place) := by
  rw [ReadsHead] at quiet
  rw [firstLine, Line.first?_eq_head?]
  cases lines : Line.cut source.ahead with
  | nil =>
    have nothing : source.ahead = [] := by
      rw [← Line.flatten_cut source.ahead, lines]
      rfl
    have head : source.headLine = [] := by
      rw [headLine, lines]
      rfl
    rw [head] at quiet
    rw [if_pos nothing, behindHead, head]
    simp only [List.head?_nil]
    rw [Place.atEnd_of_isQuiet quiet]
    rfl
  | cons line later =>
    have something : source.ahead ≠ [] := by
      intro nothing
      rw [nothing] at lines
      cases lines
    have head : source.headLine = line := by
      rw [headLine, lines]
      rfl
    rw [head] at quiet
    rw [if_neg something, behindHead, head]
    simp only [List.head?_cons]
    rw [Place.readLine_of_isQuiet quiet]
    cases Utf8.decode? line <;> rfl

theorem detect_of_firstLine {source : Source} {line : Option (List Char)} (catalog : Catalog)
    (located : source.seeks ≠ some 0)
    (read : ({ source with seeks := source.seeks.map (· - 1) } : Source).firstLine =
      .ok (line, (source.behindHead (source.seeks.map (· - 1))).place)) :
    source.detect catalog =
      if source.seeks = some 1 then { result := .error .seekFailed, source := source.behindHead (some 0) }
      else
        { result := .ok (Detection.judge catalog line).1, source := source.restored
          notes := [(Detection.judge catalog line).2] } := by
  rw [detect, spendSeek?_eq, if_neg located]
  simp only
  rw [read]
  obtain ⟨data, position, traps, seeks⟩ := source
  rcases seeks with _ | _ | _ | left
  · rfl
  · exact absurd rfl located
  · rfl
  · simp [spendSeek?_eq, moveTo, behindHead, restored, reposition, place]

private theorem not_spent {seeks : Option Nat} (enough : ∀ left, seeks = some left → 2 ≤ left) :
    seeks ≠ some 0 ∧ seeks ≠ some 1 := by
  constructor
  · intro spent
    have least := enough 0 spent
    omega
  · intro last
    have least := enough 1 last
    omega

theorem detect_of_enough {source : Source} {line : Option (List Char)} (catalog : Catalog)
    (enough : ∀ left, source.seeks = some left → 2 ≤ left)
    (read : ({ source with seeks := source.seeks.map (· - 1) } : Source).firstLine =
      .ok (line, (source.behindHead (source.seeks.map (· - 1))).place)) :
    source.detect catalog =
      { result := .ok (Detection.judge catalog line).1, source := source.restored
        notes := [(Detection.judge catalog line).2] } := by
  obtain ⟨located, restores⟩ := not_spent enough
  rw [detect_of_firstLine catalog located read, if_neg restores]

theorem detect_of_unread {source : Source} {fault : Fault} {place : Place} (catalog : Catalog)
    (located : source.seeks ≠ some 0)
    (unread : ({ source with seeks := source.seeks.map (· - 1) } : Source).firstLine = .error (fault, place)) :
    source.detect catalog =
      { result := .error fault
        source := ({ source with seeks := source.seeks.map (· - 1) } : Source).moveTo place } := by
  rw [detect, spendSeek?_eq, if_neg located]
  simp only
  rw [unread]

theorem Detects.eq {source : Source} {catalog : Catalog} {detection : Detection}
    (detects : source.Detects catalog detection) : source.detect catalog = detection := by
  -- The first line is read with one seek spent, which makes no difference to the reading.
  have sought (quiet : source.ReadsHead) :
      ({ source with seeks := source.seeks.map (· - 1) } : Source).firstLine = _ :=
    firstLine_of_readsHead quiet (source.seeks.map (· - 1))
  cases detects with
  | unlocated spent => simp [detect, spendSeek?_eq, spent]
  | halted located meets => exact detect_of_unread catalog located (firstLine_of_meets meets)
  | invalid located quiet invalid =>
    have something : source.ahead ≠ [] := by
      intro nothing
      rw [headLine, nothing] at invalid
      cases invalid
    have unread := sought quiet
    rw [if_neg something, invalid] at unread
    exact detect_of_unread catalog located unread
  | unrestored spent quiet readable =>
    have located : source.seeks ≠ some 0 := by simp [spent]
    obtain ⟨raw, decoded⟩ := Option.ne_none_iff_exists'.mp readable
    have read := sought quiet
    rw [decoded] at read
    split at read
    · rw [detect_of_firstLine catalog located read, if_pos spent]
    · rw [detect_of_firstLine catalog located read, if_pos spent]
  | empty enough quiet nothing =>
    have read := sought quiet
    rw [if_pos nothing] at read
    exact detect_of_enough catalog enough read
  | unmatched enough quiet something decoded nowhere =>
    have read := sought quiet
    rw [if_neg something, decoded] at read
    rw [detect_of_enough catalog enough read]
    simp [Detection.judge, nowhere]
  | matched enough quiet something decoded found =>
    have read := sought quiet
    rw [if_neg something, decoded] at read
    rw [detect_of_enough catalog enough read]
    simp [Detection.judge, found]

theorem exists_detects (source : Source) (catalog : Catalog) :
    ∃ detection, source.Detects catalog detection := by
  by_cases spent : source.seeks = some 0
  · exact ⟨_, .unlocated spent⟩
  rcases source.place.quiet_or_meets (Line.reach source.headLine) with
    quiet | ⟨before, trap, after, meets⟩
  · cases decoded : Utf8.decode? source.headLine with
    | none => exact ⟨_, .invalid spent quiet decoded⟩
    | some raw =>
      by_cases last : source.seeks = some 1
      · exact ⟨_, .unrestored last quiet (by simp [decoded])⟩
      have enough : ∀ left, source.seeks = some left → 2 ≤ left := by
        intro left same
        rw [same] at spent last
        simp only [Option.some.injEq] at spent last
        omega
      by_cases nothing : source.ahead = []
      · exact ⟨_, .empty enough quiet nothing⟩
      cases found : catalog.match? raw with
      | none => exact ⟨_, .unmatched enough quiet nothing decoded found⟩
      | some style => exact ⟨_, .matched enough quiet nothing decoded found⟩
  · exact ⟨_, .halted spent meets⟩

/-- Detection comes to exactly one of these, whatever lies ahead, wherever the source stands, and whatever
traps and seeks it has. -/
theorem detects_iff (source : Source) (catalog : Catalog) (detection : Detection) :
    source.Detects catalog detection ↔ source.detect catalog = detection := by
  constructor
  · exact Detects.eq
  · rintro rfl
    obtain ⟨detection, detects⟩ := source.exists_detects catalog
    rw [detects.eq]
    exact detects

end Source
end LeadingComment
