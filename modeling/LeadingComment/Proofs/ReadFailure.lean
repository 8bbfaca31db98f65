import LeadingComment.Proofs.Plan
import LeadingComment.Proofs.Reading
import Mathlib.Data.List.TakeWhile

namespace LeadingComment

/-- Learning the position, reading the first line, or restoring the position fails. -/
inductive Source.DetectionFails (source : Source) : Fault → Prop where
  | locate (spent : source.spendSeek? = none) : DetectionFails source .seekFailed
  | read {located : Source} {fault : Fault} {place : Place}
      (position : source.spendSeek? = some located)
      (unread : located.firstLine = .error (fault, place)) : DetectionFails source fault
  | restore {located : Source} {line : Option (List Char)} {place : Place}
      (position : source.spendSeek? = some located) (read : located.firstLine = .ok (line, place))
      (spent : (located.moveTo place).spendSeek? = none) : DetectionFails source .seekFailed

/-- A seek or a read that a mode asks for fails, provided that no line is refused before. -/
inductive Source.Fails (source : Source) (catalog : Catalog) : Mode → Fault → Prop where
  | cat {fault : Fault} {place : Place} (ending : source.reading.ending = .failed fault place) :
      Fails source catalog .cat fault
  | head {count : Nat} {fault : Fault} {place : Place} (few : source.reading.lines.length < count)
      (ending : source.reading.ending = .failed fault place) :
      Fails source catalog (.head count) fault
  | detection {fault : Fault} (failed : source.DetectionFails fault) :
      Fails source catalog .comment fault
  | extraction {style : Style} {fault : Fault} {place : Place}
      (detected : (source.detect catalog).result = .ok (some style))
      (taken : ∀ line ∈ (source.detect catalog).source.reading.lines,
        (Choice.comment style).verdict line = .take)
      (ending : (source.detect catalog).source.reading.ending = .failed fault place) :
      Fails source catalog .comment fault

namespace Selection

theorem head_failed_iff (count : Nat) (start : Place) (reading : Reading) (fault : Fault)
    (place : Place) :
    (head count start reading).ending = .failed fault place ↔
      reading.lines.length < count ∧ reading.ending = .failed fault place := by
  rw [head]
  split
  next few => simp [few, all]
  next many => simp [many]

private theorem not_all_of_dropWhile {Item : Type} {keep : Item → Bool} {items later : List Item} {first : Item}
    (rest : items.dropWhile keep = first :: later) : ¬ ∀ item ∈ items, keep item = true := by
  intro all
  rw [List.dropWhile_eq_nil_iff.mpr all] at rest
  cases rest

private theorem whileContinued_failed_iff (opening : String) (reading : Reading) (fault : Fault)
    (place : Place) :
    (whileContinued opening reading).ending = .failed fault place ↔
      (∀ taken ∈ reading.lines, Choice.continues opening taken = true) ∧
        reading.ending = .failed fault place := by
  rw [whileContinued]
  split
  next none => simpa [all] using fun _ => List.dropWhile_eq_nil_iff.mp none
  next stopper later rest =>
    simp [not_all_of_dropWhile rest]

private theorem untilClosed_failed_iff (style : Style) (closing : String) (reading : Reading)
    (fault : Fault) (place : Place) :
    (untilClosed style closing reading).ending = .failed fault place ↔
      (∀ taken ∈ reading.lines, Choice.closes closing taken = false) ∧
        reading.ending = .failed fault place := by
  rw [untilClosed]
  split
  next none =>
    have unclosed : ∀ taken ∈ reading.lines, Choice.closes closing taken = false := by
      simpa using List.dropWhile_eq_nil_iff.mp none
    cases ended : reading.ending with
    | complete place => simp [ended]
    | failed fault place => simpa [all, ended] using fun _ _ => unclosed
  next closer later rest =>
    have closed : ¬ ∀ taken ∈ reading.lines, Choice.closes closing taken = false := by
      simpa using not_all_of_dropWhile rest
    simp [closed]

/-- Extraction meets a failure only behind lines that all leave the comment open. -/
theorem comment_failed_iff (style : Style) (reading : Reading) (fault : Fault) (place : Place) :
    (comment style reading).ending = .failed fault place ↔
      (∀ taken ∈ reading.lines, (Choice.comment style).verdict taken = .take) ∧
        reading.ending = .failed fault place := by
  unfold comment Choice.comment
  cases style.delimiters with
  | line opening => simp [whileContinued_failed_iff, Choice.whileContinued]
  | block opening closing => simp [untilClosed_failed_iff, Choice.untilClosed]

end Selection

namespace Source

theorem spendSeek?_some {source next : Source} (spent : source.spendSeek? = some next) :
    next.data = source.data ∧ next.position = source.position ∧ next.traps = source.traps := by
  unfold spendSeek? at spent
  split at spent
  · cases spent
    exact ⟨rfl, rfl, rfl⟩
  · cases spent
  · cases spent
    exact ⟨rfl, rfl, rfl⟩

theorem detect_ok {source : Source} {catalog : Catalog} {found : Option Style}
    (detected : (source.detect catalog).result = .ok found) :
    (source.detect catalog).source.data = source.data ∧
      (source.detect catalog).source.position = source.position := by
  unfold detect at detected ⊢
  split at detected
  · cases detected
  next located position =>
    split at detected
    · cases detected
    next line place read =>
      simp only at detected ⊢
      split at detected
      · cases detected
      next restored spent =>
        have same := (spendSeek?_some spent).1.trans (spendSeek?_some position).1
        exact ⟨same, rfl⟩

theorem detect_error_iff (source : Source) (catalog : Catalog) (fault : Fault) :
    (source.detect catalog).result = .error fault ↔ source.DetectionFails fault := by
  constructor
  · intro failed
    unfold detect at failed
    split at failed
    next spent =>
      cases failed
      exact .locate spent
    next located position =>
      split at failed
      next fault place unread =>
        cases failed
        exact .read position unread
      next line place read =>
        simp only at failed
        split at failed
        next spent =>
          cases failed
          exact .restore position read spent
        next => cases failed
  · intro failed
    cases failed with
    | locate spent => simp [detect, spent]
    | read position unread => simp [detect, position, unread]
    | restore position read spent => simp [detect, position, read, spent]

private theorem plan_comment_failed_iff (source : Source) (catalog : Catalog) (fault : Fault) :
    (source.plan catalog .comment).result = .error (.read fault) ↔
      source.Fails catalog .comment fault := by
  have failing := source.detect_error_iff catalog
  simp only [plan]
  cases detected : (source.detect catalog).result with
  | error other =>
    simp only [Plan.result, Ending.result, Except.error.injEq, StreamFault.read.injEq]
    constructor
    · rintro rfl
      exact .detection ((failing other).mp detected)
    · intro fails
      cases fails with
      | detection failed =>
        have same := (failing fault).mpr failed
        rw [detected] at same
        exact Except.error.inj same
      | extraction found =>
        rw [detected] at found
        cases found
  | ok found =>
    have unfailing : ¬ source.DetectionFails fault := by
      intro failed
      have same := (failing fault).mpr failed
      rw [detected] at same
      cases same
    cases found with
    | none =>
      simp only [Plan.result, reduceCtorEq, false_iff]
      intro fails
      cases fails with
      | detection failed => exact unfailing failed
      | extraction other =>
        rw [detected] at other
        cases other
    | some style =>
      simp only [Plan.result, Ending.result_eq_read_iff, Selection.comment_failed_iff]
      constructor
      · rintro ⟨place, taken, ending⟩
        exact .extraction detected taken ending
      · intro fails
        cases fails with
        | detection failed => exact absurd failed unfailing
        | extraction other taken ending =>
          rw [detected] at other
          cases other
          exact ⟨_, taken, ending⟩

/-- What a plan meets in the end is what fails. -/
theorem plan_failed_iff (source : Source) (catalog : Catalog) (mode : Mode) (fault : Fault) :
    (source.plan catalog mode).result = .error (.read fault) ↔ source.Fails catalog mode fault := by
  cases mode with
  | comment => exact source.plan_comment_failed_iff catalog fault
  | cat =>
    rw [plan, Plan.result, Ending.result_eq_read_iff]
    constructor
    · rintro ⟨place, ending⟩
      exact .cat ending
    · rintro ⟨ending⟩
      exact ⟨_, ending⟩
  | head count =>
    simp only [plan, Plan.result, Ending.result_eq_read_iff, Selection.head_failed_iff]
    constructor
    · rintro ⟨place, few, ending⟩
      exact .head few ending
    · intro fails
      cases fails with
      | head few ending => exact ⟨_, few, ending⟩

end Source
end LeadingComment
