import LeadingComment.Fault

namespace LeadingComment

/-- What can be written to. A write is taken or refused, and has no say in whether colors are shown. -/
class Writer (Target : Type) where
  write : Target → Bytes → Option Fault × Target
  flush : Target → Option Fault × Target
  colored : Target → Bool
  colored_write : ∀ target bytes, colored (write target bytes).2 = colored target

namespace Writer

variable {Target : Type} [Writer Target]

def writeText (target : Target) (text : String) : Option Fault × Target := write target (utf8 text)

/-- Writes piece by piece, and nothing behind the first one that is refused. -/
def writePieces (target : Target) : List String → Option Fault × Target
  | [] => (none, target)
  | piece :: pieces =>
    match writeText target piece with
    | (none, target) => writePieces target pieces
    | refused => refused

theorem writePieces_append (target : Target) (first second : List String) :
    writePieces target (first ++ second) =
      match writePieces target first with
      | (none, target) => writePieces target second
      | refused => refused := by
  induction first generalizing target with
  | nil => rfl
  | cons piece pieces hyp =>
    rw [List.cons_append, writePieces, writePieces]
    rcases writeText target piece with ⟨_ | fault, next⟩
    · exact hyp next
    · rfl

/-- What each write leaves as it is, refused or not, all of them do. -/
theorem writePieces_keeps (Kept : Target → Prop)
    (step : ∀ target text, Kept target → Kept (writeText target text).2) (pieces : List String)
    {target : Target} (start : Kept target) : Kept (writePieces target pieces).2 := by
  induction pieces generalizing target with
  | nil => exact start
  | cons piece pieces hyp =>
    have kept := step target piece start
    rw [writePieces]
    rcases written : writeText target piece with ⟨_ | fault, next⟩ <;> rw [written] at kept
    · exact hyp kept
    · exact kept

theorem colored_writePieces (target : Target) (pieces : List String) :
    colored (writePieces target pieces).2 = colored target := by
  apply writePieces_keeps (fun next => colored next = colored target) _ pieces rfl
  intro next text kept
  exact (colored_write next (utf8 text)).trans kept

end Writer
end LeadingComment
