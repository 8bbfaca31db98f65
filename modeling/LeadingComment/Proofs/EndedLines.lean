import LeadingComment.Proofs.Transcript
import LeadingComment.Stdout

namespace LeadingComment

/-- In one of the pieces a line ends. -/
def EndsLine (pieces : List String) : Prop := ∃ piece ∈ pieces, '\n' ∈ piece.toList

/-- There is nothing to write, or a line is ended. -/
def Lined (pieces : List String) : Prop := pieces = [] ∨ EndsLine pieces

theorem EndsLine.append_left {first : List String} (ends : EndsLine first) (second : List String) :
    EndsLine (first ++ second) := by
  obtain ⟨piece, member, mark⟩ := ends
  exact ⟨piece, List.mem_append_left second member, mark⟩

theorem EndsLine.append_right (first : List String) {second : List String} (ends : EndsLine second) :
    EndsLine (first ++ second) := by
  obtain ⟨piece, member, mark⟩ := ends
  exact ⟨piece, List.mem_append_right first member, mark⟩

theorem Lined.append {first second : List String} (lined : Lined first) (next : Lined second) :
    Lined (first ++ second) := by
  rcases lined with rfl | ends
  · exact next
  · exact .inr (ends.append_left second)

theorem newline_mem_utf8 {text : String} (mark : '\n' ∈ text.toList) : Line.newline ∈ utf8 text := by
  apply List.mem_flatMap.mpr
  exact ⟨'\n', mark, List.mem_singleton.mpr rfl⟩

theorem EndsLine.join_ne_nil {pieces : List String} (ends : EndsLine pieces) :
    utf8 (String.join pieces) ≠ [] := by
  obtain ⟨piece, member, mark⟩ := ends
  obtain ⟨before, after, rfl⟩ := List.mem_iff_append.mp member
  have inside : '\n' ∈ (String.join (before ++ piece :: after)).toList := by simp [mark]
  exact List.ne_nil_of_mem (newline_mem_utf8 inside)

/-- Text in which a line ends meets a device that is full. -/
theorem Stdout.writePieces_full {stdout : Stdout} (full : stdout.device.limit = some 0)
    {pieces : List String} (ends : EndsLine pieces) :
    (Writer.writePieces stdout pieces).1 = some stdout.device.overflow ∧
      (Writer.writePieces stdout pieces).2.device = stdout.device := by
  induction pieces generalizing stdout with
  | nil =>
    obtain ⟨piece, member, _⟩ := ends
    cases member
  | cons piece pieces hyp =>
    obtain ⟨device, outcome⟩ : (Writer.writeText stdout piece).2.device = stdout.device ∧
        ((Writer.writeText stdout piece).1 = none ∧ Line.newline ∉ utf8 piece ∨
          (Writer.writeText stdout piece).1 = some stdout.device.overflow) := write_full full (utf8 piece)
    rw [Writer.writePieces]
    generalize Writer.writeText stdout piece = written at device outcome ⊢
    obtain ⟨refusal, next⟩ := written
    rcases outcome with ⟨rfl, unended⟩ | rfl
    · obtain ⟨other, member, mark⟩ := ends
      have later : EndsLine pieces := by
        rcases List.mem_cons.mp member with rfl | later
        · exact absurd (newline_mem_utf8 mark) unended
        · exact ⟨other, later, mark⟩
      simp only at device ⊢
      rw [← device] at full ⊢
      exact hyp full later
    · exact ⟨rfl, device⟩

namespace Transcript

theorem lined_followedBy {first second : Transcript} (lined : Lined first.pieces)
    (next : Lined second.pieces) : Lined (first.followedBy second).pieces := by
  cases ending : first.ending with
  | error failure =>
    rw [followedBy_of_error ending]
    exact lined
  | ok value =>
    rw [followedBy_of_ok ending]
    exact lined.append next

end Transcript

namespace Console

theorem endsLine_callPieces (colored numbering : Bool) (emitted : Nat) (call : Call) :
    EndsLine (callPieces colored numbering emitted call) := by
  cases call with
  | emit line =>
    apply EndsLine.append_right
    exact ⟨"\n", .tail line (.head _), by decide⟩
  | separator => exact ⟨"\n", .head _, by decide⟩

theorem lined_pieces (colored numbering : Bool) (emitted : Nat) (calls : List Call) :
    Lined (pieces colored numbering emitted calls) := by
  induction calls generalizing emitted with
  | nil => exact .inl rfl
  | cons call calls hyp =>
    have ends := endsLine_callPieces colored numbering emitted call
    exact Lined.append (.inr ends) (hyp (emitted + call.size))

end Console

theorem Console.endsLine_bannerPieces (colored : Bool) (path : Path) :
    EndsLine (bannerPieces colored path) := by
  apply EndsLine.append_right
  exact ⟨"\n", by simp, by decide⟩

theorem Json.newline_mem_lineBreak (level : Nat) : '\n' ∈ (lineBreak level).toList := by
  simp [lineBreak]

/-- The bracket that opens a list ends its line; if the list is empty the document does. -/
theorem Json.endsLine_document (items : List Json) : EndsLine (document (.list items)).pieces := by
  cases items with
  | nil => exact ⟨"\n", by simp [document, render, Draft.put], by decide⟩
  | cons item items =>
    refine ⟨lineBreak 1, ?_, newline_mem_lineBreak 1⟩
    simp [document, render, Draft.put]

namespace Files

theorem lined_fileTranscript (files : Files) (settings : Settings) (colored : Bool) (path : Path) :
    Lined (files.fileTranscript settings colored path).pieces := by
  have heading : Lined (if settings.banner then Console.bannerPieces colored path else []) := by
    cases settings.banner with
    | false => exact .inl rfl
    | true => exact .inr (Console.endsLine_bannerPieces colored path)
  rw [fileTranscript]
  cases files.openPath path with
  | error fault => exact heading
  | ok source => exact heading.append (Console.lined_pieces colored settings.numbering 0 _)

theorem lined_textTranscript (files : Files) (settings : Settings) (colored : Bool) (paths : List Path) :
    Lined (files.textTranscript settings colored paths).pieces := by
  induction paths with
  | nil => exact .inl rfl
  | cons path paths hyp =>
    exact Transcript.lined_followedBy (files.lined_fileTranscript settings colored path) hyp

/-- A run writes nothing or ends a line, whether or not it fails. -/
theorem lined_transcript (files : Files) (settings : Settings) (colored : Bool) (paths : List Path) :
    Lined (files.transcript settings colored paths).pieces := by
  rw [transcript]
  split
  · split
    · exact .inl rfl
    · exact .inr (Json.endsLine_document _)
  · exact files.lined_textTranscript settings colored paths

end Files

end LeadingComment
