import LeadingComment.Proofs.FileSequence
import LeadingComment.Proofs.TextAndReports

namespace LeadingComment

namespace Console

/-- A number in decimal between brackets, in at least four places, and a blank. -/
def tag (number : Nat) : String :=
  let digits := Nat.toDigits 10 number
  "[" ++ String.ofList (List.replicate (4 - digits.length) ' ' ++ digits) ++ "] "

theorem join_label (number : Nat) : String.join (label false number) = tag number := by
  have text : (toString number).toList = Nat.toDigits 10 number := Nat.toList_repr
  have pieces : label false number = [numberText number, " "] := rfl
  rw [pieces, numberText, text, tag, List.leftpad]
  simp [String.join_cons, String.append_assoc]

def startOf (numbering : Bool) (number : Nat) : String := if numbering then tag number else ""

theorem join_callPieces_emit (numbering : Bool) (emitted : Nat) (line : String) :
    String.join (callPieces false numbering emitted (.emit line)) =
      startOf numbering (emitted + 1) ++ line ++ "\n" := by
  have ending : String.join [line, "\n"] = line ++ "\n" := by simp
  rw [callPieces, String.join_append, ending, startOf, ← String.append_assoc]
  cases numbering with
  | false => rfl
  | true => rw [if_pos rfl, if_pos rfl, join_label]

theorem join_pieces_lines (numbering : Bool) (emitted : Nat) (lines : List String) (later : List Call) :
    String.join (pieces false numbering emitted (lines.map Call.emit ++ later)) =
      String.join (lines.mapIdx fun index line =>
          startOf numbering (emitted + index + 1) ++ line ++ "\n") ++
        String.join (pieces false numbering (emitted + lines.length) later) := by
  induction lines generalizing emitted with
  | nil => simp
  | cons line lines hyp =>
    have shifted (index : Nat) : emitted + 1 + index = emitted + (index + 1) := by omega
    rw [List.map_cons, List.cons_append, pieces, String.join_append, join_callPieces_emit,
      Call.size, hyp, List.mapIdx_cons, String.join_cons, List.length_cons]
    simp only [shifted, Nat.add_zero, String.append_assoc]

end Console

namespace Files

/-- What is printed for a file if every line starts with what `start` gives for its number. -/
def page (files : Files) (mode : Mode) (banner : Bool) (start : Nat → String) (path : Path) : String :=
  let calls := files.handedOver mode path
  let lines := calls.filterMap Call.line?
  (if banner then bannerText path else "") ++
    String.join (lines.mapIdx fun index line => start (index + 1) ++ line ++ "\n") ++
    (if .separator ∈ calls then "\n" else "")

theorem join_sheet (files : Files) (mode : Mode) (banner numbering : Bool) (path : Path) :
    String.join (files.sheet { mode, banner, numbering } false path) =
      files.page mode banner (Console.startOf numbering) path := by
  simp only [sheet, page]
  rw [String.join_append, join_heading, String.append_assoc]
  obtain ⟨lines, calls | calls⟩ := files.handedOver_cases mode path
  · have written := Console.join_pieces_lines numbering 0 lines []
    rw [List.append_nil] at written
    rw [calls, written, Call.filterMap_line?]
    simp [Console.pieces]
  · have unlined : [Call.separator].filterMap Call.line? = [] := rfl
    rw [calls, Console.join_pieces_lines, List.filterMap_append, Call.filterMap_line?, unlined,
      List.append_nil]
    simp [Console.pieces, Console.callPieces]

theorem utf8_pages (files : Files) (mode : Mode) (banner numbering : Bool) (paths : List Path) :
    utf8 (String.join (paths.flatMap (files.sheet { mode, banner, numbering } false))) =
      utf8 (String.join (paths.map (files.page mode banner (Console.startOf numbering)))) := by
  simp only [utf8_join, List.flatMap_assoc, List.flatMap_map]
  simp only [← utf8_join, join_sheet]

/-- With and without numbers a run ends the same and prints the same pages, for the files up to the first
that fails; only with numbers a line starts with the tag of its number. -/
theorem run_numbered (files : Files) (mode : Mode) (banner : Bool) (paths : List Path) :
    let run (numbering : Bool) := files.run { mode, banner, numbering } paths ({} : Output)
    let printed (start : Nat → String) :=
      utf8 (String.join ((files.reached mode paths).map (files.page mode banner start)))
    (run true).result = (run false).result ∧
      (run false).output.bytes = printed (fun _ => "") ∧
      (run true).output.bytes = printed Console.tag := by
  intro run printed
  obtain ⟨plainResult, plainBytes⟩ := files.run_sheets mode banner false false paths
  obtain ⟨taggedResult, taggedBytes⟩ := files.run_sheets mode banner true false paths
  rw [utf8_pages] at plainBytes taggedBytes
  exact ⟨taggedResult.trans plainResult.symm, plainBytes, taggedBytes⟩

end Files
end LeadingComment
