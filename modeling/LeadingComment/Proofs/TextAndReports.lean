import LeadingComment.Proofs.Transcript
import Mathlib.Data.List.Forall2

namespace LeadingComment

namespace Call

def plain : Call → List String
  | emit line => [line, "\n"]
  | separator => ["\n"]

def line? : Call → Option String
  | emit line => some line
  | separator => none

theorem join_plain (lines : List String) :
    String.join ((lines.map emit).flatMap plain) = String.join (lines.map (· ++ "\n")) := by
  induction lines with
  | nil => rfl
  | cons line lines hyp =>
    rw [List.map_cons, List.flatMap_cons, String.join_append, hyp, List.map_cons, String.join_cons]
    simp [plain]

theorem filterMap_line? (lines : List String) : (lines.map emit).filterMap line? = lines := by
  rw [List.filterMap_map]
  exact List.filterMap_some

end Call

theorem Console.pieces_plain (emitted : Nat) (calls : List Call) :
    pieces false false emitted calls = calls.flatMap Call.plain := by
  induction calls generalizing emitted with
  | nil => rfl
  | cons call calls hyp =>
    rw [pieces, hyp, List.flatMap_cons]
    cases call <;> rfl

theorem Report.serve_sink (report : Report) (calls : List Call) :
    sink.serve report calls =
      (none, { report with lines := report.lines ++ calls.filterMap Call.line? }) := by
  induction calls generalizing report with
  | nil => simp [Sink.serve]
  | cons call calls hyp =>
    cases call with
    | separator => exact hyp report
    | emit line =>
      have taken := hyp { report with lines := report.lines.push line }
      refine Eq.trans taken ?_
      simp [Call.line?]

namespace Source

/-- Whatever is detected, a separator follows the lines in the modes that go without detection. -/
private theorem plan_style {source : Source} {catalog : Catalog} {mode : Mode}
    (chosen : (source.plan catalog mode).selection ≠ none)
    (read : (source.plan catalog mode).result = .ok (source.plan catalog mode).style) :
    mode ≠ .comment ∨ (source.plan catalog mode).style ≠ none := by
  cases mode with
  | cat => exact .inl (by simp)
  | head count => exact .inl (by simp)
  | comment =>
    right
    simp only [plan] at chosen read ⊢
    cases detected : (source.detect catalog).result with
    | error fault =>
      rw [detected] at read
      cases read
    | ok found =>
      rw [detected] at chosen
      cases found with
      | none => exact absurd rfl chosen
      | some style => simp

/-- Reading fails, or there are lines and behind them a separator. There is none if a comment was
wanted and not found. -/
theorem plan_calls (source : Source) (catalog : Catalog) (mode : Mode) :
    (∃ fault, (source.plan catalog mode).result = .error (.read fault)) ∨
      ∃ (style : Option Style) (lines : List String), (source.plan catalog mode).result = .ok style ∧
        (source.plan catalog mode).calls = lines.map Call.emit ++
          if mode ≠ .comment ∨ style ≠ none then [.separator] else [] := by
  obtain ⟨lines, ⟨calls, failed | ⟨idle, rfl, read⟩⟩ | ⟨calls, read⟩⟩ :=
    (source.plan catalog mode).calls_cases
  · exact .inl failed
  · have wanted := ((source.plan_idle_iff catalog mode).mp idle).1
    exact .inr ⟨none, [], read, by simpa [wanted] using calls⟩
  · have chosen : (source.plan catalog mode).selection ≠ none := by
      intro idle
      rw [Plan.calls, idle] at calls
      simp at calls
    exact .inr ⟨_, lines, read, by rw [calls, if_pos (plan_style chosen read)]⟩

end Source

namespace Files

def bannerText (path : Path) : String :=
  "************************************************************\n*** " ++ path.display ++ "\n\n"

/-- What is printed for a file of which there is a report. -/
def printed (banner : Bool) (mode : Mode) (path : Path) (report : Report) : String :=
  (if banner then bannerText path else "")
    ++ String.join (report.lines.toList.map (· ++ "\n"))
    ++ (if mode ≠ .comment ∨ report.style ≠ none then "\n" else "")

theorem join_bannerPieces (path : Path) :
    String.join (Console.bannerPieces false path) = bannerText path := by
  have pieces : Console.bannerPieces false path =
      [String.ofList (List.replicate 60 '*'), "\n", "*** "] ++ [path.display, "\n", "\n"] := rfl
  have heading : String.join [String.ofList (List.replicate 60 '*'), "\n", "*** "] =
      "************************************************************\n*** " := by
    decide
  have blank : String.join ["\n", "\n"] = "\n\n" := by decide
  rw [pieces, String.join_append, heading, String.join_cons, blank]
  exact (String.append_assoc ..).symm

theorem join_heading (banner : Bool) (path : Path) :
    String.join (if banner then Console.bannerPieces false path else []) =
      if banner then bannerText path else "" := by
  cases banner with
  | false => rfl
  | true => exact join_bannerPieces path

/-- One file fails in both ways or in none, and its text is told by its report. -/
theorem fileTranscript_cases (files : Files) (mode : Mode) (banner : Bool) (path : Path) :
    let transcript := files.fileTranscript { mode, banner } false path
    (∃ fault, (files.reportFile mode path).1 = .error (.file path fault) ∧
        transcript.ending = .error (.file path fault)) ∨
      ∃ report, (files.reportFile mode path).1 = .ok report ∧ transcript.ending = .ok () ∧
        String.join transcript.pieces = printed banner mode path report := by
  intro transcript
  simp only [transcript, fileTranscript, reportFile]
  cases files.openPath path with
  | error fault => exact .inl ⟨fault, rfl, rfl⟩
  | ok source =>
    simp only [source.process_result, source.process_sink, Report.serve_sink, refusedOr]
    rcases source.plan_calls .builtin mode with ⟨fault, failed⟩ | ⟨style, lines, read, calls⟩
    · left
      rw [failed]
      exact ⟨fault, rfl, rfl⟩
    · right
      have taken : (source.plan .builtin mode).calls.filterMap Call.line? = lines := by
        rw [calls, List.filterMap_append, Call.filterMap_line?]
        split <;> simp [Call.line?]
      have closing : String.join ((if mode ≠ .comment ∨ style ≠ none then [Call.separator]
          else []).flatMap Call.plain) = if mode ≠ .comment ∨ style ≠ none then "\n" else "" := by
        split <;> rfl
      rw [read, taken]
      refine ⟨{ path, mode := mode.reportMode, style, lines := lines.toArray }, ?_, rfl, ?_⟩
      · simp [Except.map, Except.mapError]
      · rw [Console.pieces_plain, calls, String.join_append, join_heading, List.flatMap_append,
          String.join_append, Call.join_plain, closing, printed, ← String.append_assoc]

theorem reportFiles_cons (files : Files) (mode : Mode) (path : Path) (paths : List Path) :
    (files.reportFiles mode (path :: paths)).1 =
      match (files.reportFile mode path).1 with
      | .error failure => .error failure
      | .ok report => (files.reportFiles mode paths).1.map (report :: ·) := by
  rw [reportFiles]
  rcases files.reportFile mode path with ⟨failure | report, notes⟩ <;> rfl

/-- The files that are printed and those that are reported are the same, up to the first that fails. -/
theorem textTranscript_cases (files : Files) (mode : Mode) (banner : Bool) (paths : List Path) :
    let transcript := files.textTranscript { mode, banner } false paths
    (∃ path fault, (files.reportFiles mode paths).1 = .error (.file path fault) ∧
        transcript.ending = .error (.file path fault)) ∨
      ∃ reports, (files.reportFiles mode paths).1 = .ok reports ∧
        List.Forall₂ (fun path report => (files.reportFile mode path).1 = .ok report) paths reports ∧
        transcript.ending = .ok () ∧
        String.join transcript.pieces =
          String.join (List.zipWith (printed banner mode) paths reports) := by
  induction paths with
  | nil => exact .inr ⟨[], rfl, .nil, rfl, rfl⟩
  | cons path paths hyp =>
    rw [textTranscript, reportFiles_cons]
    rcases files.fileTranscript_cases mode banner path with
      ⟨fault, reported, ending⟩ | ⟨report, reported, ending, text⟩
    · rw [reported, Transcript.followedBy_of_error ending]
      exact .inl ⟨path, fault, rfl, ending⟩
    · rw [reported, Transcript.followedBy_of_ok ending]
      rcases hyp with ⟨other, fault, failed, later⟩ | ⟨reports, collected, each, later, texts⟩
      · rw [failed]
        exact .inl ⟨other, fault, rfl, later⟩
      · rw [collected]
        refine .inr ⟨report :: reports, rfl, .cons reported each, later, ?_⟩
        rw [String.join_append, text, texts, List.zipWith_cons_cons, String.join_cons]

private theorem run_reports {files : Files} (settings : Settings) {paths : List Path}
    {reports : List Report} (wanted : settings.json = true)
    (collected : (files.reportFiles settings.mode paths).1 = .ok reports) (output : Output) :
    (files.run settings paths output).output = (Writer.writeReports output reports).2 ∧
      ∀ path fault, (files.run settings paths output).result ≠ .error (.file path fault) := by
  rcases gathered : files.reportFiles settings.mode paths with ⟨result, notes⟩
  rw [gathered] at collected
  cases collected
  rw [run, if_pos wanted, gathered]
  simp only
  constructor
  · exact flush_output _
  · intro path fault blamed
    have before := flush_blames blamed
    cases refused : (Writer.writeReports output reports).1 with
    | none =>
      rw [refused] at before
      cases before
    | some refusal =>
      rw [refused] at before
      cases before

/-- Text and reports agree. They fail for the same file, and then no report is written; where no file
fails, the text is printed in full, and the reports tell what it is. -/
theorem run_text_reports (files : Files) (mode : Mode) (banner : Bool) (paths : List Path) :
    let text := files.run { mode, banner } paths ({} : Output)
    let json := files.run { mode, banner, json := true } paths ({} : Output)
    (∀ path fault, text.result = .error (.file path fault) ↔ json.result = .error (.file path fault)) ∧
      (∀ path fault, json.result = .error (.file path fault) → json.output.bytes = []) ∧
      ((∀ path fault, json.result ≠ .error (.file path fault)) →
        ∃ reports,
          List.Forall₂ (fun path report => (files.reportFile mode path).1 = .ok report) paths reports ∧
          json.output = (Writer.writeReports ({} : Output) reports).2 ∧
          text.result = .ok () ∧
          text.output.bytes = utf8 (String.join (List.zipWith (printed banner mode) paths reports))) := by
  intro text json
  obtain ⟨textResult, textBytes⟩ := files.run_plain { mode, banner } paths
  rcases files.textTranscript_cases mode banner paths with
    ⟨path, fault, failed, ending⟩ | ⟨reports, collected, each, ending, texts⟩
  · obtain ⟨jsonResult, jsonBytes⟩ := files.run_plain { mode, banner, json := true } paths
    simp only [transcript, ↓reduceIte, failed] at jsonResult jsonBytes
    have same : text.result = json.result := (textResult.trans ending).trans jsonResult.symm
    refine ⟨fun path fault => by rw [same], fun _ _ _ => jsonBytes, ?_⟩
    intro blameless
    exact absurd jsonResult (blameless path fault)
  · obtain ⟨written, blameless⟩ := run_reports { mode, banner, json := true } rfl collected {}
    have ended : text.result = .ok () := textResult.trans ending
    refine ⟨?_, ?_, ?_⟩
    · intro path fault
      rw [ended]
      constructor
      · intro failed
        cases failed
      · intro failed
        exact absurd failed (blameless path fault)
    · intro path fault failed
      exact absurd failed (blameless path fault)
    · intro _
      refine ⟨reports, each, written, ended, ?_⟩
      rw [← texts]
      exact textBytes

end Files
end LeadingComment
