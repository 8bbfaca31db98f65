import LeadingComment.FileTree
import LeadingComment.Proofs.FileSequence
import LeadingComment.Proofs.ReportReading
import LeadingComment.Proofs.TextAndReports

/-! What a run with reports leaves behind. No file is read once writing has begun, so a file that fails
leaves nothing behind. A path that is no text is found out by writing it, and there the document ends. -/
namespace LeadingComment

/-- The beginning of a document of reports: some of them, and of the next one the key of its path. -/
def IsUnfinishedDocument (reports : List Report) (bytes : Bytes) : Prop :=
  ∃ text : String, bytes = utf8 text ∧
    Json.Spells (.beginList :: Json.Symbol.separated
      ((reports.map Report.json).map Json.symbols ++ [[.beginObject, .text "path", .colon]])) text.toList

theorem Json.not_isListDocument_of_spells {symbols : List Symbol} {symbol : Symbol} {text : String}
    (spells : Spells (symbols ++ [symbol]) text.toList) (inside : symbol ≠ .endList) :
    ¬ IsListDocument (utf8 text) := by
  rintro ⟨items, body, _, whole, same⟩
  have text_eq : text.toList = ("[" ++ body ++ "]" ++ "\n").toList :=
    congrArg String.toList (Utf8.utf8_inj.mp same)
  have complete : Spells (list items).symbols text.toList := by
    rw [text_eq, String.toList_append]
    exact whole.concat_space rfl
  -- Both spell the same text, so they end with the same symbol.
  have last := congrArg List.getLast? (spells.unique complete)
  rw [Json.symbols, List.getLast?_concat, ← List.cons_append, List.getLast?_concat] at last
  exact inside (Option.some.inj last)

theorem IsUnfinishedDocument.not_isListDocument {reports : List Report} {bytes : Bytes}
    (unfinished : IsUnfinishedDocument reports bytes) : ¬ Json.IsListDocument bytes := by
  obtain ⟨text, rfl, spells⟩ := unfinished
  obtain ⟨front, ends⟩ := Json.Symbol.separated_concat
    ((reports.map Report.json).map Json.symbols) [.beginObject, .text "path", .colon]
  have inside : Json.Spells
      ((.beginList :: (front ++ [.beginObject, .text "path"])) ++ [.colon]) text.toList := by
    rw [ends] at spells
    simpa using spells
  exact Json.not_isListDocument_of_spells inside (by simp)

theorem Path.json_of_not_isText {path : Path} (nameless : path.isText = false) :
    path.json = .unwritable .unwritablePath := by
  have undecoded : Utf8.decode? path.bytes = none := by simpa [isText] using nameless
  rw [json, undecoded]

/-- Writing reports stops at the first path that is no text, behind the key of that path. -/
theorem Output.writeReports_stopped {output : Output} (unlimited : output.limit = none)
    (fresh : output.bytes = []) {front : List Report} {report : Report}
    (named : ∀ other ∈ front, other.path.isText = true) (nameless : report.path.isText = false)
    (later : List Report) :
    let written := Writer.writeReports output (front ++ report :: later)
    written.1 = some .unwritablePath ∧ IsUnfinishedDocument front written.2.bytes := by
  intro written
  let fields := ("mode", Json.text report.mode.word) ::
    (report.style.map fun style => ("style", style.json)).toList
      ++ [("lines", .list (report.lines.toList.map .text))]
  have json : report.json = .object (("path", .unwritable .unwritablePath) :: fields) := by
    rw [Report.json, Path.json_of_not_isText nameless]
    rfl
  have items : (front ++ report :: later).map Report.json = front.map Report.json ++
      .object (("path", .unwritable .unwritablePath) :: fields) :: later.map Report.json := by
    rw [List.map_append, List.map_cons, json]
  obtain ⟨stop, spells⟩ :=
    Json.document_stopped (Report.writable_map_json named) "path" .unwritablePath fields
      (later.map Report.json)
  rw [← items] at stop spells
  obtain ⟨refusal, bytes⟩ := writeDraft_unlimited unlimited fresh
    (Json.document (.list ((front ++ report :: later).map Report.json)))
  exact ⟨refusal.trans stop, _, bytes, spells⟩

namespace Files

/-- A file is reported if and only if nothing goes wrong with it. -/
theorem reportFile_cases (files : Files) (mode : Mode) (path : Path) :
    match files.fault? mode path with
    | some fault => (files.reportFile mode path).1 = .error (.file path fault)
    | none => ∃ report, (files.reportFile mode path).1 = .ok report ∧ report.path = path := by
  cases opened : files.openPath path with
  | error fault => simp only [fault?, reportFile, opened]
  | ok source =>
    have ended := plan_of_opened opened mode
    simp only [reportFile, opened, source.process_result, source.process_sink, Report.serve_sink, refusedOr]
    cases failed : files.fault? mode path with
    | none =>
      rw [failed] at ended
      obtain ⟨style, read⟩ := ended
      rw [read]
      exact ⟨_, rfl, rfl⟩
    | some fault =>
      rw [failed] at ended
      rw [ended]
      rfl

theorem reportFiles_of_faultless {files : Files} {mode : Mode} {paths : List Path}
    (faultless : ∀ path ∈ paths, files.fault? mode path = none) :
    ∃ reports, (files.reportFiles mode paths).1 = .ok reports ∧
      List.Forall₂ (fun path report => (files.reportFile mode path).1 = .ok report) paths reports ∧
      reports.map Report.path = paths := by
  induction paths with
  | nil => exact ⟨[], rfl, .nil, rfl⟩
  | cons path paths hyp =>
    obtain ⟨first, later⟩ := List.forall_mem_cons.mp faultless
    have here := files.reportFile_cases mode path
    rw [first] at here
    obtain ⟨report, reported, own⟩ := here
    obtain ⟨reports, collected, each, names⟩ := hyp later
    refine ⟨report :: reports, ?_, .cons reported each, ?_⟩
    · rw [reportFiles_cons, reported, collected]
      rfl
    · rw [List.map_cons, own, names]

theorem reportFiles_of_fault {files : Files} {mode : Mode} {before : List Path}
    (faultless : ∀ earlier ∈ before, files.fault? mode earlier = none) {path : Path} {fault : Fault}
    (failed : files.fault? mode path = some fault) (after : List Path) :
    (files.reportFiles mode (before ++ path :: after)).1 = .error (.file path fault) := by
  induction before with
  | nil =>
    have here := files.reportFile_cases mode path
    rw [failed] at here
    rw [List.nil_append, reportFiles_cons, here]
  | cons earlier before hyp =>
    obtain ⟨first, others⟩ := List.forall_mem_cons.mp faultless
    have here := files.reportFile_cases mode earlier
    rw [first] at here
    obtain ⟨report, reported, _⟩ := here
    rw [List.cons_append, reportFiles_cons, reported, hyp others]
    rfl

theorem run_collected (files : Files) {settings : Settings} (wanted : settings.json = true)
    {paths : List Path} {reports : List Report}
    (collected : (files.reportFiles settings.mode paths).1 = .ok reports) (colored : Bool) :
    let outcome := files.run settings paths ({ colored } : Output)
    let written := Writer.writeReports ({ colored } : Output) reports
    (∀ fault, written.1 = some fault → outcome.result = .error (.output fault)) ∧
      (written.1 = none → outcome.result = .ok ()) ∧ outcome.output.bytes = written.2.bytes := by
  intro outcome written
  obtain ⟨result, bytes⟩ := files.run_unlimited settings paths colored
  rw [transcript, if_pos wanted, collected] at result bytes
  obtain ⟨refusal, stored⟩ : written.1 = _ ∧ written.2.bytes = _ :=
    Output.writeDraft_unlimited rfl rfl (Json.document (.list (reports.map Report.json)))
  rw [refusal]
  refine ⟨?_, ?_, bytes.trans stored.symm⟩
  · intro fault stop
    simpa only [stop] using result
  · intro stop
    simpa only [stop] using result

section

variable {files : Files} {settings : Settings} (wanted : settings.json = true)

include wanted

theorem run_of_named {paths : List Path} (faultless : ∀ path ∈ paths, files.fault? settings.mode path = none)
    (named : ∀ path ∈ paths, path.isText = true) (colored : Bool) :
    let outcome := files.run settings paths ({ colored } : Output)
    outcome.result = .ok () ∧ Json.IsListDocument outcome.output.bytes ∧
      ∃ reports,
        List.Forall₂ (fun path report => (files.reportFile settings.mode path).1 = .ok report) paths reports ∧
        reports.map Report.path = paths ∧
        readReports? outcome.output.bytes = some reports := by
  intro outcome
  obtain ⟨reports, collected, each, own⟩ := reportFiles_of_faultless faultless
  have texts : ∀ report ∈ reports, report.path.isText = true := by
    intro report member
    exact named report.path (own ▸ List.mem_map_of_mem member)
  have unlimited : ({ colored } : Output).limit = none := rfl
  obtain ⟨complete, document, read⟩ := Output.readReports?_writeReports unlimited rfl texts
  obtain ⟨_, ended, bytes⟩ := files.run_collected wanted collected colored
  rw [← bytes] at document read
  exact ⟨ended complete, document, reports, each, own, read⟩

theorem run_of_fault {before : List Path}
    (faultless : ∀ earlier ∈ before, files.fault? settings.mode earlier = none) {path : Path} {fault : Fault}
    (failed : files.fault? settings.mode path = some fault) (after : List Path) (colored : Bool) :
    let outcome := files.run settings (before ++ path :: after) ({ colored } : Output)
    outcome.result = .error (.file path fault) ∧ outcome.output.bytes = [] := by
  have stopped := reportFiles_of_fault faultless failed after
  obtain ⟨result, bytes⟩ := files.run_unlimited settings (before ++ path :: after) colored
  rw [transcript, if_pos wanted, stopped] at result bytes
  exact ⟨result, bytes⟩

/-- The first path that is no text ends the document, although nothing is wrong with the files. -/
theorem run_of_nameless {before : List Path} {path : Path} {after : List Path}
    (faultless : ∀ other ∈ before ++ path :: after, files.fault? settings.mode other = none)
    (named : ∀ earlier ∈ before, earlier.isText = true) (nameless : path.isText = false) (colored : Bool) :
    let outcome := files.run settings (before ++ path :: after) ({ colored } : Output)
    outcome.result = .error (.output .unwritablePath) ∧
      ∃ reports,
        List.Forall₂ (fun path report => (files.reportFile settings.mode path).1 = .ok report) before reports ∧
        IsUnfinishedDocument reports outcome.output.bytes := by
  intro outcome
  obtain ⟨reports, collected, each, own⟩ := reportFiles_of_faultless faultless
  obtain ⟨front, rest, rfl, ownBefore, ownRest⟩ := List.map_eq_append_iff.mp own
  obtain ⟨report, later, rfl, ownPath, _⟩ := List.map_eq_cons_iff.mp ownRest
  have texts : ∀ other ∈ front, other.path.isText = true := by
    intro other member
    exact named other.path (ownBefore ▸ List.mem_map_of_mem member)
  have unlimited : ({ colored } : Output).limit = none := rfl
  obtain ⟨refusal, unfinished⟩ :=
    Output.writeReports_stopped unlimited rfl texts (ownPath ▸ nameless) later
  obtain ⟨failed, _, bytes⟩ := files.run_collected wanted collected colored
  rw [← bytes] at unfinished
  refine ⟨failed _ refusal, front, ?_, unfinished⟩
  have first := List.forall₂_take_append _ front (report :: later) each
  have length : front.length = before.length := by rw [← ownBefore, List.length_map]
  rwa [length, List.take_left] at first

end

/-- A run with reports leaves a whole document with one report for each path, or nothing at all if a file
fails; but if the files can be read and a path is no text, it leaves the beginning of a document. -/
theorem run_reports_document (files : Files) (mode : Mode) (banner numbering colored : Bool)
    (paths : List Path) :
    let outcome := files.run { mode, banner, numbering, json := true } paths ({ colored } : Output)
    ((∀ path ∈ paths, files.fault? mode path = none) → (∀ path ∈ paths, path.isText = true) →
      outcome.result = .ok () ∧ Json.IsListDocument outcome.output.bytes ∧
        ∃ reports,
          List.Forall₂ (fun path report => (files.reportFile mode path).1 = .ok report) paths reports ∧
          reports.map Report.path = paths ∧
          readReports? outcome.output.bytes = some reports) ∧
    (∀ before path after fault, paths = before ++ path :: after →
      (∀ earlier ∈ before, files.fault? mode earlier = none) → files.fault? mode path = some fault →
      outcome.result = .error (.file path fault) ∧ outcome.output.bytes = []) ∧
    ((∀ path ∈ paths, files.fault? mode path = none) →
      ∀ before path after, paths = before ++ path :: after →
      (∀ earlier ∈ before, earlier.isText = true) → path.isText = false →
      outcome.result = .error (.output .unwritablePath) ∧ ¬ Json.IsListDocument outcome.output.bytes ∧
        ∃ reports,
          List.Forall₂ (fun path report => (files.reportFile mode path).1 = .ok report) before reports ∧
          IsUnfinishedDocument reports outcome.output.bytes) := by
  intro outcome
  let settings : Settings := { mode, banner, numbering, json := true }
  have wanted : settings.json = true := rfl
  refine ⟨?_, ?_, ?_⟩
  · intro faultless named
    exact run_of_named wanted faultless named colored
  · rintro before path after fault rfl faultless failed
    exact run_of_fault wanted faultless failed after colored
  · rintro faultless before path after rfl named nameless
    obtain ⟨failed, reports, each, unfinished⟩ :=
      run_of_nameless wanted faultless named nameless colored
    exact ⟨failed, unfinished.not_isListDocument, reports, each, unfinished⟩

/-- A file is there and can be read, but its name is no text. -/
theorem run_reports_document_unwritable :
    let name : Bytes := [0xff]
    let tree : FileTree := { root := .ofString "/w", entries := [([name], .file (utf8 "x\n"))] }
    let outcome := (tree.files (.inside [])).run { mode := .cat, json := true } [⟨name⟩] ({} : Output)
    outcome.result = .error (.output .unwritablePath) ∧
      outcome.output.bytes = utf8 "[\n  \x7b\n    \"path\": " ∧
      ¬ (outcome.result = .ok () ∧ Json.IsListDocument outcome.output.bytes ∨
        (∃ failure, outcome.result = .error failure) ∧ outcome.output.bytes = []) := by
  intro name tree outcome
  have failed : outcome.result = .error (.output .unwritablePath) := by decide
  have begun : outcome.output.bytes = utf8 "[\n  \x7b\n    \"path\": " := by decide
  refine ⟨failed, begun, ?_⟩
  rintro (⟨complete, _⟩ | ⟨_, empty⟩)
  · rw [failed] at complete
    cases complete
  · rw [begun] at empty
    cases empty

end Files
end LeadingComment
