import LeadingComment.FileTree
import LeadingComment.Proofs.ExitCode

/-! What the program does if its output is full. Whatever it prints, it ends a line before anything else can
go wrong, so that a full output is told by the first line at the latest, and is all that is told. -/
namespace LeadingComment

namespace Program

theorem lined_namesTranscript (json : Bool) (names : List String) :
    Lined (namesTranscript json names).pieces := by
  cases json with
  | true => exact .inr (Json.endsLine_document _)
  | false =>
    cases names with
    | nil => exact .inl rfl
    | cons name names => exact .inr ⟨"\n", .tail name (.head _), by decide⟩

theorem lines_standard (start : String) (notes : List Note) : LogFilter.standard.lines start notes = "" := by
  have hidden : ∀ note : Note, LogFilter.standard.shows note = false := by
    intro note
    rfl
  rw [LogFilter.lines, LogFilter.shownAmong_eq_filter, List.filter_eq_nil_iff.mpr]
  · rfl
  · intro note _
    rw [hidden note]
    exact Bool.false_ne_true

theorem run_eq_answer (reader : CommandLine.Reader) {surroundings : Surroundings} (arguments : List Bytes)
    (silent : surroundings.environment.logFilter = none) :
    run reader surroundings arguments = answer reader surroundings arguments := by
  have harmless : (logFilter surroundings.environment).2 = [] := by rw [logFilter, silent]; rfl
  rw [run, harmless]
  simp [warningText]

theorem exitWith_stdout (log : String) (written : Except Failure Unit × Stdout) :
    (exitWith log written).stdout = written.2.close.bytes := by
  obtain ⟨failure | value, stdout⟩ := written <;> rfl

/-- The exit behind a transcript that is written to a device, where nothing is logged. -/
def exitOf (transcript : Transcript) (device : Output) : Exit :=
  exitWith "" (Transcript.flushed (transcript.writeTo ({ device } : Stdout)))

theorem stdout_exitOf (transcript : Transcript) {device : Output} (fresh : device.bytes = [])
    (unlimited : device.limit = none) (steady : device.flushFault = none) :
    (exitOf transcript device).stdout = transcript.bytes := by
  let start : Stdout := { device }
  have nothing : start.taken = [] := by rw [Stdout.taken, fresh]; rfl
  have free : start.device.limit = none := unlimited
  obtain ⟨accepted, taken⟩ := Stdout.writePieces_unlimited free transcript.pieces
  obtain ⟨stored, kept⟩ := start.writePieces_device transcript.pieces
  rw [exitOf, exitWith_stdout, Transcript.writeTo]
  rcases written : Writer.writePieces start transcript.pieces with ⟨refusal, next⟩
  rw [written] at accepted taken kept
  cases accepted
  have still : next.device.limit = none := (congrArg Output.limit kept).trans unlimited
  rw [nothing] at taken
  cases transcript.ending with
  | error failure => exact (Stdout.bytes_close_unlimited still).trans taken
  | ok value =>
    obtain ⟨harmless, closed⟩ := Stdout.flush_unlimited still
    have quiet : (Writer.flush next).1 = none := harmless.trans ((congrArg Output.flushFault kept).trans steady)
    simp only [Transcript.flushed]
    rcases flushed : Writer.flush next with ⟨fault, last⟩
    rw [flushed] at quiet closed
    cases quiet
    exact closed.trans taken

/-- A full device takes nothing and is what the program ends with, if a line ends at all. -/
theorem exitOf_full {transcript : Transcript} (ends : EndsLine transcript.pieces) (colored : Bool) :
    exitOf transcript { Output.full with colored } =
      { code := 1, stderr := complaint (Failure.output .noSpace).message } := by
  let start : Stdout := { device := { Output.full with colored } }
  have full : start.device.limit = some 0 := rfl
  obtain ⟨refused, same⟩ := Stdout.writePieces_full full ends
  rw [exitOf, Transcript.writeTo]
  rcases written : Writer.writePieces start transcript.pieces with ⟨refusal, next⟩
  rw [written] at refused same
  cases refused
  have nothing : next.close.bytes = [] := by
    rw [Stdout.close, same, Output.write_full rfl]
    rfl
  simp only [Transcript.flushed, exitWith, nothing, String.empty_append]
  rfl

theorem exitOf_nothing {transcript : Transcript} (nothing : transcript.pieces = []) (colored : Bool) :
    exitOf transcript { Output.full with colored } = exitOf transcript { colored } := by
  obtain ⟨pieces, ending⟩ := transcript
  cases nothing
  cases ending <;> rfl

theorem process_silent {surroundings : Surroundings} (arguments : CommandLine.Arguments)
    (directory : Path) (silent : surroundings.environment.logFilter = none) (device : Output) :
    process { surroundings with stdout := { device } } arguments directory =
      exitOf (filesTranscript surroundings arguments directory)
        { device with
          colored := arguments.color.isColored surroundings.environment surroundings.onTerminal } := by
  obtain ⟨notes, same⟩ := process_eq { surroundings with stdout := { device } } arguments directory
  have standard : (logFilter surroundings.environment).1 = .standard := by rw [logFilter, silent]; rfl
  rw [same, standard, lines_standard]
  rfl

/-- Arguments that are understood are answered by a transcript in which a line ends if it is not empty,
unless there is no directory to work in. -/
theorem answer_lined {reader : CommandLine.Reader} {surroundings : Surroundings} {arguments : List Bytes}
    {parsed : CommandLine.Arguments} (accepted : reader.read arguments = .ok parsed)
    (silent : surroundings.environment.logFilter = none) :
    let normal := answer reader { surroundings with stdout := {} } arguments
    let full := answer reader { surroundings with stdout := .full } arguments
    (normal.stdout = [] ∧ full = normal) ∨
      ∃ (transcript : Transcript) (colored : Bool), Lined transcript.pieces ∧
        normal = exitOf transcript { colored } ∧ full = exitOf transcript { Output.full with colored } := by
  intro normal full
  by_cases listing : parsed.listing = true
  · have listed (stdout : Stdout) : answer reader { surroundings with stdout } arguments =
        listNames stdout parsed.json := answer_of_listing accepted listing
    refine .inr ⟨_, false, lined_namesTranscript parsed.json Catalog.builtin.names, ?_, ?_⟩
    · exact (listed {}).trans (listNames_eq {} parsed.json)
    · exact (listed .full).trans (listNames_eq .full parsed.json)
  · cases place : surroundings.directory with
    | none =>
      have lost (stdout : Stdout) : answer reader { surroundings with stdout } arguments =
          { code := 1
            stderr := complaint ("cannot determine current directory: " ++ Fault.missing.message) } :=
        answer_of_nowhere accepted listing place
      exact .inl ⟨congrArg Exit.stdout (lost {}), (lost .full).trans (lost {}).symm⟩
    | some directory =>
      have processed (stdout : Stdout) : answer reader { surroundings with stdout } arguments =
          process { surroundings with stdout } parsed directory :=
        answer_of_files accepted listing place
      refine .inr ⟨filesTranscript surroundings parsed directory,
        parsed.color.isColored surroundings.environment surroundings.onTerminal,
        Files.lined_transcript _ _ _ _, (processed {}).trans ?_, (processed .full).trans ?_⟩
      · exact process_silent parsed directory silent {}
      · exact process_silent parsed directory silent .full

/-- A full output changes nothing where nothing is printed. Where something is, a line ends before anything
else goes wrong, and the output is what the program ends with and all that it reports, whatever else is in
store for it. -/
theorem run_full (reader : CommandLine.Reader) (surroundings : Surroundings) {arguments : List Bytes}
    {parsed : CommandLine.Arguments} (accepted : reader.read arguments = .ok parsed)
    (silent : surroundings.environment.logFilter = none) :
    let normal := run reader { surroundings with stdout := {} } arguments
    let full := run reader { surroundings with stdout := .full } arguments
    (normal.stdout = [] → full = normal) ∧
      (normal.stdout ≠ [] →
        full.code = 1 ∧ full.stdout = [] ∧
          full.stderr = "headcomment: error writing output: No space left on device (os error 28)\n") := by
  intro normal full
  have told (stdout : Stdout) : run reader { surroundings with stdout } arguments =
      answer reader { surroundings with stdout } arguments := run_eq_answer reader arguments silent
  have normal_eq : normal = _ := told {}
  have full_eq : full = _ := told .full
  rcases answer_lined accepted silent with ⟨empty, same⟩ | ⟨transcript, colored, lined, whole, cut⟩
  · rw [← normal_eq] at empty
    refine ⟨fun _ => ?_, fun written => absurd empty written⟩
    rw [full_eq, same, normal_eq]
  · have stdout : normal.stdout = transcript.bytes := by
      rw [normal_eq, whole]
      exact stdout_exitOf transcript rfl rfl rfl
    rw [stdout]
    rcases lined with nothing | ends
    · refine ⟨fun _ => ?_, fun written => absurd (by rw [Transcript.bytes, nothing]; rfl) written⟩
      rw [full_eq, normal_eq, whole, cut]
      exact exitOf_nothing nothing colored
    · refine ⟨fun empty => absurd empty ends.join_ne_nil, fun _ => ?_⟩
      rw [full_eq, cut, exitOf_full ends]
      exact ⟨rfl, rfl, by decide⟩

/-- The second file is missing, which nobody hears of if the first one cannot be printed. -/
theorem run_full_missing_file :
    let tree : FileTree := { root := .ofString "/w", entries := [([utf8 "a.c"], .file (utf8 "int x;\n"))] }
    let surroundings : Surroundings :=
      { directory := some (.ofString "/w"), files := tree.files (.inside []) }
    let arguments := [utf8 "-c", utf8 "a.c", utf8 "missing"]
    let normal := run CommandLine.standard { surroundings with stdout := {} } arguments
    let full := run CommandLine.standard { surroundings with stdout := .full } arguments
    CommandLine.standard.read arguments =
        .ok { files := [⟨utf8 "a.c"⟩, ⟨utf8 "missing"⟩], cat := true } ∧
      surroundings.environment.logFilter = none ∧
      normal.stderr = "headcomment: /w/missing: No such file or directory (os error 2)\n" ∧
      normal.stdout ≠ [] ∧ full.code = 1 ∧ full.stdout = [] ∧
      full.stderr = "headcomment: error writing output: No space left on device (os error 28)\n" := by
  intro tree surroundings arguments normal full
  have accepted : CommandLine.standard.read arguments =
      .ok { files := [⟨utf8 "a.c"⟩, ⟨utf8 "missing"⟩], cat := true } := by rfl
  have missing : normal.stderr = "headcomment: /w/missing: No such file or directory (os error 2)\n" := by
    decide
  have written : normal.stdout ≠ [] := by decide
  obtain ⟨code, stdout, stderr⟩ := (run_full CommandLine.standard surroundings accepted rfl).2 written
  exact ⟨accepted, rfl, missing, written, code, stdout, stderr⟩

end Program
end LeadingComment
