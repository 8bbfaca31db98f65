import LeadingComment.CommandLine.Parse
import LeadingComment.Program
import LeadingComment.Proofs.EndedLines

/-! How the program ends. What it prints for arguments that are understood is a transcript, and the exit
tells how writing that has ended (`listNames_eq`, `process_eq`). Every way through the program but one ends
with the code 0 or 1: a report on refused arguments that the output does not take makes it crash. -/
namespace LeadingComment
namespace Program

def endingOf : Option Fault → Except Failure Unit
  | none => .ok ()
  | some fault => .error (.output fault)

def namesTranscript (json : Bool) (names : List String) : Transcript :=
  if json then
    let draft := Json.document (.list (names.map .text))
    { pieces := draft.pieces, ending := endingOf draft.stop }
  else { pieces := names.flatMap fun name => [name, "\n"] }

theorem writeTo_names (json : Bool) (names : List String) (stdout : Stdout) :
    (namesTranscript json names).writeTo stdout =
      let written :=
        if json then Writer.writeNamesJson stdout names else Writer.writeNames stdout names
      (endingOf written.1, written.2) := by
  cases json with
  | false =>
    simp only [namesTranscript, Writer.writeNames, Transcript.writeTo, Bool.false_eq_true, ↓reduceIte]
    rcases Writer.writePieces stdout (names.flatMap fun name => [name, "\n"]) with ⟨_ | fault, next⟩ <;> rfl
  | true =>
    simp only [namesTranscript, Writer.writeNamesJson, Writer.writeDraft, Transcript.writeTo, ↓reduceIte]
    generalize Json.document (.list (names.map .text)) = draft
    rcases Writer.writePieces stdout draft.pieces with ⟨_ | fault, next⟩ <;> rfl

/-- The exit behind what has been written; a failure is told behind the log. -/
def exitWith (log : String) (written : Except Failure Unit × Stdout) : Exit :=
  match written.1 with
  | .ok _ => { code := 0, stdout := written.2.close.bytes, stderr := log }
  | .error failure =>
    { code := 1, stdout := written.2.close.bytes, stderr := log ++ complaint failure.message }

theorem exitWith_code (log : String) (written : Except Failure Unit × Stdout) :
    (exitWith log written).code = 0 ∨ (exitWith log written).code = 1 := by
  obtain ⟨failure | value, stdout⟩ := written
  · exact .inr rfl
  · exact .inl rfl

theorem listNames_eq (stdout : Stdout) (json : Bool) :
    listNames stdout json =
      exitWith "" (Transcript.flushed ((namesTranscript json Catalog.builtin.names).writeTo stdout)) := by
  rw [listNames, writeTo_names]
  generalize (if json then Writer.writeNamesJson stdout Catalog.builtin.names
    else Writer.writeNames stdout Catalog.builtin.names) = written
  obtain ⟨refusal | refusal, next⟩ := written
  · simp only [endingOf, Transcript.flushed]
    rcases Writer.flush next with ⟨_ | fault, last⟩
    · rfl
    · simp only [exitWith, String.empty_append]
  · simp only [endingOf, Transcript.flushed, exitWith, String.empty_append]

def filesTranscript (surroundings : Surroundings) (arguments : CommandLine.Arguments) (directory : Path) :
    Transcript :=
  surroundings.files.transcript (settings arguments)
    (arguments.color.isColored surroundings.environment surroundings.onTerminal)
    (paths surroundings.environment arguments directory)

theorem process_eq (surroundings : Surroundings) (arguments : CommandLine.Arguments) (directory : Path) :
    let output := { surroundings.stdout with
      device.colored := arguments.color.isColored surroundings.environment surroundings.onTerminal }
    ∃ notes, process surroundings arguments directory =
      exitWith ((logFilter surroundings.environment).1.lines surroundings.logStart notes)
        (Transcript.flushed ((filesTranscript surroundings arguments directory).writeTo output)) := by
  intro output
  have told := surroundings.files.run_eq_transcript (settings arguments)
    (paths surroundings.environment arguments directory) output
  change _ = Transcript.flushed ((filesTranscript surroundings arguments directory).writeTo output) at told
  rw [← told]
  exact ⟨_, rfl⟩

section

variable {reader : CommandLine.Reader} {surroundings : Surroundings} {arguments : List Bytes}
  {parsed : CommandLine.Arguments} (accepted : reader.read arguments = .ok parsed)

include accepted

theorem answer_of_listing (listing : parsed.listing = true) :
    answer reader surroundings arguments = listNames surroundings.stdout parsed.json := by
  rw [answer, accepted]
  exact if_pos listing

theorem answer_of_nowhere (reading : parsed.listing ≠ true) (nowhere : surroundings.directory = none) :
    answer reader surroundings arguments =
      { code := 1
        stderr := complaint ("cannot determine current directory: " ++ Fault.missing.message) } := by
  rw [answer, accepted, nowhere]
  exact if_neg reading

theorem answer_of_files {directory : Path} (reading : parsed.listing ≠ true)
    (found : surroundings.directory = some directory) :
    answer reader surroundings arguments = process surroundings parsed directory := by
  rw [answer, accepted, found]
  exact if_neg reading

theorem answer_code_of_read :
    (answer reader surroundings arguments).code = 0 ∨ (answer reader surroundings arguments).code = 1 := by
  by_cases listing : parsed.listing = true
  · rw [answer_of_listing accepted listing, listNames_eq]
    exact exitWith_code _ _
  · cases place : surroundings.directory with
    | none =>
      rw [answer_of_nowhere accepted listing place]
      exact .inr rfl
    | some directory =>
      obtain ⟨notes, same⟩ := process_eq surroundings parsed directory
      rw [answer_of_files accepted listing place, same]
      exact exitWith_code _ _

end

theorem refuse_code (surroundings : Surroundings) (report help : String) :
    (refuse surroundings report help).code =
      if (Writer.writePieces surroundings.stdout (misusePieces report help)).1 = none then 1
      else crashCode := by
  unfold refuse
  rcases Writer.writePieces surroundings.stdout (misusePieces report help) with ⟨_ | fault, next⟩ <;> rfl

/-- A full device does not take a report on refused arguments. -/
theorem writePieces_misuse {stdout : Stdout} (full : stdout.device.limit = some 0) (report help : String) :
    (Writer.writePieces stdout (misusePieces report help)).1 ≠ none := by
  have ends : EndsLine (misusePieces report help) := ⟨"\n", .tail report (.head _), by decide⟩
  rw [(Stdout.writePieces_full full ends).1]
  exact Option.some_ne_none _

theorem code_run (reader : CommandLine.Reader) (surroundings : Surroundings) (arguments : List Bytes) :
    (run reader surroundings arguments).code = (answer reader surroundings arguments).code := rfl

theorem crashCode_ne {code : Nat} (reported : code = 0 ∨ code = 1) : code ≠ crashCode := by
  rcases reported with rfl | rfl <;> decide

section

variable {reader : CommandLine.Reader} {surroundings : Surroundings} {arguments : List Bytes}

theorem run_code_of_refused {report : String} (refused : reader.read arguments = .error (.refuse report)) :
    (run reader surroundings arguments).code =
      if (Writer.writePieces surroundings.stdout (misusePieces report reader.help)).1 = none then 1
      else crashCode := by
  rw [code_run, ← refuse_code, answer, refused]

/-- Whatever goes wrong behind the arguments is reported. -/
theorem run_code_of_fit (fit : ∀ report, reader.read arguments ≠ .error (.refuse report)) :
    (run reader surroundings arguments).code = 0 ∨ (run reader surroundings arguments).code = 1 := by
  rw [code_run]
  cases answered : reader.read arguments with
  | ok parsed => exact answer_code_of_read answered
  | error reply =>
    cases reply with
    | inform text =>
      left
      rw [answer, answered]
      rfl
    | refuse report => exact absurd answered (fit report)

end

/-- Whoever reads the arguments, the program ends with the code 0 or 1, and with 1 if they are refused; but
where they are and the output does not take the report on them, as a full one never does, it crashes. -/
theorem run_code (reader : CommandLine.Reader) (surroundings : Surroundings) (arguments : List Bytes) :
    let exit := run reader surroundings arguments
    ((∀ report, reader.read arguments ≠ .error (.refuse report)) → exit.code = 0 ∨ exit.code = 1) ∧
    (∀ report, reader.read arguments = .error (.refuse report) →
      exit.code =
        if (Writer.writePieces surroundings.stdout (misusePieces report reader.help)).1 = none then 1
        else crashCode) ∧
    (surroundings.stdout.device.limit = none → exit.code = 0 ∨ exit.code = 1) ∧
    (surroundings.stdout.device.limit = some 0 →
      (exit.code = crashCode ↔ ∃ report, reader.read arguments = .error (.refuse report))) := by
  intro exit
  refine ⟨run_code_of_fit, fun _ => run_code_of_refused, ?_, ?_⟩
  · intro unlimited
    by_cases misused : ∃ report, reader.read arguments = .error (.refuse report)
    · obtain ⟨report, refused⟩ := misused
      have taken := (Stdout.writePieces_unlimited unlimited (misusePieces report reader.help)).1
      exact .inr ((run_code_of_refused refused).trans (if_pos taken))
    · exact run_code_of_fit (not_exists.mp misused)
  · intro full
    constructor
    · intro crashed
      apply Classical.byContradiction
      intro fit
      exact crashCode_ne (run_code_of_fit (not_exists.mp fit)) crashed
    · rintro ⟨report, refused⟩
      exact (run_code_of_refused refused).trans (if_neg (writePieces_misuse full report reader.help))

/-- An option that does not exist, and an output that is full. -/
theorem run_code_refused_full :
    let surroundings : Surroundings := {
      directory := some (.ofString "/w")
      files := { openPath := fun _ => .error .missing }
      stdout := .full }
    let arguments := [utf8 "--bogus"]
    let exit := run CommandLine.standard surroundings arguments
    CommandLine.standard.read arguments =
        .error (.refuse (CommandLine.UsageError.unknown "--bogus").report) ∧
      exit.code = 101 ∧ ¬ (exit.code = 0 ∨ exit.code = 1) := by
  intro surroundings arguments exit
  have refused : CommandLine.standard.read arguments =
      .error (.refuse (CommandLine.UsageError.unknown "--bogus").report) := by rfl
  have code : exit.code = 101 :=
    (run_code_of_refused refused).trans (if_neg (writePieces_misuse rfl _ _))
  refine ⟨refused, code, ?_⟩
  rw [code]
  decide

end Program
end LeadingComment
