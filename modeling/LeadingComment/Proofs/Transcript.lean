import LeadingComment.Output
import LeadingComment.Proofs.Plan
import LeadingComment.Run

/-! What a run writes and how it ends, told apart from the output. A transcript holds the pieces of text
in order and the ending that follows if the output takes them all; a run writes its transcript
(`run_eq_transcript`). -/
namespace LeadingComment

open Writer (writePieces colored)

structure Transcript where
  pieces : List String := []
  ending : Except Failure Unit := .ok ()

namespace Transcript

/-- The second follows only where the first ends well. -/
def followedBy (first second : Transcript) : Transcript :=
  match first.ending with
  | .ok () => { pieces := first.pieces ++ second.pieces, ending := second.ending }
  | .error _ => first

theorem followedBy_of_ok {first : Transcript} (ended : first.ending = .ok ()) (second : Transcript) :
    first.followedBy second =
      { pieces := first.pieces ++ second.pieces, ending := second.ending } := by
  rw [followedBy, ended]

theorem followedBy_of_error {first : Transcript} {failure : Failure}
    (failed : first.ending = .error failure) (second : Transcript) :
    first.followedBy second = first := by
  rw [followedBy, failed]

theorem followedBy_assoc (first second third : Transcript) :
    (first.followedBy second).followedBy third = first.followedBy (second.followedBy third) := by
  obtain ⟨pieces, failure | value⟩ := first
  · rfl
  · obtain ⟨more, failure | value⟩ := second
    · rfl
    · simp only [followedBy, List.append_assoc]

section

variable {Target : Type} [Writer Target]

/-- A piece that the output refuses is the end. -/
def writeTo (transcript : Transcript) (output : Target) : Except Failure Unit × Target :=
  match writePieces output transcript.pieces with
  | (none, output) => (transcript.ending, output)
  | (some fault, output) => (.error (.output fault), output)

theorem writeTo_eq (transcript : Transcript) (output : Target) :
    transcript.writeTo output =
      (match (writePieces output transcript.pieces).1 with
        | none => transcript.ending
        | some fault => .error (.output fault),
      (writePieces output transcript.pieces).2) := by
  rw [writeTo]
  rcases writePieces output transcript.pieces with ⟨_ | fault, next⟩ <;> rfl

theorem writeTo_followedBy (first second : Transcript) (output : Target) :
    (first.followedBy second).writeTo output =
      match first.writeTo output with
      | (.ok (), output) => second.writeTo output
      | failed => failed := by
  obtain ⟨pieces, ending⟩ := first
  simp only [followedBy, writeTo]
  cases ending with
  | ok value =>
    simp only [Writer.writePieces_append]
    rcases writePieces output pieces with ⟨_ | fault, next⟩ <;> rfl
  | error failure =>
    simp only
    rcases writePieces output pieces with ⟨_ | fault, next⟩ <;> rfl

theorem colored_writeTo (transcript : Transcript) (output : Target) :
    Writer.colored (transcript.writeTo output).2 = Writer.colored output := by
  rw [writeTo_eq]
  exact Writer.colored_writePieces output transcript.pieces

def flushed : Except Failure Unit × Target → Except Failure Unit × Target
  | (.ok (), output) =>
    match Writer.flush output with
    | (none, output) => (.ok (), output)
    | (some fault, output) => (.error (.output fault), output)
  | failed => failed

theorem flushed_failed {written : Except Failure Unit × Target} {failure : Failure}
    (failed : written.1 = .error failure) : flushed written = written := by
  obtain ⟨result, output⟩ := written
  cases failed
  rfl

end

def bytes (transcript : Transcript) : Bytes := utf8 (String.join transcript.pieces)

theorem bytes_followedBy {first : Transcript} (ended : first.ending = .ok ()) (second : Transcript) :
    (first.followedBy second).bytes = first.bytes ++ second.bytes := by
  rw [followedBy_of_ok ended, bytes, String.join_append, utf8_append]
  rfl

theorem writeTo_unlimited (transcript : Transcript) (output : Output) (fresh : output.bytes = [])
    (unlimited : output.limit = none) :
    (transcript.writeTo output).1 = transcript.ending ∧
      (transcript.writeTo output).2.bytes = transcript.bytes := by
  rw [writeTo_eq, Output.writePieces_unlimited unlimited]
  refine ⟨rfl, ?_⟩
  simp only [Output.bytes_writePieces, unlimited, fresh, List.nil_append]
  rfl

theorem flushFault_writeTo (transcript : Transcript) (output : Output) :
    (transcript.writeTo output).2.flushFault = output.flushFault := by
  rw [writeTo_eq]
  exact output.flushFault_writePieces transcript.pieces

theorem flushed_output (written : Except Failure Unit × Output) :
    (flushed written).2 = written.2 := by
  obtain ⟨failure | value, output⟩ := written
  · rfl
  · rw [flushed, Output.flush_eq]
    cases output.flushFault <;> rfl

theorem flushed_harmless {written : Except Failure Unit × Output}
    (harmless : written.2.flushFault = none) : flushed written = written := by
  obtain ⟨failure | value, output⟩ := written
  · rfl
  · simp only at harmless
    rw [flushed, Output.flush_eq, harmless]

theorem flushed_result {first second : Except Failure Unit × Output} (result : first.1 = second.1)
    (flush : first.2.flushFault = second.2.flushFault) : (flushed first).1 = (flushed second).1 := by
  obtain ⟨failure | value, output⟩ := first
  · obtain ⟨other, next⟩ := second
    cases result
    rfl
  · obtain ⟨other, next⟩ := second
    cases result
    simp only at flush
    rw [flushed, flushed, Output.flush_eq, Output.flush_eq, flush]
    cases next.flushFault <;> rfl

end Transcript

def Call.size : Call → Nat
  | emit _ => 1
  | separator => 0

namespace Console

def callPieces (colored numbering : Bool) (emitted : Nat) : Call → List String
  | .emit line => (if numbering then label colored (emitted + 1) else []) ++ [line, "\n"]
  | .separator => ["\n"]

def pieces (colored numbering : Bool) (emitted : Nat) : List Call → List String
  | [] => []
  | call :: calls =>
    callPieces colored numbering emitted call ++ pieces colored numbering (emitted + call.size) calls

section

variable {Target : Type} [Writer Target]

theorem answer_sink (console : Console Target) (call : Call) :
    sink.answer call console =
      let written := writePieces console.output
        (callPieces (colored console.output) console.numbering console.emitted call)
      (written.1, { console with output := written.2, emitted := console.emitted + call.size }) := by
  cases call with
  | emit line => rfl
  | separator =>
    simp only [Sink.answer, sink, separate, callPieces, writePieces]
    rcases Writer.writeText console.output "\n" with ⟨_ | fault, next⟩ <;> rfl

theorem serve_sink (console : Console Target) (calls : List Call) :
    ((sink.serve console calls).1, (sink.serve console calls).2.output) =
      writePieces console.output
        (pieces (colored console.output) console.numbering console.emitted calls) := by
  induction calls generalizing console with
  | nil => rfl
  | cons call calls hyp =>
    have kept := Writer.colored_writePieces console.output
      (callPieces (colored console.output) console.numbering console.emitted call)
    rw [Sink.serve, answer_sink, pieces, Writer.writePieces_append]
    rcases written : writePieces console.output
      (callPieces (colored console.output) console.numbering console.emitted call) with ⟨_ | fault, next⟩
    · rw [written] at kept
      simp only at kept ⊢
      rw [← kept]
      exact hyp { console with output := next, emitted := console.emitted + call.size }
    · rfl

end

end Console

namespace Files

/-- What printing a file writes: the banner, and the text of the calls that its source makes. -/
def fileTranscript (files : Files) (settings : Settings) (colored : Bool) (path : Path) :
    Transcript :=
  let banner := if settings.banner then Console.bannerPieces colored path else []
  match files.openPath path with
  | .error fault => { pieces := banner, ending := .error (.file path fault) }
  | .ok source =>
    let plan := source.plan .builtin settings.mode
    { pieces := banner ++ Console.pieces colored settings.numbering 0 plan.calls
      ending := (plan.result.map fun _ => ()).mapError (StreamFault.failure path) }

def textTranscript (files : Files) (settings : Settings) (colored : Bool) : List Path → Transcript
  | [] => {}
  | path :: paths =>
    (files.fileTranscript settings colored path).followedBy
      (files.textTranscript settings colored paths)

/-- What a run writes before it flushes the output. Nothing is written unless all reports are
there. -/
def transcript (files : Files) (settings : Settings) (colored : Bool) (paths : List Path) :
    Transcript :=
  if settings.json then
    match (files.reportFiles settings.mode paths).1 with
    | .error failure => { ending := .error failure }
    | .ok reports =>
      let draft := Json.document (.list (reports.map Report.json))
      { pieces := draft.pieces
        ending := match draft.stop with
          | none => .ok ()
          | some fault => .error (.output fault) }
  else files.textTranscript settings colored paths

section

variable {Target : Type} [Writer Target]

private theorem printFile_banner (settings : Settings) (path : Path) (output : Target) :
    (if settings.banner then Writer.writeBanner output path else (none, output)) =
      writePieces output
        (if settings.banner then Console.bannerPieces (colored output) path else []) := by
  cases settings.banner <;> rfl

theorem printFile_eq_transcript (files : Files) (settings : Settings) (path : Path)
    (output : Target) :
    ((files.printFile settings path output).result, (files.printFile settings path output).output) =
      (files.fileTranscript settings (colored output) path).writeTo output := by
  rw [printFile, printFile_banner, fileTranscript, Transcript.writeTo]
  generalize heading : (if settings.banner then
    Console.bannerPieces (colored output) path else []) = banner
  have kept := Writer.colored_writePieces output banner
  cases files.openPath path with
  | error fault =>
    simp only
    rcases writePieces output banner with ⟨_ | refusal, next⟩ <;> rfl
  | ok source =>
    simp only [Writer.writePieces_append]
    rcases written : writePieces output banner with ⟨_ | refusal, next⟩
    · rw [written] at kept
      let plan := source.plan .builtin settings.mode
      let console : Console Target := { output := next, numbering := settings.numbering }
      have served : ((Console.sink.serve console plan.calls).1,
            (Console.sink.serve console plan.calls).2.output) =
          writePieces next (Console.pieces (colored output) settings.numbering 0 plan.calls) := by
        rw [← kept]
        exact console.serve_sink plan.calls
      have result := source.process_result .builtin settings.mode Console.sink console
      have sink := source.process_sink .builtin settings.mode Console.sink console
      simp only
      rw [← served, sink, result]
      cases (Console.sink.serve console plan.calls).1 with
      | some fault => rfl
      | none =>
        simp only [refusedOr]
        cases plan.result <;> rfl
    · rfl

theorem printFiles_eq_transcript (files : Files) (settings : Settings) (paths : List Path)
    (output : Target) :
    ((files.printFiles settings output paths).result,
        (files.printFiles settings output paths).output) =
      (files.textTranscript settings (colored output) paths).writeTo output := by
  induction paths generalizing output with
  | nil => rfl
  | cons path paths hyp =>
    have printed := files.printFile_eq_transcript settings path output
    have kept := (files.fileTranscript settings (colored output) path).colored_writeTo output
    rw [printFiles, textTranscript, Transcript.writeTo_followedBy]
    rw [← printed] at kept ⊢
    generalize files.printFile settings path output = first at kept ⊢
    obtain ⟨result, next, notes⟩ := first
    cases result with
    | error failure => rfl
    | ok value =>
      simp only at kept ⊢
      rw [← kept]
      exact hyp next

theorem flush_eq (outcome : RunOutcome Target) :
    ((flush outcome).result, (flush outcome).output) =
      Transcript.flushed (outcome.result, outcome.output) := by
  obtain ⟨result, output, notes⟩ := outcome
  rw [flush, Transcript.flushed.eq_def]
  cases result with
  | error failure => rfl
  | ok value =>
    simp only
    rcases Writer.flush output with ⟨_ | fault, next⟩ <;> rfl

theorem flush_blames {outcome : RunOutcome Target} {path : Path} {fault : Fault}
    (blamed : (flush outcome).result = .error (.file path fault)) :
    outcome.result = .error (.file path fault) := by
  obtain ⟨result, output, notes⟩ := outcome
  cases result with
  | error failure => exact blamed
  | ok value =>
    simp only [flush] at blamed
    rcases flushed : Writer.flush output with ⟨_ | other, next⟩ <;>
      rw [flushed] at blamed <;> cases blamed

/-- A run writes its transcript and flushes the output. -/
theorem run_eq_transcript (files : Files) (settings : Settings) (paths : List Path)
    (output : Target) :
    ((files.run settings paths output).result, (files.run settings paths output).output) =
      Transcript.flushed ((files.transcript settings (colored output) paths).writeTo output) := by
  rw [run, transcript]
  cases settings.json with
  | false =>
    simp only [Bool.false_eq_true, ↓reduceIte]
    rw [flush_eq, printFiles_eq_transcript]
  | true =>
    simp only [↓reduceIte]
    rcases files.reportFiles settings.mode paths with ⟨_ | reports, notes⟩
    · rfl
    · simp only
      rw [flush_eq, Writer.writeReports, Writer.writeDraft, Transcript.writeTo]
      generalize Json.document (.list (reports.map Report.json)) = draft
      rcases writePieces output draft.pieces with ⟨_ | fault, next⟩
      · cases draft.stop <;> rfl
      · rfl

end

theorem flush_output (outcome : RunOutcome Output) : (flush outcome).output = outcome.output := by
  have same := congrArg Prod.snd (flush_eq outcome)
  rwa [Transcript.flushed_output] at same

theorem run_unlimited (files : Files) (settings : Settings) (paths : List Path) (colored : Bool) :
    (files.run settings paths ({ colored } : Output)).result =
        (files.transcript settings colored paths).ending ∧
      (files.run settings paths ({ colored } : Output)).output.bytes =
        (files.transcript settings colored paths).bytes := by
  let output : Output := { colored }
  have told := files.run_eq_transcript settings paths output
  rw [Transcript.flushed_harmless (by rw [Transcript.flushFault_writeTo])] at told
  have written := (files.transcript settings (Writer.colored output) paths).writeTo_unlimited output rfl rfl
  rwa [← told] at written

theorem run_plain (files : Files) (settings : Settings) (paths : List Path) :
    (files.run settings paths ({} : Output)).result = (files.transcript settings false paths).ending ∧
      (files.run settings paths ({} : Output)).output.bytes = (files.transcript settings false paths).bytes :=
  files.run_unlimited settings paths false

end Files
end LeadingComment
