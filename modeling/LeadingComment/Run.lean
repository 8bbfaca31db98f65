import LeadingComment.Catalog.Builtin
import LeadingComment.Console
import LeadingComment.Detection
import LeadingComment.Report

namespace LeadingComment

structure Settings where
  mode : Mode := .comment
  banner : Bool := false
  numbering : Bool := false
  /-- Reports instead of text. -/
  json : Bool := false
deriving DecidableEq, Repr

structure Files where
  openPath : Path → Except Fault Source

structure RunOutcome (Target : Type) where
  result : Except Failure Unit
  output : Target
  notes : List Note := []

namespace Files

variable {Target : Type} [Writer Target]

def printFile (files : Files) (settings : Settings) (path : Path) (output : Target) :
    RunOutcome Target :=
  let (refusal, output) :=
    if settings.banner then Writer.writeBanner output path else (none, output)
  match refusal with
  | some fault => { result := .error (.output fault), output }
  | none =>
    match files.openPath path with
    | .error fault =>
      { result := .error (.file path fault), output, notes := [.opening path] }
    | .ok source =>
      let console : Console Target := { output, numbering := settings.numbering }
      let processed := source.process .builtin settings.mode Console.sink console
      let notes := .opening path :: processed.notes
      match processed.result with
      | .error fault =>
        { result := .error (fault.failure path), output := processed.sink.output, notes }
      | .ok _ =>
        { result := .ok (), output := processed.sink.output
          notes := notes ++ [.finished path processed.sink.emitted settings.mode] }

def printFiles (files : Files) (settings : Settings) (output : Target) :
    List Path → RunOutcome Target
  | [] => { result := .ok (), output }
  | path :: paths =>
    let printed := files.printFile settings path output
    match printed.result with
    | .error _ => printed
    | .ok _ =>
      let later := files.printFiles settings printed.output paths
      { later with notes := printed.notes ++ later.notes }

def reportFile (files : Files) (mode : Mode) (path : Path) :
    Except Failure Report × List Note :=
  match files.openPath path with
  | .error fault => (.error (.file path fault), [.opening path])
  | .ok source =>
    let processed := source.process .builtin mode Report.sink { path, mode := mode.reportMode }
    let report := processed.result.map fun style => { processed.sink with style }
    (report.mapError (StreamFault.failure path), .opening path :: processed.notes)

def reportFiles (files : Files) (mode : Mode) : List Path → Except Failure (List Report) × List Note
  | [] => (.ok [], [])
  | path :: paths =>
    match files.reportFile mode path with
    | (.error failure, notes) => (.error failure, notes)
    | (.ok report, notes) =>
      let (reports, laterNotes) := files.reportFiles mode paths
      (reports.map (report :: ·), notes ++ laterNotes)

/-- A successful run ends by flushing the output. -/
def flush (outcome : RunOutcome Target) : RunOutcome Target :=
  match outcome.result with
  | .error _ => outcome
  | .ok _ =>
    match Writer.flush outcome.output with
    | (none, output) => { outcome with output }
    | (some fault, output) => { outcome with result := .error (.output fault), output }

def run (files : Files) (settings : Settings) (paths : List Path) (output : Target) :
    RunOutcome Target :=
  if settings.json then
    match files.reportFiles settings.mode paths with
    | (.error failure, notes) => { result := .error failure, output, notes }
    | (.ok reports, notes) =>
      let (fault, output) := Writer.writeReports output reports
      let result := match fault with
        | none => .ok ()
        | some fault => .error (.output fault)
      flush { result, output, notes }
  else flush (files.printFiles settings output paths)

end Files
end LeadingComment
