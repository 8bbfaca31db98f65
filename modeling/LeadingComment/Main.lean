import LeadingComment.CommandLine.Parse
import LeadingComment.Program

namespace LeadingComment.Command

def faultOf : IO.Error → Fault
  | .noFileOrDirectory _ _ _ => .missing
  | .permissionDenied _ code details =>
    .reported .permissionDenied (details ++ " (os error " ++ toString code ++ ")")
  | .inappropriateType _ code details | .resourceExhausted _ code details
  | .invalidArgument _ code details | .interrupted _ code details =>
    .reported .other (details ++ " (os error " ++ toString code ++ ")")
  | error => .reported .other error.toString

/-- A file that opens but cannot be read fails at its first byte. -/
def openFile (path : Path) : IO (Except Fault Source) := do
  match Utf8.decode? path.bytes with
  | none => return .error .missing
  | some chars =>
    let opened ← (IO.FS.Handle.mk (String.ofList chars) .read).toBaseIO
    match opened with
    | .error error => return .error (faultOf error)
    | .ok handle =>
      match ← handle.readBinToEnd.toBaseIO with
      | .ok content => return .ok { data := content.toList }
      | .error error => return .ok { data := [], traps := [⟨0, faultOf error⟩] }

def filesAt (paths : List Path) : IO Files := do
  let contents ← paths.mapM fun path => return (path, ← openFile path)
  return { openPath := fun path =>
    match contents.find? fun content => content.1 == path with
    | some (_, opened) => opened
    | none => .error .missing }

def environmentValue (name : String) : IO (Option Bytes) :=
  return (← IO.getEnv name).map utf8

def environment : IO Environment :=
  return { home := ← environmentValue "HOME"
           noColor := ← environmentValue "NO_COLOR"
           forceColor := ← environmentValue "FORCE_COLOR"
           terminalType := ← environmentValue "TERM"
           logFilter := ← environmentValue "RUST_LOG"
           backtrace := ← environmentValue "RUST_BACKTRACE" }

def currentDirectory : IO (Option Path) := do
  match ← IO.currentDir.toBaseIO with
  | .ok directory => return some (Path.ofString directory.toString)
  | .error _ => return none

def write (stream : IO.FS.Stream) (bytes : Bytes) : IO (Option Fault) := do
  if bytes.isEmpty then return none
  let written ← (do stream.write ⟨bytes.toArray⟩; stream.flush : IO Unit).toBaseIO
  match written with
  | .ok _ => return none
  | .error error => return some (faultOf error)

def surroundings (arguments : List Bytes) : IO Surroundings := do
  let environment ← environment
  let directory ← currentDirectory
  let paths := match CommandLine.standard.read arguments, directory with
    | .ok parsed, some directory => Program.paths environment parsed directory
    | _, _ => []
  let onTerminal ← (← IO.getStdout).isTty
  return { environment, directory, onTerminal, files := ← filesAt paths, logStart := "[" }

/-- An output that cannot be written is found out by writing to it; what the program does about
that is asked of the program. -/
def execute (arguments : List Bytes) : IO UInt32 := do
  let surroundings ← surroundings arguments
  let exit := Program.run CommandLine.standard surroundings arguments
  let exit ← match ← write (← IO.getStdout) exit.stdout with
    | none => pure exit
    | some fault =>
      let device : Output := { limit := some 0, overflow := fault }
      pure (Program.run CommandLine.standard { surroundings with stdout := { device } } arguments)
  (← IO.getStderr).putStr exit.stderr
  return exit.code.toUInt32

end LeadingComment.Command

def main (arguments : List String) : IO UInt32 :=
  LeadingComment.Command.execute (arguments.map LeadingComment.utf8)
