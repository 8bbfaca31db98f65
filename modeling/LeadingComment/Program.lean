import LeadingComment.CommandLine.Reader
import LeadingComment.LogFilter
import LeadingComment.Run
import LeadingComment.Stdout

/-! The whole program as a function: from the arguments and what surrounds the process to an exit
code and what is written. -/
namespace LeadingComment

/-- What the report on a crash tells of its place. -/
structure CrashSite where
  thread : Nat := 0
  location : String := ""
  /-- The calls that led there, in full or in short. -/
  trace : Bool → String := fun _ => ""

/-- What surrounds the process. -/
structure Surroundings where
  environment : Environment := {}
  /-- The current directory, unless it has been removed. -/
  directory : Option Path
  files : Files
  stdout : Stdout := {}
  onTerminal : Bool := false
  /-- What stands before every log record. -/
  logStart : String := ""
  crashSite : CrashSite := {}

structure Exit where
  code : Nat
  stdout : Bytes := []
  stderr : String := ""
  /-- The report on refused arguments, if it could be written. -/
  misuse : Option String := none

namespace Program

def complaint (reason : String) : String := "headcomment: " ++ reason ++ "\n"

def homeDirectory (environment : Environment) : Option Path :=
  match environment.home with
  | none | some [] => none
  | some home => some ⟨home⟩

/-- The filter for log records, and what is wrong with its text; bytes that are no text do not
count. -/
def logFilter (environment : Environment) : LogFilter × List LogWarning :=
  match environment.logFilter.bind Utf8.decode? with
  | none => (.standard, [])
  | some text => LogFilter.ofText text

def warningText (warnings : List LogWarning) : String :=
  String.join (warnings.map fun warning => warning.message ++ "\n")

def settings (arguments : CommandLine.Arguments) : Settings where
  mode := .ofFlags arguments.cat arguments.lines
  banner := !arguments.quiet
  numbering := arguments.numbering
  json := arguments.json

/-- Help and version are asked for, so it is no fault if they cannot be shown. -/
def inform (stdout : Stdout) (text : String) : Exit :=
  { code := 0, stdout := (Writer.writeText stdout text).2.close.bytes }

def crashCode : Nat := 101

/-- The calls that led to a crash are only shown if the environment asks for them. -/
def traceText (environment : Environment) (site : CrashSite) : String :=
  match environment.backtrace.filter (· != utf8 "0") with
  | none => "note: run with `RUST_BACKTRACE=1` environment variable to display a backtrace\n"
  | some wanted => site.trace (wanted == utf8 "full")

def crashText (environment : Environment) (site : CrashSite) (reason : String) : String :=
  "\nthread 'main' (" ++ toString site.thread ++ ") panicked at " ++ site.location ++ ":\n" ++ reason
    ++ "\n" ++ traceText environment site

def misusePieces (report help : String) : List String := [report, "\n", help, "\n"]

/-- The report on refused arguments is written without looking after faults, so that an output
that does not take it crashes the program. -/
def refuse (surroundings : Surroundings) (report help : String) : Exit :=
  match Writer.writePieces surroundings.stdout (misusePieces report help) with
  | (none, stdout) => { code := 1, stdout := stdout.close.bytes, misuse := some report }
  | (some fault, stdout) =>
    { code := crashCode, stdout := stdout.close.bytes
      stderr := crashText surroundings.environment surroundings.crashSite
        ("failed printing to stdout: " ++ fault.message) }

def listNames (stdout : Stdout) (json : Bool) : Exit :=
  let names := Catalog.builtin.names
  let written :=
    if json then Writer.writeNamesJson stdout names else Writer.writeNames stdout names
  let flushed :=
    match written with
    | (none, stdout) => Writer.flush stdout
    | refused => refused
  match flushed with
  | (none, stdout) => { code := 0, stdout := stdout.close.bytes }
  | (some fault, stdout) =>
    { code := 1, stdout := stdout.close.bytes, stderr := complaint (Failure.output fault).message }

def paths (environment : Environment) (arguments : CommandLine.Arguments) (directory : Path) :
    List Path :=
  arguments.files.map fun path => path.resolve directory (homeDirectory environment)

def process (surroundings : Surroundings) (arguments : CommandLine.Arguments) (directory : Path) :
    Exit :=
  let environment := surroundings.environment
  let paths := paths environment arguments directory
  let settings := settings arguments
  let output := { surroundings.stdout with
    device.colored := arguments.color.isColored environment surroundings.onTerminal }
  let outcome := surroundings.files.run settings paths output
  let notes := .started settings.mode paths.length :: outcome.notes
  let log := (logFilter environment).1.lines surroundings.logStart notes
  match outcome.result with
  | .ok _ => { code := 0, stdout := outcome.output.close.bytes, stderr := log }
  | .error failure =>
    { code := 1, stdout := outcome.output.close.bytes, stderr := log ++ complaint failure.message }

/-- Listing names needs no current directory, all else that gets past the arguments does. -/
def answer (reader : CommandLine.Reader) (surroundings : Surroundings) (arguments : List Bytes) : Exit :=
  match reader.read arguments with
  | .error (.inform text) => inform surroundings.stdout text
  | .error (.refuse report) => refuse surroundings report reader.help
  | .ok arguments =>
    if arguments.listing then listNames surroundings.stdout arguments.json
    else
      match surroundings.directory with
      | none =>
        { code := 1
          stderr := complaint ("cannot determine current directory: " ++ Fault.missing.message) }
      | some directory => process surroundings arguments directory

/-- What is wrong with the text of the log filter is told before anything else. -/
def run (reader : CommandLine.Reader) (surroundings : Surroundings) (arguments : List Bytes) : Exit :=
  let exit := answer reader surroundings arguments
  { exit with stderr := warningText (logFilter surroundings.environment).2 ++ exit.stderr }

end Program
end LeadingComment
