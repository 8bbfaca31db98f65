import LeadingComment.CommandLine.Reader
import LeadingComment.CommandLine.UsageError

/-! Reading the arguments from left to right. A value that stands in an argument of its own, and
likewise a file, is only checked when the next option that is known comes up or the arguments end;
until then it is pending, and an argument that cannot be understood is refused before it. -/
namespace LeadingComment.CommandLine

/-- What ends the reading before the arguments end. -/
inductive Stop where
  | misuse (error : UsageError)
  | shortHelp
  | longHelp
  | version
deriving DecidableEq, Repr

inductive Pending where
  | nothing
  | awaiting (option : Valued)
  | value (option : Valued) (value : Bytes)
  | files (names : List Bytes)
deriving DecidableEq, Repr

structure State where
  arguments : Arguments := {}
  pending : Pending := .nothing
  /-- Whether `--` has been seen. -/
  filesOnly : Bool := false
deriving DecidableEq, Repr

/-- The first digit that leads above the limit is noticed before anything behind it. -/
def readDigits (value : Nat) : List Char → Except CountError Nat
  | [] => .ok value
  | char :: chars =>
    if char.isDigit then
      let value := value * 10 + (char.toNat - '0'.toNat)
      if value < countLimit then readDigits value chars else .error .tooLarge
    else .error .notDigit

def readCount : List Char → Except CountError Nat
  | [] => .error .empty
  | ['+'] => .error .notDigit
  | '+' :: digits => readDigits 0 digits
  | digits => readDigits 0 digits

namespace Arguments

/-- The last value given to an option counts, yet each of them has to be valid. -/
def assign (arguments : Arguments) (option : Valued) (value : Bytes) :
    Except UsageError Arguments :=
  match option, Utf8.decode? value with
  | .lines, none => .error .notText
  | .lines, some chars =>
    match readCount chars with
    | .ok lines => .ok { arguments with lines }
    | .error reason => .error (.badCount (String.ofList chars) reason)
  | .color, none => .error (.badColor (Utf8.decodeLossy value))
  | .color, some chars =>
    match ColorMode.ofWord? (String.ofList chars) with
    | some color => .ok { arguments with color }
    | none => .error (.badColor (String.ofList chars))

def settle (arguments : Arguments) : Pending → Except UsageError Arguments
  | .nothing => .ok arguments
  | .awaiting option => .error (.valueMissing option)
  | .value option value => arguments.assign option value
  | .files names =>
    if names.contains [] then .error .emptyFile
    else .ok { arguments with files := arguments.files ++ names.map Path.mk }

end Arguments

namespace State

def settle (state : State) : Except Stop State :=
  match state.arguments.settle state.pending with
  | .ok arguments => .ok { state with arguments, pending := .nothing }
  | .error error => .error (.misuse error)

def addFile (state : State) (name : Bytes) : Except Stop State :=
  match state.pending with
  | .files names => .ok { state with pending := .files (names ++ [name]) }
  | _ => do
    let state ← state.settle
    return { state with pending := .files [name] }

def assign (state : State) (option : Valued) (value : Bytes) : Except Stop State := do
  let state ← state.settle
  match state.arguments.assign option value with
  | .ok arguments => return { state with arguments }
  | .error error => throw (.misuse error)

def await (state : State) (option : Valued) : Except Stop State := do
  let state ← state.settle
  return { state with pending := .awaiting option }

def set (state : State) (switch : Switch) : Except Stop State := do
  let state ← state.settle
  return { state with arguments := state.arguments.set switch }

def stopWith (state : State) (stop : Stop) : Except Stop State := do
  let _ ← state.settle
  throw stop

def equals : UInt8 := 61

def long (state : State) (text : Bytes) : Except Stop State :=
  let (name, attached) := text.span (· != equals)
  match (Utf8.decode? name).bind fun chars => Action.ofLong? (String.ofList chars), attached with
  | none, _ => throw (.misuse (.unknown ("--" ++ Utf8.decodeLossy name)))
  | some (.valued option), _ :: value => state.assign option value
  | some (.valued option), [] => state.await option
  | some action, _ :: value => throw (.misuse (.valueNotTaken (Utf8.decodeLossy value) action))
  | some (.switch switch), [] => state.set switch
  | some .help, [] => state.stopWith .longHelp
  | some .version, [] => state.stopWith .version

/-- Options of one letter each, without the dash before them. The first that takes a value takes
all that follows, from behind an equals sign if there is one; `rest` are bytes that are no text. -/
def cluster (state : State) (rest : Bytes) : List Char → Except Stop State
  | [] =>
    if rest.isEmpty then .ok state
    else throw (.misuse (.unknown ("-" ++ Utf8.decodeLossy rest)))
  | letter :: letters =>
    match Action.ofShort? letter with
    | none => throw (.misuse (.unknown (String.ofList ['-', letter])))
    | some (.switch switch) => do
      let state ← state.set switch
      state.cluster rest letters
    | some .help => state.stopWith .shortHelp
    | some .version => state.stopWith .version
    | some (.valued option) =>
      match Utf8.encode letters ++ rest with
      | [] => state.await option
      | first :: value => state.assign option (if first = equals then value else first :: value)

/-- A lone dash is a file or a value, never an option. -/
def accept (state : State) (argument : Bytes) : Except Stop State :=
  if state.filesOnly then state.addFile argument
  else
    match argument with
    | [45, 45] => .ok { state with filesOnly := true }
    | 45 :: 45 :: text => state.long text
    | 45 :: letter :: text =>
      let (letters, rest) := Utf8.splitValid (letter :: text)
      state.cluster rest letters
    | argument =>
      match state.pending with
      | .awaiting option => .ok { state with pending := .value option argument }
      | _ => state.addFile argument

end State

def parse (arguments : List Bytes) : Except Stop Arguments := do
  let state ← arguments.foldlM State.accept {}
  let state ← state.settle
  return state.arguments

def Stop.reply : Stop → Reply
  | misuse error => .refuse error.report
  | shortHelp => .inform shortHelpText
  | longHelp => .inform longHelpText
  | version => .inform versionText

def standard : Reader where
  read arguments := (parse arguments).mapError Stop.reply
  help := shortHelpText

end LeadingComment.CommandLine
