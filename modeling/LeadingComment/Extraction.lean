import LeadingComment.Note
import LeadingComment.Sink
import LeadingComment.Source
import LeadingComment.Text.Blank
import LeadingComment.Text.Token

namespace LeadingComment

/-- What is done with a line that has been read. -/
inductive Verdict where
  | take
  /-- It is handed over, and nothing more is read. -/
  | takeLast
  /-- It is not handed over, and nothing more is read. -/
  | leave
deriving DecidableEq, Repr

/-- Which lines are handed over. -/
structure Choice where
  verdict : Taken → Verdict := fun _ => .take
  /-- How many lines there may be. -/
  most : Option Nat := none
  /-- What is noted if input ends before the choice does. -/
  endNotes : List Note := []

namespace Choice

def all : Choice := {}

def head (count : Nat) : Choice := { most := some count }

/-- A line goes on with a comment if the opening starts it, leading blanks left aside. -/
def goesOn (opening : String) (line : List Char) : Bool :=
  Token.starts opening.toList (trimStart line)

def continues (opening : String) (taken : Taken) : Bool := goesOn opening taken.chars

def closes (closing : String) (taken : Taken) : Bool :=
  Token.occursIn closing.toList taken.chars

/-- The lines up to the first that does not go on. -/
def whileContinued (opening : String) : Choice where
  verdict taken := if continues opening taken then .take else .leave

/-- The lines up to and with the first that closes the comment. -/
def untilClosed (style : Style) (closing : String) : Choice where
  verdict taken := if closes closing taken then .takeLast else .take
  endNotes := [.unclosed style]

/-- The comment at the start of a source, in a style taken as given: the first line of a block is not
asked for its opening. -/
def comment (style : Style) : Choice :=
  match style.delimiters with
  | .line opening => whileContinued opening
  | .block _ closing => untilClosed style closing

end Choice

structure Progress (State : Type) where
  place : Place
  /-- The number of lines handed over. -/
  count : Nat := 0
  sink : State

inductive Stop where
  | read (fault : Fault)
  | write (fault : Fault)
  | chosen
  | exhausted
deriving DecidableEq, Repr

structure Outcome (State Value : Type) where
  result : Except StreamFault Value
  source : Source
  sink : State
  notes : List Note := []

namespace Outcome

variable {State Value Other : Type}

def map (change : Value → Other) (outcome : Outcome State Value) : Outcome State Other :=
  { outcome with result := outcome.result.map change }

def noteFirst (notes : List Note) (outcome : Outcome State Value) : Outcome State Value :=
  { outcome with notes := notes ++ outcome.notes }

end Outcome

variable {State : Type}

namespace Choice

/-- One line. A line that the sink refuses has been read. -/
def step (choice : Choice) (sink : Sink State) (progress : Progress State) (line : Bytes) :
    Except (Stop × Progress State) (Progress State) :=
  match progress.place.readLine line with
  | .error (fault, place) => .error (.read fault, { progress with place })
  | .ok taken =>
    match choice.verdict taken with
    | .leave => .error (.chosen, { progress with place := taken.after })
    | verdict =>
      match sink.emit taken.text progress.sink with
      | (some fault, state) => .error (.write fault, { progress with place := taken.after, sink := state })
      | (none, state) =>
        let progress := { place := taken.after, count := progress.count + 1, sink := state }
        if verdict = .takeLast || choice.most = some progress.count then .error (.chosen, progress)
        else .ok progress

def finish (walked : Except (Stop × Progress State) (Progress State)) : Stop × Progress State :=
  match walked with
  | .error halt => halt
  | .ok progress =>
    match progress.place.atEnd with
    | .complete place => (.exhausted, { progress with place })
    | .failed fault place => (.read fault, { progress with place })

def run (choice : Choice) (sink : Sink State) (progress : Progress State) (ahead : Bytes) :
    Stop × Progress State :=
  if choice.most = some progress.count then (.chosen, progress)
  else finish (Line.walk (choice.step sink) [] progress ahead)

end Choice

namespace Source

/-- A separator is the last thing handed over. -/
def separate (source : Source) (sink : Sink State) (notes : List Note) (progress : Progress State) :
    Outcome State Nat :=
  let (refusal, state) := sink.separator progress.sink
  { result := match refusal with
      | none => .ok progress.count
      | some fault => .error (.write fault)
    source := source.moveTo progress.place, sink := state, notes }

def conclude (source : Source) (sink : Sink State) (endNotes : List Note) (stop : Stop)
    (progress : Progress State) : Outcome State Nat :=
  match stop with
  | .read fault =>
    { result := .error (.read fault), source := source.moveTo progress.place, sink := progress.sink }
  | .write fault =>
    { result := .error (.write fault), source := source.moveTo progress.place, sink := progress.sink }
  | .chosen => source.separate sink [] progress
  | .exhausted => source.separate sink endNotes progress

/-- The value is the number of lines handed over. -/
def handOver (source : Source) (choice : Choice) (sink : Sink State) (state : State) :
    Outcome State Nat :=
  let (stop, progress) := choice.run sink { place := source.place, sink := state } source.ahead
  source.conclude sink choice.endNotes stop progress

def extractComment (source : Source) (style : Style) (sink : Sink State) (state : State) :
    Outcome State Nat :=
  source.handOver (.comment style) sink state

def head (source : Source) (count : Nat) (sink : Sink State) (state : State) :
    Outcome State Nat :=
  source.handOver (.head count) sink state

def cat (source : Source) (sink : Sink State) (state : State) : Outcome State Nat :=
  source.handOver .all sink state

end Source
end LeadingComment
