import LeadingComment.Fault

namespace LeadingComment

structure Sink (State : Type) where
  emit : String → State → Option Fault × State
  separator : State → Option Fault × State

/-- Keeps what it is given, a separator as `none`, until its calls are used up. -/
structure Recorder where
  entries : Array (Option String) := #[]
  /-- How many more calls succeed; `none` if all do. -/
  calls : Option Nat := none

namespace Recorder

def record (entry : Option String) (recorder : Recorder) : Option Fault × Recorder :=
  match recorder.calls with
  | some 0 => (some .brokenPipe, recorder)
  | calls => (none, { entries := recorder.entries.push entry, calls := calls.map (· - 1) })

def sink : Sink Recorder where
  emit line := record (some line)
  separator := record none

end Recorder
end LeadingComment
