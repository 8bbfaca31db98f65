import LeadingComment.Fault
import LeadingComment.Text.Line

/-! A source of lines: bytes, a position among them, and the faults that lie in wait. Reading is
told as one value, the lines in order and how reading ended, with the place where the source
stands after each of them. -/
namespace LeadingComment

/-- A fault that strikes when reading reaches its offset, and only once. -/
structure Trap where
  offset : Nat
  fault : Fault
deriving DecidableEq, Repr

/-- Where reading stands: the offset of the next byte and the traps still set. -/
structure Place where
  position : Nat
  traps : List Trap := []
deriving DecidableEq, Repr

structure Source where
  data : Bytes
  position : Nat := 0
  traps : List Trap := []
  /-- How many more seeks succeed; `none` if all do. -/
  seeks : Option Nat := none
deriving DecidableEq, Repr

/-- The traps at an offset strike in order: interruptions are spent and passed over, and the first
other fault is spent and stops the reading. -/
def strike (offset : Nat) : List Trap → Option Fault × List Trap
  | [] => (none, [])
  | trap :: traps =>
    if trap.offset = offset then
      if trap.fault.isInterruption then strike offset traps else (some trap.fault, traps)
    else
      let (fault, left) := strike offset traps
      (fault, trap :: left)

theorem strike_of_forall_ne {offset : Nat} {traps : List Trap}
    (elsewhere : ∀ trap ∈ traps, trap.offset ≠ offset) : strike offset traps = (none, traps) := by
  induction traps with
  | nil => rfl
  | cons trap traps hyp =>
    rw [strike, if_neg (elsewhere trap List.mem_cons_self),
      hyp fun other member => elsewhere other (List.mem_cons_of_mem trap member)]

namespace Place

/-- Reading over `count` offsets from the place one by one: either the place behind them, or the
first fault and the place where it struck. -/
def passEach (place : Place) : Nat → Option Fault × Place
  | 0 => (none, place)
  | count + 1 =>
    match strike place.position place.traps with
    | (some fault, traps) => (some fault, { place with traps })
    | (none, traps) => passEach { position := place.position + 1, traps } count

def isClear (place : Place) (count : Nat) : Bool :=
  place.traps.all fun trap => trap.offset < place.position || place.position + count ≤ trap.offset

/-- Reading over `count` offsets at once, unless there are traps among them. -/
def pass (place : Place) (count : Nat) : Option Fault × Place :=
  if place.isClear count then (none, { place with position := place.position + count })
  else place.passEach count

theorem passEach_of_isClear {place : Place} {count : Nat} (clear : place.isClear count = true) :
    place.passEach count = (none, { place with position := place.position + count }) := by
  induction count generalizing place with
  | zero => rfl
  | succ count hyp =>
    have apart : ∀ trap ∈ place.traps,
        trap.offset < place.position ∨ place.position + (count + 1) ≤ trap.offset := by
      simpa [isClear] using clear
    have missed : strike place.position place.traps = (none, place.traps) :=
      strike_of_forall_ne fun trap member => by have := apart trap member; omega
    have later : isClear { place with position := place.position + 1 } count = true := by
      simp only [isClear, List.all_eq_true, Bool.or_eq_true, decide_eq_true_eq]
      intro trap member
      have := apart trap member
      omega
    rw [passEach, missed]
    simp only
    rw [hyp later]
    simp only [Prod.mk.injEq, Place.mk.injEq, true_and, and_true]
    omega

theorem pass_eq_passEach (place : Place) (count : Nat) : place.pass count = place.passEach count := by
  rw [pass]
  split
  next clear => exact (passEach_of_isClear clear).symm
  next => rfl

end Place

/-- A line with its terminator, and the place behind it. -/
structure Taken where
  raw : List Char
  after : Place
deriving DecidableEq, Repr

def Taken.chars (taken : Taken) : List Char := Line.chomp taken.raw

def Taken.text (taken : Taken) : String := String.ofList taken.chars

inductive Ending where
  | complete (place : Place)
  | failed (fault : Fault) (place : Place)
deriving DecidableEq, Repr

def Ending.place : Ending → Place
  | complete place => place
  | failed _ place => place

structure Reading where
  lines : List Taken
  ending : Ending
deriving DecidableEq, Repr

namespace Place

/-- The end of input is met by looking at the offset behind the last byte. -/
def atEnd (place : Place) : Ending :=
  match strike place.position place.traps with
  | (some fault, traps) => .failed fault { place with traps }
  | (none, traps) => .complete { place with traps }

/-- One line that is known to be there. A line without newline is only complete once the end of
input has been met. A line that is no text has been consumed when that is found out. -/
def readLine (place : Place) (line : Bytes) : Except (Fault × Place) Taken :=
  match place.pass line.length with
  | (some fault, after) => .error (fault, after)
  | (none, after) =>
    let stop := if Line.isEnded line then .complete after else after.atEnd
    match stop, Utf8.decode? line with
    | .failed fault after, _ => .error (fault, after)
    | .complete after, some raw => .ok { raw, after }
    | .complete after, none => .error (.invalidText, after)

/-- Reads on over lines that have been cut, behind those taken `earlier`, the last of them first. -/
def readOn (place : Place) (earlier : List Taken) : List Bytes → Reading
  | [] => { lines := earlier.reverse, ending := place.atEnd }
  | line :: later =>
    match place.readLine line with
    | .ok taken => taken.after.readOn (taken :: earlier) later
    | .error (fault, after) => { lines := earlier.reverse, ending := .failed fault after }

theorem readOn_earlier (place : Place) (earlier : List Taken) (lines : List Bytes) :
    place.readOn earlier lines =
      { lines := earlier.reverse ++ (place.readOn [] lines).lines
        ending := (place.readOn [] lines).ending } := by
  induction lines generalizing place earlier with
  | nil => simp [readOn]
  | cons line later hyp =>
    simp only [readOn]
    cases place.readLine line with
    | ok taken =>
      dsimp only
      rw [hyp taken.after (taken :: earlier), hyp taken.after [taken]]
      simp
    | error fault => simp

theorem readOn_cons (place : Place) (line : Bytes) (later : List Bytes) :
    place.readOn [] (line :: later) =
      match place.readLine line with
      | .ok taken =>
        { lines := taken :: (taken.after.readOn [] later).lines
          ending := (taken.after.readOn [] later).ending }
      | .error (fault, after) => { lines := [], ending := .failed fault after } := by
  rw [readOn]
  cases place.readLine line with
  | ok taken => simpa using readOn_earlier taken.after [taken] later
  | error fault => rfl

end Place

namespace Source

def place (source : Source) : Place := { position := source.position, traps := source.traps }

def moveTo (source : Source) (place : Place) : Source :=
  { source with position := place.position, traps := place.traps }

/-- The bytes from the position on; none if it lies behind the end. -/
def ahead (source : Source) : Bytes := source.data.drop source.position

/-- All that reading from the position would give. -/
def reading (source : Source) : Reading := source.place.readOn [] (Line.cut source.ahead)

/-- The first line, or `none` at the end of input, and the place behind it. What lies behind that is
not looked at. -/
def firstLine (source : Source) : Except (Fault × Place) (Option (List Char) × Place) :=
  match Line.first? source.ahead with
  | some line =>
    match source.place.readLine line with
    | .ok taken => .ok (some taken.raw, taken.after)
    | .error halt => .error halt
  | none =>
    match source.place.atEnd with
    | .complete place => .ok (none, place)
    | .failed fault place => .error (fault, place)

theorem firstLine_eq (source : Source) :
    source.firstLine =
      match source.reading.lines, source.reading.ending with
      | taken :: _, _ => .ok (some taken.raw, taken.after)
      | [], .complete place => .ok (none, place)
      | [], .failed fault place => .error (fault, place) := by
  rw [firstLine, reading, Line.first?_eq_head?]
  cases Line.cut source.ahead with
  | nil =>
    simp only [List.head?_nil, Place.readOn, List.reverse_nil]
    cases source.place.atEnd <;> rfl
  | cons line later =>
    rw [Place.readOn_cons]
    simp only [List.head?_cons]
    cases source.place.readLine line <;> rfl

/-- Moves without counting as a seek of the reader. -/
def reposition (source : Source) (position : Nat) : Source := { source with position }

def spendSeek? (source : Source) : Option Source :=
  match source.seeks with
  | none => some source
  | some 0 => none
  | some (left + 1) => some { source with seeks := some left }

end Source
end LeadingComment
