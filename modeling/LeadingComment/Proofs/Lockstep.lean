import LeadingComment.Proofs.CommentMode
import LeadingComment.Proofs.DetectionEffect
import Mathlib.Data.List.Forall2

/-! Two sources that are read in lockstep: line by line the same text is handed over, and both stand at
related places. What a choice selects depends on the text of the lines only, so processing the two makes
the same calls and comes to the same result, at places that are related again. -/
namespace LeadingComment

variable {State Value Other : Type} {related : Place → Place → Prop}

/-- Two lines for which the same text is handed over, with related places behind them. -/
structure Taken.Alike (related : Place → Place → Prop) (taken other : Taken) : Prop where
  chars : taken.chars = other.chars
  after : related taken.after other.after

inductive Ending.Alike (related : Place → Place → Prop) : Ending → Ending → Prop where
  | complete {place other : Place} (places : related place other) :
      Alike related (.complete place) (.complete other)
  | failed {fault : Fault} {place other : Place} (places : related place other) :
      Alike related (.failed fault place) (.failed fault other)

/-- Reading something gives results that are alike, or fails in the same way at related places. -/
inductive ReadAlike (related : Place → Place → Prop) {Result : Type} (alike : Result → Result → Prop) :
    Except (Fault × Place) Result → Except (Fault × Place) Result → Prop where
  | ok {result other : Result} (results : alike result other) : ReadAlike related alike (.ok result) (.ok other)
  | failed {fault : Fault} {place other : Place} (places : related place other) :
      ReadAlike related alike (.error (fault, place)) (.error (fault, other))

structure Reading.Alike (related : Place → Place → Prop) (reading other : Reading) : Prop where
  lines : List.Forall₂ (Taken.Alike related) reading.lines other.lines
  ending : Ending.Alike related reading.ending other.ending

structure Selection.Alike (related : Place → Place → Prop) (selection other : Selection) : Prop
    extends Reading.Alike related selection.toReading other.toReading where
  notes : selection.notes = other.notes

/-- The same is handed over with the same result, and the sources are left at related places. -/
structure Outcome.Alike (related : Place → Place → Prop) (outcome other : Outcome State Value) : Prop where
  result : outcome.result = other.result
  sink : outcome.sink = other.sink
  notes : outcome.notes = other.notes
  seeks : outcome.source.seeks = other.source.seeks
  place : related outcome.source.place other.source.place

namespace Choice

/-- The text of a line decides. -/
def IsTextual (choice : Choice) : Prop :=
  ∀ taken other : Taken, taken.chars = other.chars → choice.verdict taken = choice.verdict other

theorem all_isTextual : all.IsTextual := fun _ _ _ => rfl

theorem head_isTextual (count : Nat) : (head count).IsTextual := fun _ _ _ => rfl

theorem comment_isTextual (style : Style) : (comment style).IsTextual := by
  intro taken other same
  rw [comment]
  cases style.delimiters with
  | line opening =>
    have goes : continues opening taken = continues opening other := congrArg (goesOn opening) same
    simp only [whileContinued, goes]
  | block opening closing =>
    have ends : closes closing taken = closes closing other :=
      congrArg (Token.occursIn closing.toList) same
    simp only [untilClosed, ends]

theorem select_alike {choice : Choice} (textual : choice.IsTextual) {ending otherEnding : Ending}
    (endings : Ending.Alike related ending otherEnding) {lines others : List Taken}
    (alike : List.Forall₂ (Taken.Alike related) lines others) (count : Nat) {place other : Place}
    (places : related place other) :
    Selection.Alike related (choice.select ending count place lines)
      (choice.select otherEnding count other others) := by
  induction alike generalizing count place other with
  | nil =>
    simp only [select]
    split
    · exact ⟨⟨.nil, .complete places⟩, rfl⟩
    · cases endings with
      | complete met => exact ⟨⟨.nil, .complete met⟩, rfl⟩
      | failed met => exact ⟨⟨.nil, .failed met⟩, rfl⟩
  | @cons taken otherTaken lines others first later hyp =>
    simp only [select, textual taken otherTaken first.chars]
    split
    · exact ⟨⟨.nil, .complete places⟩, rfl⟩
    · cases choice.verdict otherTaken with
      | leave => exact ⟨⟨.nil, .complete first.after⟩, rfl⟩
      | takeLast => exact ⟨⟨.cons first .nil, .complete first.after⟩, rfl⟩
      | take =>
        have rest := hyp (count + 1) first.after
        exact ⟨⟨.cons first rest.lines, rest.ending⟩, rest.notes⟩

end Choice

namespace Outcome.Alike

variable {outcome other : Outcome State Value}

theorem map (alike : outcome.Alike related other) (change : Value → Other) :
    (outcome.map change).Alike related (other.map change) :=
  { alike with result := congrArg (Except.map change) alike.result }

theorem noteFirst (alike : outcome.Alike related other) (notes : List Note) :
    (outcome.noteFirst notes).Alike related (other.noteFirst notes) :=
  { alike with notes := congrArg (notes ++ ·) alike.notes }

end Outcome.Alike

namespace Source

theorem deliverFrom_alike {source other : Source} (seeks : source.seeks = other.seeks) (sink : Sink State)
    {ending otherEnding : Ending} (endings : Ending.Alike related ending otherEnding) (notes : List Note)
    {lines others : List Taken} (alike : List.Forall₂ (Taken.Alike related) lines others) (count : Nat)
    (state : State) :
    (source.deliverFrom sink ending notes count state lines).Alike related
      (other.deliverFrom sink otherEnding notes count state others) := by
  induction alike generalizing count state with
  | nil =>
    cases endings with
    | complete places => exact ⟨rfl, rfl, rfl, seeks, places⟩
    | failed places => exact ⟨rfl, rfl, rfl, seeks, places⟩
  | @cons taken otherTaken lines others first later hyp =>
    have text : taken.text = otherTaken.text := congrArg String.ofList first.chars
    rw [deliverFrom, deliverFrom, text]
    rcases sink.emit otherTaken.text state with ⟨_ | fault, next⟩
    · exact hyp (count + 1) next
    · exact ⟨rfl, rfl, rfl, seeks, first.after⟩

/-- The two are read in lockstep from where they stand, and again once they have gone back there. -/
structure Alike (related : Place → Place → Prop) (source other : Source) : Prop where
  seeks : source.seeks = other.seeks
  place : related source.place other.place
  back : ∀ {place otherPlace : Place}, related place otherPlace →
    related { place with position := source.position } { otherPlace with position := other.position }
  reading : ∀ {traps others : List Trap},
    related { position := source.position, traps } { position := other.position, traps := others } →
    Reading.Alike related { source with traps }.reading { other with traps := others }.reading

variable {source other : Source}

theorem Alike.handOver (alike : source.Alike related other) {choice : Choice} (textual : choice.IsTextual)
    (sink : Sink State) (state : State) :
    (source.handOver choice sink state).Alike related (other.handOver choice sink state) := by
  have readings : Reading.Alike related source.reading other.reading := alike.reading alike.place
  have selections := choice.select_alike textual readings.ending readings.lines 0 alike.place
  rw [handOver_eq_deliver, handOver_eq_deliver, deliver, deliver, selections.notes]
  exact deliverFrom_alike alike.seeks sink selections.ending _ selections.lines 0 state

/-- The line that a whole reading begins with, or none at the end of input. -/
def HeadsAlike (related : Place → Place → Prop) (head other : Option (List Char) × Place) : Prop :=
  head.1.map Line.chomp = other.1.map Line.chomp ∧ related head.2 other.2

theorem firstLine_alike (readings : Reading.Alike related source.reading other.reading) :
    ReadAlike related (HeadsAlike related) source.firstLine other.firstLine := by
  rw [firstLine_eq, firstLine_eq]
  generalize source.reading = reading at readings ⊢
  generalize other.reading = otherReading at readings ⊢
  obtain ⟨lines, ending⟩ := reading
  obtain ⟨others, otherEnding⟩ := otherReading
  obtain ⟨pairs, endings⟩ := readings
  cases pairs with
  | nil =>
    cases endings with
    | complete places => exact .ok ⟨rfl, places⟩
    | failed places => exact .failed places
  | cons first later => exact .ok ⟨congrArg some first.chars, first.after⟩

end Source

theorem Catalog.match?_of_chomp (catalog : Catalog) {line other : List Char}
    (same : Line.chomp line = Line.chomp other) : catalog.match? line = catalog.match? other := by
  have trimmed : trim line = trim other := by rw [← Line.trim_chomp, same, Line.trim_chomp]
  rw [match?, match?, trimmed]

theorem Detection.judge_of_chomp (catalog : Catalog) {line other : Option (List Char)}
    (same : line.map Line.chomp = other.map Line.chomp) : judge catalog line = judge catalog other := by
  cases line with
  | none =>
    cases other with
    | none => rfl
    | some text => cases same
  | some line =>
    cases other with
    | none => cases same
    | some text =>
      have texts : Line.chomp line = Line.chomp text := Option.some.inj same
      rw [judge, judge, catalog.match?_of_chomp texts]

/-- A detection that succeeds leaves sources that can be read in lockstep again. -/
structure Detection.Alike (related : Place → Place → Prop) (detection other : Detection) : Prop where
  result : detection.result = other.result
  notes : detection.notes = other.notes
  seeks : detection.source.seeks = other.source.seeks
  place : related detection.source.place other.source.place
  again : ∀ found, detection.result = .ok found → detection.source.Alike related other.source

namespace Source

variable {source other : Source}

/-- Traps that have been spent and seeks that are left make no difference, provided that they are alike. -/
theorem Alike.returned (alike : source.Alike related other) {place otherPlace : Place}
    (places : related place otherPlace) (seeks : Option Nat) :
    Alike related { source with traps := place.traps, seeks }
      { other with traps := otherPlace.traps, seeks } where
  seeks := rfl
  place := alike.back places
  back := alike.back
  reading := alike.reading

theorem Alike.detect (alike : source.Alike related other) (catalog : Catalog) :
    Detection.Alike related (source.detect catalog) (other.detect catalog) := by
  rw [Source.detect, Source.detect, spendSeek?_eq, spendSeek?_eq, alike.seeks]
  by_cases spent : other.seeks = some 0
  · simp only [spent, ↓reduceIte]
    exact ⟨rfl, rfl, alike.seeks, alike.place, by simp⟩
  simp only [spent, ↓reduceIte]
  have heads : ReadAlike related (HeadsAlike related)
      ({ source with seeks := other.seeks.map (· - 1) } : Source).firstLine
      ({ other with seeks := other.seeks.map (· - 1) } : Source).firstLine :=
    firstLine_alike (alike.reading alike.place)
  generalize ({ source with seeks := other.seeks.map (· - 1) } : Source).firstLine = head at heads ⊢
  generalize ({ other with seeks := other.seeks.map (· - 1) } : Source).firstLine = otherHead at heads ⊢
  cases heads with
  | failed places => exact ⟨rfl, rfl, rfl, places, by simp⟩
  | @ok line otherLine lines =>
    obtain ⟨lines, places⟩ := lines
    simp only [spendSeek?_eq, moveTo, Detection.judge_of_chomp catalog lines]
    by_cases last : other.seeks.map (· - 1) = some 0
    · simp only [last, ↓reduceIte]
      exact ⟨rfl, rfl, rfl, places, by simp⟩
    · simp only [last, ↓reduceIte]
      have again := alike.returned places ((other.seeks.map (· - 1)).map (· - 1))
      exact ⟨rfl, rfl, rfl, again.place, fun _ _ => again⟩

theorem Alike.process (alike : source.Alike related other) (catalog : Catalog) (mode : Mode)
    (sink : Sink State) (state : State) :
    (source.process catalog mode sink state).Alike related (other.process catalog mode sink state) := by
  cases mode with
  | cat => exact (alike.handOver Choice.all_isTextual sink state).map _
  | head count => exact (alike.handOver (Choice.head_isTextual count) sink state).map _
  | comment =>
    have detections := alike.detect catalog
    simp only [Source.process]
    rw [← detections.result, ← detections.notes]
    cases detected : (source.detect catalog).result with
    | error fault => exact ⟨rfl, rfl, rfl, detections.seeks, detections.place⟩
    | ok found =>
      cases found with
      | none => exact ⟨rfl, rfl, rfl, detections.seeks, detections.place⟩
      | some style =>
        have again := detections.again (some style) detected
        exact ((again.handOver (Choice.comment_isTextual style) sink state).map _).noteFirst _

end Source

namespace Place

/-- Striking the traps at the next offset and going on behind it keep the places related. -/
structure KeepsStep (related : Place → Place → Prop) : Prop where
  struck : ∀ {place other : Place}, related place other →
    (strike place.position place.traps).1 = (strike other.position other.traps).1 ∧
      related { place with traps := (strike place.position place.traps).2 }
        { other with traps := (strike other.position other.traps).2 }
  next : ∀ {place other : Place}, related place other →
    related { place with position := place.position + 1 } { other with position := other.position + 1 }

namespace KeepsStep

variable (keeps : KeepsStep related)
include keeps

theorem strike_alike {place other : Place} (places : related place other) :
    ∃ fault traps others, strike place.position place.traps = (fault, traps) ∧
      strike other.position other.traps = (fault, others) ∧
      related { place with traps } { other with traps := others } := by
  obtain ⟨faults, struck⟩ := keeps.struck places
  exact ⟨_, _, (strike other.position other.traps).2, rfl, Prod.ext faults.symm rfl, struck⟩

theorem pass {place other : Place} (places : related place other) (count : Nat) :
    (place.pass count).1 = (other.pass count).1 ∧ related (place.pass count).2 (other.pass count).2 := by
  rw [pass_eq_passEach, pass_eq_passEach]
  induction count generalizing place other with
  | zero => exact ⟨rfl, places⟩
  | succ count hyp =>
    obtain ⟨fault, traps, others, here, there, struck⟩ := keeps.strike_alike places
    rw [passEach, passEach, here, there]
    cases fault with
    | some fault => exact ⟨rfl, struck⟩
    | none => exact hyp (keeps.next struck)

theorem atEnd {place other : Place} (places : related place other) :
    Ending.Alike related place.atEnd other.atEnd := by
  obtain ⟨fault, traps, others, here, there, struck⟩ := keeps.strike_alike places
  rw [Place.atEnd, Place.atEnd, here, there]
  cases fault with
  | some fault => exact .failed struck
  | none => exact .complete struck

theorem readLine {place other : Place} (places : related place other) (line : Bytes) :
    ReadAlike related (Taken.Alike related) (place.readLine line) (other.readLine line) := by
  have met := keeps.pass places line.length
  rw [Place.readLine, Place.readLine]
  generalize place.pass line.length = here at met ⊢
  generalize other.pass line.length = there at met ⊢
  obtain ⟨fault, after⟩ := here
  obtain ⟨otherFault, otherAfter⟩ := there
  obtain ⟨faults, passed⟩ := met
  cases faults
  cases fault with
  | some fault => exact .failed passed
  | none =>
    -- The end of input is met before the bytes are decoded, so a fault there comes first.
    have stops : Ending.Alike related (if Line.isEnded line then .complete after else after.atEnd)
        (if Line.isEnded line then .complete otherAfter else otherAfter.atEnd) := by
      split
      · exact .complete passed
      · exact keeps.atEnd passed
    simp only
    generalize (if Line.isEnded line then Ending.complete after else after.atEnd) = stop at stops ⊢
    generalize (if Line.isEnded line then Ending.complete otherAfter else otherAfter.atEnd) = otherStop
      at stops ⊢
    cases stops with
    | failed ended => exact .failed ended
    | complete ended =>
      cases Utf8.decode? line with
      | none => exact .failed ended
      | some raw => exact .ok ⟨rfl, ended⟩

theorem readOn {place other : Place} (places : related place other) (lines : List Bytes) :
    Reading.Alike related (place.readOn [] lines) (other.readOn [] lines) := by
  induction lines generalizing place other with
  | nil => exact ⟨.nil, keeps.atEnd places⟩
  | cons line later hyp =>
    have reads := keeps.readLine places line
    rw [readOn_cons, readOn_cons]
    generalize place.readLine line = read at reads ⊢
    generalize other.readLine line = otherRead at reads ⊢
    cases reads with
    | failed met => exact ⟨.nil, .failed met⟩
    | ok first =>
      obtain ⟨rest, ending⟩ := hyp first.after
      exact ⟨.cons first rest, ending⟩

end KeepsStep
end Place
end LeadingComment
