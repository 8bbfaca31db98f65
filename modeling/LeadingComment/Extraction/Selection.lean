import LeadingComment.Extraction

/-! What is handed over, told by a whole reading. A selection picks lines of the reading and fixes
where the source stops; delivering it hands the lines over one by one, a separator last. Reading line
by line comes to the same as delivering a selection: `cat_eq_deliver`, `head_eq_deliver` and
`extractComment_eq_deliver`. -/
namespace LeadingComment

/-- The lines to hand over, how reading them ends, and what is noted once they are all over. -/
structure Selection extends Reading where
  notes : List Note := []
deriving DecidableEq, Repr

namespace Selection

def all (reading : Reading) : Selection := { toReading := reading }

/-- At most `count` lines from `start`; none is read that is not handed over. -/
def head (count : Nat) (start : Place) (reading : Reading) : Selection :=
  if reading.lines.length < count then all reading
  else
    let lines := reading.lines.take count
    { lines, ending := .complete ((lines.getLast?.map Taken.after).getD start) }

/-- The lines up to the first that does not go on; that one is read but not handed over. -/
def whileContinued (opening : String) (reading : Reading) : Selection :=
  match reading.lines.dropWhile (Choice.continues opening) with
  | [] => all reading
  | stopper :: _ =>
    { lines := reading.lines.takeWhile (Choice.continues opening)
      ending := .complete stopper.after }

def untilClosed (style : Style) (closing : String) (reading : Reading) : Selection :=
  match reading.lines.dropWhile fun taken => !Choice.closes closing taken with
  | [] =>
    match reading.ending with
    | .complete _ => { toReading := reading, notes := [.unclosed style] }
    | .failed _ _ => all reading
  | closer :: _ =>
    { lines := (reading.lines.takeWhile fun taken => !Choice.closes closing taken) ++ [closer]
      ending := .complete closer.after }

def comment (style : Style) (reading : Reading) : Selection :=
  match style.delimiters with
  | .line opening => whileContinued opening reading
  | .block _ closing => untilClosed style closing reading

end Selection

/-- What a choice selects after `count` lines up to a place, from the lines behind it. -/
def Choice.select (choice : Choice) (ending : Ending) (count : Nat) (place : Place) :
    List Taken → Selection
  | [] =>
    if choice.most = some count then { lines := [], ending := .complete place }
    else
      match ending with
      | .complete _ => { lines := [], ending, notes := choice.endNotes }
      | .failed _ _ => { lines := [], ending }
  | taken :: later =>
    if choice.most = some count then { lines := [], ending := .complete place }
    else
      match choice.verdict taken with
      | .leave => { lines := [], ending := .complete taken.after }
      | .takeLast => { lines := [taken], ending := .complete taken.after }
      | .take =>
        let rest := choice.select ending (count + 1) taken.after later
        { rest with lines := taken :: rest.lines }

namespace Choice

theorem select_of_met {choice : Choice} {count : Nat} (met : choice.most = some count)
    (ending : Ending) (place : Place) (lines : List Taken) :
    choice.select ending count place lines = { lines := [], ending := .complete place } := by
  cases lines <;> simp [select, met]

theorem select_all (reading : Reading) (count : Nat) (place : Place) :
    all.select reading.ending count place reading.lines = .all reading := by
  obtain ⟨lines, ending⟩ := reading
  induction lines generalizing count place with
  | nil => cases ending <;> rfl
  | cons taken later hyp =>
    have rest := hyp (count + 1) taken.after
    simp only [select, all, Selection.all] at rest ⊢
    simp [rest]

theorem select_head (reading : Reading) (count more : Nat) (place : Place) :
    (head (count + more)).select reading.ending count place reading.lines =
      .head more place reading := by
  obtain ⟨lines, ending⟩ := reading
  induction lines generalizing count more place with
  | nil =>
    cases more with
    | zero => simp [select, head, Selection.head]
    | succ more => cases ending <;> simp [select, head, Selection.head, Selection.all]
  | cons taken later hyp =>
    cases more with
    | zero => simp [select, head, Selection.head]
    | succ more =>
      have rest := hyp (count + 1) more taken.after
      rw [show count + 1 + more = count + (more + 1) by omega] at rest
      have unmet : (head (count + (more + 1))).most ≠ some count := by simp [head]
      rw [select, if_neg unmet]
      simp only at rest
      simp only [rest, Selection.head, List.length_cons, List.take_succ_cons,
        Nat.add_lt_add_iff_right]
      by_cases few : later.length < more
      · simp [few, head, Selection.all]
      · simp only [few, ↓reduceIte, List.getLast?_cons, head]
        cases (later.take more).getLast? <;> rfl

theorem select_whileContinued (opening : String) (reading : Reading) (count : Nat) (place : Place) :
    (whileContinued opening).select reading.ending count place reading.lines =
      .whileContinued opening reading := by
  obtain ⟨lines, ending⟩ := reading
  induction lines generalizing count place with
  | nil => cases ending <;> rfl
  | cons taken later hyp =>
    have rest := hyp (count + 1) taken.after
    simp only [select, whileContinued, Selection.whileContinued] at rest ⊢
    cases goes : continues opening taken with
    | false => simp [goes]
    | true =>
      simp only [goes, List.takeWhile_cons, List.dropWhile_cons, ↓reduceIte, rest]
      cases later.dropWhile (continues opening) <;> simp [Selection.all]

theorem select_untilClosed (style : Style) (closing : String) (reading : Reading) (count : Nat)
    (place : Place) :
    (untilClosed style closing).select reading.ending count place reading.lines =
      .untilClosed style closing reading := by
  obtain ⟨lines, ending⟩ := reading
  induction lines generalizing count place with
  | nil => cases ending <;> rfl
  | cons taken later hyp =>
    have rest := hyp (count + 1) taken.after
    simp only [select, untilClosed, Selection.untilClosed] at rest ⊢
    cases ends : closes closing taken with
    | true => simp [ends]
    | false =>
      simp only [ends, List.takeWhile_cons, List.dropWhile_cons, Bool.not_false, ↓reduceIte,
        Bool.false_eq_true, rest]
      cases later.dropWhile fun taken => !closes closing taken with
      | nil => cases ending <;> simp [Selection.all]
      | cons closer others => simp

theorem select_comment (style : Style) (reading : Reading) (place : Place) :
    (comment style).select reading.ending 0 place reading.lines = .comment style reading := by
  simp only [comment, Selection.comment]
  cases style.delimiters with
  | line opening => exact select_whileContinued opening reading 0 place
  | block opening closing => exact select_untilClosed style closing reading 0 place

end Choice

namespace Source

variable {State : Type}

/-- Hands over the remaining lines after `count` others. -/
def deliverFrom (source : Source) (sink : Sink State) (ending : Ending) (notes : List Note)
    (count : Nat) (state : State) : List Taken → Outcome State Nat
  | [] =>
    match ending with
    | .failed fault place =>
      { result := .error (.read fault), source := source.moveTo place, sink := state }
    | .complete place => source.separate sink notes { place, count, sink := state }
  | taken :: later =>
    match sink.emit taken.text state with
    | (none, state) => source.deliverFrom sink ending notes (count + 1) state later
    | (some fault, state) =>
      { result := .error (.write fault), source := source.moveTo taken.after, sink := state }

def deliver (source : Source) (sink : Sink State) (state : State) (selection : Selection) :
    Outcome State Nat :=
  source.deliverFrom sink selection.ending selection.notes 0 state selection.lines

theorem conclude_exhausted (source : Source) (sink : Sink State) (choice : Choice)
    (progress : Progress State) (unmet : choice.most ≠ some progress.count) :
    source.conclude sink choice.endNotes (Choice.finish (.ok progress)).1
        (Choice.finish (.ok progress)).2 =
      let selection := choice.select progress.place.atEnd progress.count progress.place []
      source.deliverFrom sink selection.ending selection.notes progress.count progress.sink
        selection.lines := by
  simp only [Choice.finish, Choice.select, if_neg unmet]
  cases progress.place.atEnd <;> rfl

/-- Going over lines that have been cut is delivering what the choice selects of them. -/
theorem conclude_walk (source : Source) (sink : Sink State) (choice : Choice) (lines : List Bytes)
    (progress : Progress State) (unmet : choice.most ≠ some progress.count) :
    source.conclude sink choice.endNotes
        (Choice.finish (lines.foldlM (choice.step sink) progress)).1
        (Choice.finish (lines.foldlM (choice.step sink) progress)).2 =
      let reading := progress.place.readOn [] lines
      let selection := choice.select reading.ending progress.count progress.place reading.lines
      source.deliverFrom sink selection.ending selection.notes progress.count progress.sink
        selection.lines := by
  induction lines generalizing progress with
  | nil => exact conclude_exhausted source sink choice progress unmet
  | cons line later hyp =>
    rw [List.foldlM_cons, Place.readOn_cons]
    simp only [Choice.step]
    cases progress.place.readLine line with
    | error halt =>
      obtain ⟨fault, place⟩ := halt
      simp [Choice.finish, Choice.select, unmet, conclude, deliverFrom, bind, Except.bind]
    | ok taken =>
      simp only [Choice.select, if_neg unmet]
      cases choice.verdict taken with
      | leave => rfl
      | takeLast =>
        simp only [deliverFrom]
        rcases sink.emit taken.text progress.sink with ⟨_ | fault, state⟩
        · rfl
        · rfl
      | take =>
        simp only [deliverFrom]
        rcases sink.emit taken.text progress.sink with ⟨_ | fault, state⟩
        · by_cases full : choice.most = some (progress.count + 1)
          · simp only [full]
            rw [Choice.select_of_met full]
            simp only [decide_true, Bool.or_true, ↓reduceIte]
            rfl
          · simp only [full]
            exact hyp _ full
        · rfl

/-- Handing over line by line is delivering what the choice selects of a whole reading. -/
theorem handOver_eq_deliver (source : Source) (choice : Choice) (sink : Sink State) (state : State) :
    source.handOver choice sink state =
      source.deliver sink state
        (choice.select source.reading.ending 0 source.place source.reading.lines) := by
  simp only [handOver, Choice.run, Line.walk_eq_foldlM, deliver, reading]
  by_cases met : choice.most = some 0
  · rw [Choice.select_of_met met, if_pos met]
    rfl
  · rw [if_neg met]
    exact conclude_walk source sink choice (Line.cut source.ahead)
      { place := source.place, sink := state } met

theorem cat_eq_deliver (source : Source) (sink : Sink State) (state : State) :
    source.cat sink state = source.deliver sink state (.all source.reading) := by
  rw [cat, handOver_eq_deliver, Choice.select_all]

theorem head_eq_deliver (source : Source) (count : Nat) (sink : Sink State) (state : State) :
    source.head count sink state =
      source.deliver sink state (.head count source.place source.reading) := by
  have selected := Choice.select_head source.reading 0 count source.place
  rw [Nat.zero_add] at selected
  rw [head, handOver_eq_deliver, selected]

theorem extractComment_eq_deliver (source : Source) (style : Style) (sink : Sink State)
    (state : State) :
    source.extractComment style sink state =
      source.deliver sink state (.comment style source.reading) := by
  rw [extractComment, handOver_eq_deliver, Choice.select_comment]

end Source
end LeadingComment
