import LeadingComment.Proofs.Plan

namespace LeadingComment

def Line.text? (line : Bytes) : Option String :=
  (Utf8.decode? line).map fun raw => String.ofList (chomp raw)

theorem Place.readLine_calm (position : Nat) (line : Bytes) :
    ({ position } : Place).readLine line =
      match Utf8.decode? line with
      | some raw => .ok { raw, after := { position := position + line.length } }
      | none => .error (.invalidText, { position := position + line.length }) := by
  have passed : ({ position } : Place).pass line.length =
      (none, { position := position + line.length }) := rfl
  have stop : (if Line.isEnded line then Ending.complete { position := position + line.length }
      else ({ position := position + line.length } : Place).atEnd) =
      .complete { position := position + line.length } := by
    split <;> rfl
  rw [readLine, passed]
  simp only [stop]
  cases Utf8.decode? line <;> rfl

namespace Choice

/-- Why a choice needs no line behind `rest` once it has taken `count` lines. -/
inductive Settles (choice : Choice) (count : Nat) : (rest later : List Bytes) → Prop where
  | met {later : List Bytes} (met : choice.most = some count) : Settles choice count [] later
  | closed {later : List Bytes} {taken : Taken} (verdict : choice.verdict taken = .takeLast) :
      Settles choice count [] later
  | left {later : List Bytes} {line : Bytes} {taken : Taken}
      (decoded : Utf8.decode? line = some taken.raw) (verdict : choice.verdict taken = .leave) :
      Settles choice count [line] later
  | exhausted : Settles choice count [] []

/-- How a choice parts lines that begin at a position, `count` others having been taken before. -/
structure Parting (choice : Choice) (count position : Nat) (lines : List Bytes)
    (selection : Selection) (emitted rest later : List Bytes) : Prop where
  split : lines = emitted ++ rest ++ later
  texts : emitted.map Line.text? = selection.lines.map fun taken => some taken.text
  /-- There was room for each line that was taken. -/
  unmet : ∀ earlier < emitted.length, choice.most ≠ some (count + earlier)
  /-- The source stands behind the line at which the choice stops. -/
  ending :
    selection.ending = .complete { position := position + (emitted ++ rest).flatten.length } ∧
        choice.Settles (count + emitted.length) rest later ∨
      selection.ending =
          .failed .invalidText { position := position + (emitted ++ rest).flatten.length } ∧
        ∃ line, rest = [line] ∧ Utf8.decode? line = none

theorem Parting.cons {choice : Choice} {count position : Nat} {line : Bytes}
    {lines emitted rest later : List Bytes} {selection : Selection} {taken : Taken}
    (parting : choice.Parting (count + 1) (position + line.length) lines selection emitted rest later)
    (unmet : choice.most ≠ some count) (text : Line.text? line = some taken.text) :
    choice.Parting count position (line :: lines)
      { selection with lines := taken :: selection.lines } (line :: emitted) rest later := by
  have behind : position + line.length + (emitted ++ rest).flatten.length =
      position + (line :: emitted ++ rest).flatten.length := by
    simp [Nat.add_assoc]
  have number : count + 1 + emitted.length = count + (line :: emitted).length := by
    rw [List.length_cons, Nat.add_assoc, Nat.add_comm 1]
  have ending := parting.ending
  rw [behind, number] at ending
  constructor
  case split =>
    rw [parting.split]
    rfl
  case texts =>
    rw [List.map_cons, text, parting.texts]
    rfl
  case unmet =>
    intro earlier small
    cases earlier with
    | zero => exact unmet
    | succ earlier =>
      have later_unmet := parting.unmet earlier (Nat.lt_of_succ_lt_succ small)
      rwa [Nat.add_assoc, Nat.add_comm 1] at later_unmet
  case ending => exact ending

theorem Parting.length {choice : Choice} {count position : Nat}
    {lines emitted rest later : List Bytes} {selection : Selection}
    (parting : choice.Parting count position lines selection emitted rest later) :
    selection.lines.length = emitted.length := by
  have lengths := congrArg List.length parting.texts
  simpa using lengths.symm

private theorem parting_none {choice : Choice} {count position : Nat} {lines : List Bytes}
    {selection : Selection} (empty : selection.lines = [])
    (complete : selection.ending = .complete { position })
    (settles : choice.Settles count [] lines) :
    choice.Parting count position lines selection [] [] lines := by
  constructor
  case split => rfl
  case texts =>
    rw [empty]
    rfl
  case unmet =>
    intro earlier small
    cases small
  case ending => exact .inl ⟨complete, settles⟩

/-- Without traps, what a choice selects parts the lines. -/
theorem select_parting (choice : Choice) (lines : List Bytes) (count position : Nat) :
    let reading := ({ position } : Place).readOn [] lines
    ∃ emitted rest later, choice.Parting count position lines
      (choice.select reading.ending count { position } reading.lines) emitted rest later := by
  induction lines generalizing count position with
  | nil =>
    have nothing : choice.select (.complete { position }) count { position } [] =
        { lines := [], ending := .complete { position }
          notes := if choice.most = some count then [] else choice.endNotes } := by
      rw [select]
      split <;> rfl
    refine ⟨[], [], [], parting_none ?_ ?_ .exhausted⟩
    · exact congrArg (fun selection : Selection => selection.lines) nothing
    · exact congrArg (fun selection : Selection => selection.ending) nothing
  | cons line later hyp =>
    by_cases met : choice.most = some count
    · refine ⟨[], [], line :: later, ?_⟩
      rw [select_of_met met]
      exact parting_none rfl rfl (.met met)
    · simp only [Place.readOn_cons, Place.readLine_calm]
      cases decoded : Utf8.decode? line with
      | none =>
        refine ⟨[], [line], later, rfl, ?_, by simp, .inr ⟨?_, line, rfl, decoded⟩⟩
        · simp [select, met]
        · simp [select, met]
      | some raw =>
        simp only [select, if_neg met]
        obtain ⟨taken, shown⟩ : ∃ taken : Taken,
          taken = { raw, after := { position := position + line.length } } := ⟨_, rfl⟩
        have same : Utf8.decode? line = some taken.raw := by rw [decoded, shown]
        have text : Line.text? line = some taken.text := by
          rw [Line.text?, same]
          rfl
        rw [← shown]
        cases verdict : choice.verdict taken with
        | leave => exact ⟨[], [line], later, rfl, rfl, by simp, .inl ⟨by simp, .left same verdict⟩⟩
        | takeLast =>
          exact ⟨[line], [], later, rfl, by simp [text], by simpa using met,
            .inl ⟨by simp, .closed verdict⟩⟩
        | take =>
          obtain ⟨emitted, rest, others, parting⟩ := hyp (count + 1) (position + line.length)
          exact ⟨line :: emitted, rest, others, parting.cons met text⟩

end Choice

namespace Source

variable {State : Type}

theorem deliver_granting (source : Source) (respond : Call → State → State) (state : State)
    (selection : Selection) :
    let outcome := source.deliver (Sink.granting respond) state selection
    outcome.result = selection.ending.result selection.lines.length ∧
      outcome.source = source.moveTo selection.ending.place ∧
      outcome.sink = selection.calls.foldl (fun state call => respond call state) state := by
  intro outcome
  refine ⟨?_, ?_, ?_⟩
  · rw [deliver_result, Sink.serve_granting]
    rfl
  · rcases source.deliver_source (Sink.granting respond) state selection with
      ⟨before, taken, after, fault, _, made, _⟩ | ⟨_, final⟩
    · rw [Sink.made_granting] at made
      have refused : (taken.call, some fault) ∈ Call.granted selection.calls := by simp [made]
      cases (Call.mem_granted.mp refused).2
    · exact final
  · rw [deliver_sink, Sink.serve_granting]

/-- Without traps and refusals, handing over takes what the choice selects of the lines ahead. -/
theorem handOver_parting (data : Bytes) (position : Nat) (choice : Choice)
    (respond : Call → State → State) (state : State) :
    let source : Source := { data, position }
    let outcome := source.handOver choice (Sink.granting respond) state
    ∃ selection emitted rest later,
      choice.Parting 0 position (Line.cut source.ahead) selection emitted rest later ∧
      outcome.result = selection.ending.result selection.lines.length ∧
      outcome.source = source.moveTo selection.ending.place ∧
      outcome.sink = selection.calls.foldl (fun state call => respond call state) state := by
  intro source outcome
  obtain ⟨emitted, rest, later, parting⟩ := choice.select_parting (Line.cut source.ahead) 0 position
  refine ⟨_, emitted, rest, later, parting, ?_⟩
  have delivered := source.handOver_eq_deliver choice (Sink.granting respond) state
  have granted := source.deliver_granting respond state
    (choice.select source.reading.ending 0 source.place source.reading.lines)
  rwa [← delivered] at granted

end Source
end LeadingComment
