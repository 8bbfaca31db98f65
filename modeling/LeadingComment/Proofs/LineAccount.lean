import LeadingComment.Proofs.Parting

namespace LeadingComment

/-- An operation on a source and a sink. -/
inductive Task where
  | head (count : Nat)
  | cat
  | extract (style : Style)
deriving DecidableEq, Repr

def Task.choice : Task → Choice
  | head count => .head count
  | cat => .all
  | extract style => .comment style

/-- What one task has done: its result, the lines it has handed over and their texts, and the line at
which it has stopped, if there is one. -/
structure Share where
  task : Task
  result : Except StreamFault Nat
  emitted : List Bytes
  texts : List String
  rest : List Bytes

namespace Share

def lines (share : Share) : List Bytes := share.emitted ++ share.rest

def calls (share : Share) : List Call :=
  share.texts.map Call.emit ++
    match share.result with
    | .ok _ => [.separator]
    | .error _ => []

/-- What a task owes to its sink, given all lines ahead of it. -/
structure Fair (share : Share) (ahead : List Bytes) : Prop where
  texts : share.emitted.map Line.text? = share.texts.map some
  counted : ∀ count, share.result = .ok count → count = share.emitted.length
  /-- A task that succeeds takes a line without handing it over only where a line comment ends. -/
  stopped : ∀ count, share.result = .ok count → share.rest = [] ∨
    ∃ style opening line raw, share.task = .extract style ∧ style.delimiters = .line opening ∧
      share.rest = [line] ∧ Utf8.decode? line = some raw ∧
      Choice.goesOn opening (Line.chomp raw) = false
  failed : ∀ fault, share.result = .error fault → fault = .read .invalidText ∧
    ∃ line, share.rest = [line] ∧ Utf8.decode? line = none
  head : ∀ wanted count, share.task = .head wanted → share.result = .ok count →
    share.emitted.length = min wanted ahead.length
  cat : ∀ count, share.task = .cat → share.result = .ok count → share.emitted = ahead

private theorem left_of_settles {task : Task} {count : Nat} {rest later : List Bytes}
    (settles : task.choice.Settles count rest later) : rest = [] ∨
      ∃ style opening line raw, task = .extract style ∧ style.delimiters = .line opening ∧
        rest = [line] ∧ Utf8.decode? line = some raw ∧
        Choice.goesOn opening (Line.chomp raw) = false := by
  cases settles with
  | met met => exact .inl rfl
  | closed verdict => exact .inl rfl
  | exhausted => exact .inl rfl
  | @left _ line taken decoded verdict =>
    right
    cases task with
    | head wanted => cases verdict
    | cat => cases verdict
    | extract style =>
      rw [Task.choice, Choice.comment] at verdict
      cases delimiters : style.delimiters with
      | line opening =>
        rw [delimiters] at verdict
        refine ⟨style, opening, line, taken.raw, rfl, delimiters, rfl, decoded, ?_⟩
        by_cases goes : Choice.continues opening taken = true
        · simp [Choice.whileContinued, goes] at verdict
        · exact Bool.not_eq_true _ ▸ goes
      | block opening closing =>
        rw [delimiters] at verdict
        by_cases closes : Choice.closes closing taken = true
        · simp [Choice.untilClosed, closes] at verdict
        · simp [Choice.untilClosed, closes] at verdict

private theorem head_of_settles {wanted : Nat} {emitted rest later : List Bytes}
    (unmet : ∀ earlier < emitted.length, wanted ≠ earlier)
    (settles : (Task.head wanted).choice.Settles emitted.length rest later) :
    emitted.length = min wanted (emitted ++ rest ++ later).length := by
  cases settles with
  | met met =>
    have reached : wanted = emitted.length := Option.some.inj met
    simp [reached]
  | closed verdict => cases verdict
  | left decoded verdict => cases verdict
  | exhausted =>
    have few : emitted.length ≤ wanted := by
      apply Nat.le_of_not_lt
      intro larger
      exact unmet wanted larger rfl
    simp [few]

private theorem cat_of_settles {count : Nat} {rest later : List Bytes}
    (settles : Task.cat.choice.Settles count rest later) : rest = [] ∧ later = [] := by
  cases settles with
  | met met => cases met
  | closed verdict => cases verdict
  | left decoded verdict => cases verdict
  | exhausted => exact ⟨rfl, rfl⟩

theorem fair_of_settles {task : Task} {emitted rest later : List Bytes} {texts : List String}
    (told : emitted.map Line.text? = texts.map some)
    (unmet : ∀ earlier < emitted.length, task.choice.most ≠ some earlier)
    (settles : task.choice.Settles emitted.length rest later) :
    Fair { task, result := .ok emitted.length, emitted, texts, rest } (emitted ++ rest ++ later) := by
  constructor
  case texts => exact told
  case counted =>
    intro count same
    cases same
    rfl
  case stopped =>
    intro _ _
    exact left_of_settles settles
  case failed =>
    intro fault failed
    cases failed
  case head =>
    rintro wanted count rfl _
    apply head_of_settles _ settles
    intro earlier small same
    exact unmet earlier small (congrArg some same)
  case cat =>
    rintro count rfl _
    obtain ⟨rfl, rfl⟩ := cat_of_settles settles
    simp

theorem fair_of_invalid {task : Task} {emitted : List Bytes} {line : Bytes} {texts : List String}
    (told : emitted.map Line.text? = texts.map some) (invalid : Utf8.decode? line = none)
    (ahead : List Bytes) :
    Fair { task, result := .error (.read .invalidText), emitted, texts, rest := [line] } ahead := by
  constructor
  case texts => exact told
  case counted =>
    intro count ok
    cases ok
  case stopped =>
    intro count ok
    cases ok
  case failed =>
    intro fault failed
    cases failed
    exact ⟨rfl, line, rfl, invalid⟩
  case head =>
    intro wanted count _ ok
    cases ok
  case cat =>
    intro count _ ok
    cases ok

end Share

/-- Shares of the lines ahead, one after the other, up to the lines that are left. -/
inductive Ledger : List Bytes → List Share → List Bytes → Prop where
  | nil {left : List Bytes} : Ledger left [] left
  | cons {share : Share} {later left : List Bytes} {shares : List Share}
      (fair : share.Fair (share.lines ++ later)) (rest : Ledger later shares left) :
      Ledger (share.lines ++ later) (share :: shares) left

/-- Nothing is lost and nothing comes twice. -/
theorem Ledger.lines_eq {ahead left : List Bytes} {shares : List Share}
    (ledger : Ledger ahead shares left) : ahead = shares.flatMap Share.lines ++ left := by
  induction ledger with
  | nil => rfl
  | cons fair rest hyp => rw [List.flatMap_cons, List.append_assoc, ← hyp]

theorem Line.boundary_behind {data : Bytes} {position : Nat} {front back : List Bytes}
    (parts : cut (data.drop position) = front ++ back) :
    position + front.flatten.length = position ∨
      (data.take (position + front.flatten.length)).getLast? = some newline ∨
      position + front.flatten.length = data.length := by
  rcases boundary parts with none_taken | ended | all_taken
  · left
    rw [none_taken]
    rfl
  · right
    left
    rw [List.take_add, List.getLast?_append, ended]
    rfl
  · rw [all_taken, List.length_drop]
    by_cases within : position ≤ data.length
    · exact .inr (.inr (Nat.add_sub_cancel' within))
    · exact .inl (by omega)

structure Performance (State : Type) where
  results : List (Except StreamFault Nat)
  source : Source
  sink : State

namespace Source

variable {State : Type}

def perform (source : Source) (sink : Sink State) (state : State) : Task → Outcome State Nat
  | .head count => source.head count sink state
  | .cat => source.cat sink state
  | .extract style => source.extractComment style sink state

/-- Each task finds the source and the sink as the one before has left them, whatever its result. -/
def performAll (source : Source) (sink : Sink State) (state : State) : List Task → Performance State
  | [] => { results := [], source, sink := state }
  | task :: later =>
    let outcome := source.perform sink state task
    let performance := outcome.source.performAll sink outcome.sink later
    { performance with results := outcome.result :: performance.results }

theorem perform_eq_handOver (source : Source) (sink : Sink State) (state : State) (task : Task) :
    source.perform sink state task = source.handOver task.choice sink state := by
  cases task <;> rfl

/-- Without traps and refusals, a task has its share of the lines ahead and leaves the source behind
them. -/
theorem perform_share (data : Bytes) (position : Nat) (respond : Call → State → State)
    (state : State) (task : Task) :
    let source : Source := { data, position }
    let outcome := source.perform (Sink.granting respond) state task
    ∃ (share : Share) (later : List Bytes), share.task = task ∧ share.result = outcome.result ∧
      Line.cut source.ahead = share.lines ++ later ∧ share.Fair (share.lines ++ later) ∧
      outcome.source = { data, position := position + share.lines.flatten.length } ∧
      outcome.sink = share.calls.foldl (fun state call => respond call state) state := by
  intro source outcome
  obtain ⟨selection, emitted, rest, later, parting, result, final, sink⟩ :=
    handOver_parting data position task.choice respond state
  rw [← perform_eq_handOver] at result final sink
  have texts : emitted.map Line.text? = (selection.lines.map Taken.text).map some := by
    rw [parting.texts, List.map_map]
    rfl
  have unmet : ∀ earlier < emitted.length, task.choice.most ≠ some earlier := by
    intro earlier small
    have apart := parting.unmet earlier small
    rwa [Nat.zero_add] at apart
  rw [parting.length] at result
  rw [Selection.calls, Taken.map_call] at sink
  rcases parting.ending with ⟨complete, settles⟩ | ⟨failed, line, rfl, invalid⟩
  · rw [complete] at result final sink
    rw [Nat.zero_add] at settles
    let share : Share :=
      { task, result := .ok emitted.length, emitted, texts := selection.lines.map Taken.text, rest }
    exact ⟨share, later, rfl, result.symm, parting.split,
      Share.fair_of_settles texts unmet settles, final, sink⟩
  · rw [failed] at result final sink
    let share : Share :=
      { task, result := .error (.read .invalidText), emitted
        texts := selection.lines.map Taken.text, rest := [line] }
    exact ⟨share, later, rfl, result.symm, parting.split, Share.fair_of_invalid texts invalid _,
      final, sink⟩

private theorem performAll_shares (data : Bytes) (position : Nat) (respond : Call → State → State)
    (state : State) (tasks : List Task) :
    let source : Source := { data, position }
    let performance := source.performAll (Sink.granting respond) state tasks
    ∃ (shares : List Share) (left : List Bytes), Ledger (Line.cut source.ahead) shares left ∧
      shares.map Share.task = tasks ∧ shares.map Share.result = performance.results ∧
      performance.sink =
        (shares.flatMap Share.calls).foldl (fun state call => respond call state) state ∧
      performance.source =
        { data, position := position + (shares.flatMap Share.lines).flatten.length } := by
  induction tasks generalizing position state with
  | nil => exact ⟨[], Line.cut (data.drop position), .nil, rfl, rfl, rfl, rfl⟩
  | cons task tasks hyp =>
    intro source performance
    obtain ⟨share, later, same, result, split, fair, final, sink⟩ :=
      perform_share data position respond state task
    obtain ⟨shares, left, ledger, sames, results, last, finals⟩ :=
      hyp (position + share.lines.flatten.length)
        (share.calls.foldl (fun state call => respond call state) state)
    have next : Line.cut ({ data, position := position + share.lines.flatten.length } : Source).ahead =
        later := by
      rw [ahead, ← List.drop_drop]
      exact Line.cut_drop split
    rw [next] at ledger
    rw [← final, ← sink] at results last finals
    refine ⟨share :: shares, left, ?_, ?_, ?_, ?_, ?_⟩
    · rw [split]
      exact .cons fair ledger
    · rw [List.map_cons, same, sames]
    · rw [List.map_cons, result, results]
      rfl
    · rw [List.flatMap_cons, List.foldl_append, ← sink]
      exact last
    · rw [List.flatMap_cons, List.flatten_append, List.length_append, ← Nat.add_assoc]
      exact finals

/-- Several tasks share the lines ahead of a source: none is lost and none comes twice. The sink gets
the texts of the lines that are handed over, and the source ends up behind the last share. -/
theorem performAll_ledger (data : Bytes) (position : Nat) (respond : Call → State → State)
    (state : State) (tasks : List Task) :
    let source : Source := { data, position }
    let performance := source.performAll (Sink.granting respond) state tasks
    ∃ (shares : List Share) (left : List Bytes),
      Ledger (Line.cut source.ahead) shares left ∧
      Line.cut source.ahead = shares.flatMap Share.lines ++ left ∧
      shares.map Share.task = tasks ∧ shares.map Share.result = performance.results ∧
      performance.sink =
        (shares.flatMap Share.calls).foldl (fun state call => respond call state) state ∧
      performance.source =
        { data, position := position + (shares.flatMap Share.lines).flatten.length } ∧
      (performance.source.position = position ∨
        (data.take performance.source.position).getLast? = some Line.newline ∨
        performance.source.position = data.length) := by
  intro source performance
  obtain ⟨shares, left, ledger, tasks_eq, results, sink, final⟩ :=
    performAll_shares data position respond state tasks
  refine ⟨shares, left, ledger, ledger.lines_eq, tasks_eq, results, sink, final, ?_⟩
  have stands : performance.source.position =
      position + (shares.flatMap Share.lines).flatten.length := by rw [final]
  rw [stands]
  exact Line.boundary_behind ledger.lines_eq

end Source
end LeadingComment
