import LeadingComment.Proofs.ReadFailure

namespace LeadingComment

namespace Plan

theorem calls_before {plan : Plan} {before after : List Call} {call : Call}
    (split : plan.calls = before ++ call :: after) :
    ∃ lines : List String, before = lines.map Call.emit := by
  rcases plan.calls_cases with ⟨lines, ⟨same, _⟩ | ⟨same, _⟩⟩
  · rw [same] at split
    obtain ⟨front, _, _, front_eq, _⟩ := List.map_eq_append_iff.mp split
    exact ⟨front, front_eq.symm⟩
  · rw [same] at split
    have within : before.length ≤ (lines.map Call.emit).length := by
      have total := congrArg List.length split
      simp only [List.length_append, List.length_cons, List.length_nil] at total
      omega
    have front := congrArg (List.take before.length) split
    rw [List.take_append_of_le_length within, List.take_left, ← List.map_take] at front
    exact ⟨_, front.symm⟩

variable {State : Type} (plan : Plan) (sink : Sink State) (state : State)

private theorem made_shape :
    ∃ lines : List String, (sink.made state plan.calls).map Prod.fst = lines.map Call.emit ∨
      (sink.made state plan.calls).map Prod.fst = lines.map Call.emit ++ [.separator] := by
  rcases sink.made_cases state plan.calls with ⟨_, same⟩ | ⟨before, call, fault, after, split, _, same⟩
  · rw [same, Call.map_fst_granted]
    obtain ⟨lines, ⟨calls, _⟩ | ⟨calls, _⟩⟩ := plan.calls_cases
    · exact ⟨lines, .inl calls⟩
    · exact ⟨lines, .inr calls⟩
  · obtain ⟨lines, rfl⟩ := calls_before split
    rw [same, List.map_append, Call.map_fst_granted]
    cases call with
    | emit line => exact ⟨lines ++ [line], .inl (by simp)⟩
    | separator => exact ⟨lines, .inr rfl⟩

private theorem made_separator {refusal : Option Fault}
    (member : (Call.separator, refusal) ∈ sink.made state plan.calls) :
    Call.separator ∈ plan.calls ∧ refusal = (sink.serve state plan.calls).1 ∧
      ∀ line answer, (Call.emit line, answer) ∈ sink.made state plan.calls → answer = none := by
  rcases sink.made_cases state plan.calls with
    ⟨served, same⟩ | ⟨before, call, fault, after, split, served, same⟩
  · rw [same, Call.mem_granted] at member
    refine ⟨member.1, member.2.trans served.symm, ?_⟩
    intro line answer taken
    rw [same, Call.mem_granted] at taken
    exact taken.2
  · obtain ⟨lines, rfl⟩ := calls_before split
    have last : (Call.separator, refusal) = (call, some fault) := by
      simpa [same] using member
    cases last
    refine ⟨by simp [split], served.symm, ?_⟩
    intro line answer taken
    rw [same] at taken
    rcases List.mem_append.mp taken with earlier | last
    · exact (Call.mem_granted.mp earlier).2
    · cases List.mem_singleton.mp last

private theorem refusedOr_eq_write_iff (fault : Fault) :
    refusedOr (sink.serve state plan.calls).1 plan.result = .error (.write fault) ↔
      (sink.serve state plan.calls).1 = some fault := by
  cases (sink.serve state plan.calls).1 with
  | none => simpa [refusedOr] using plan.result_ne_write fault
  | some other => simp [refusedOr]

private theorem refusedOr_eq_read_iff (fault : Fault) :
    refusedOr (sink.serve state plan.calls).1 plan.result = .error (.read fault) ↔
      (sink.serve state plan.calls).1 = none ∧ plan.result = .error (.read fault) := by
  cases (sink.serve state plan.calls).1 with
  | none => simp [refusedOr]
  | some other => simp [refusedOr]

private theorem refusedOr_eq_ok_iff :
    (∃ style, refusedOr (sink.serve state plan.calls).1 plan.result = .ok style) ↔
      (Call.separator, none) ∈ sink.made state plan.calls ∨
        plan.selection = none ∧ sink.made state plan.calls = [] := by
  constructor
  · rintro ⟨style, ok⟩
    cases served : (sink.serve state plan.calls).1 with
    | some fault =>
      rw [served] at ok
      cases ok
    | none =>
      rw [served] at ok
      rw [Sink.made_of_granted served]
      obtain ⟨lines, ⟨same, ⟨fault, failed⟩ | ⟨idle, empty, _⟩⟩ | ⟨same, _⟩⟩ := plan.calls_cases
      · rw [refusedOr, failed] at ok
        cases ok
      · exact .inr ⟨idle, by simp [same, empty, Call.granted]⟩
      · exact .inl (Call.mem_granted.mpr ⟨by simp [same], rfl⟩)
  · rintro (member | ⟨idle, _⟩)
    · obtain ⟨planned, served, _⟩ := plan.made_separator sink state member
      exact ⟨plan.style, by rw [← served, refusedOr, result_of_separator_mem planned]⟩
    · exact ⟨none, by simp [calls, result, idle, Sink.serve, refusedOr]⟩

end Plan

namespace Selection

private theorem head_lines (count : Nat) (start : Place) (reading : Reading) :
    (head count start reading).lines <+: reading.lines := by
  rw [head]
  split
  · exact List.prefix_refl _
  · exact List.take_prefix count reading.lines

private theorem comment_lines (style : Style) (reading : Reading) :
    (comment style reading).lines <+: reading.lines := by
  rw [comment]
  split
  next opening _ =>
    rw [whileContinued]
    split
    · exact List.prefix_refl _
    · exact List.takeWhile_prefix _
  next opening closing _ =>
    rw [untilClosed]
    split
    · cases reading.ending <;> exact List.prefix_refl _
    next closer later rest =>
      refine ⟨later, ?_⟩
      rw [List.append_assoc, List.singleton_append, ← rest]
      exact List.takeWhile_append_dropWhile

end Selection

theorem Source.plan_line {source : Source} {catalog : Catalog} {mode : Mode} {selection : Selection}
    (chosen : (source.plan catalog mode).selection = some selection) {index : Nat} {taken : Taken}
    (found : selection.lines[index]? = some taken) :
    ∃ line, (Line.cut source.ahead)[index]? = some line ∧ Utf8.decode? line = some taken.raw ∧
      taken.after.position =
        source.position + ((Line.cut source.ahead).take (index + 1)).flatten.length := by
  cases mode with
  | cat =>
    cases chosen
    exact reading_line (List.prefix_refl _) found
  | head count =>
    cases chosen
    exact reading_line (Selection.head_lines _ _ _) found
  | comment =>
    simp only [plan] at chosen
    cases detected : (source.detect catalog).result with
    | error fault =>
      rw [detected] at chosen
      cases chosen
      cases found
    | ok style =>
      obtain ⟨data, position⟩ := detect_ok detected
      have same : (source.detect catalog).source.ahead = source.ahead := by
        rw [ahead, data, position, ahead]
      rw [detected] at chosen
      cases style with
      | none => cases chosen
      | some style =>
        cases chosen
        have line := reading_line (Selection.comment_lines style _) found
        rwa [same, position] at line

/-- What a sink can rely on, told by the calls it got and the answers it gave, the result, and the
place where the source ends up. `full` are the calls that a sink gets if it never refuses one. -/
structure SinkProtocol (source : Source) (catalog : Catalog) (mode : Mode) (full : List Call)
    (calls : List (Call × Option Fault)) (result : Except StreamFault (Option Style))
    (final : Source) : Prop where
  /-- Lines, and at most one separator behind them. -/
  shape : ∃ lines : List String, calls.map Prod.fst = lines.map Call.emit ∨
    calls.map Prod.fst = lines.map Call.emit ++ [.separator]
  /-- A refused call is the last. -/
  stops : ∀ before call fault after, calls = before ++ (call, some fault) :: after → after = []
  /-- A separator means that every line was taken and that nothing failed to be read. -/
  separator_earned : ∀ refusal, (Call.separator, refusal) ∈ calls →
    (∀ line answer, (Call.emit line, answer) ∈ calls → answer = none) ∧
      ∀ fault, ¬ source.Fails catalog mode fault
  write_iff : ∀ fault, result = .error (.write fault) ↔
    ∃ call, calls.getLast? = some (call, some fault)
  read_iff : ∀ fault, result = .error (.read fault) ↔
    (∀ entry ∈ calls, entry.2 = none) ∧ source.Fails catalog mode fault
  ok_iff : (∃ style, result = .ok style) ↔ (Call.separator, none) ∈ calls ∨
    mode = .comment ∧ (source.detect catalog).result = .ok none ∧ calls = []
  /-- The calls up to the first refusal are the first of all calls. -/
  cut_short : ∀ index call fault, calls[index]? = some (call, some fault) →
    calls.length = index + 1 ∧ calls.map Prod.fst = full.take (index + 1)
  complete : (∀ entry ∈ calls, entry.2 = none) → calls.map Prod.fst = full
  /-- Behind a refused line nothing has been read. -/
  no_read_ahead : ∀ line fault, calls.getLast? = some (.emit line, some fault) →
    ∃ bytes raw, (Line.cut source.ahead)[calls.length - 1]? = some bytes ∧
      Utf8.decode? bytes = some raw ∧ line = String.ofList (Line.chomp raw) ∧
      final.position =
        source.position + ((Line.cut source.ahead).take calls.length).flatten.length

namespace Source

variable {State : Type}

/-- A sink that refuses a line finds the source right behind that line. -/
private theorem process_behind (source : Source) (catalog : Catalog) (mode : Mode)
    (sink : Sink State) (state : State) {line : String} {fault : Fault}
    (refused : (sink.made state (source.plan catalog mode).calls).getLast? =
      some (.emit line, some fault)) :
    ∃ bytes raw, (Line.cut source.ahead)[(sink.made state (source.plan catalog mode).calls).length - 1]?
        = some bytes ∧
      Utf8.decode? bytes = some raw ∧ line = String.ofList (Line.chomp raw) ∧
      (source.process catalog mode sink state).source.position = source.position +
        ((Line.cut source.ahead).take
          (sink.made state (source.plan catalog mode).calls).length).flatten.length := by
  obtain ⟨notes, same⟩ := source.process_eq_plan catalog mode sink state
  cases chosen : (source.plan catalog mode).selection with
  | none => simp [Plan.calls, chosen, Sink.made] at refused
  | some selection =>
    simp only [Plan.calls, chosen] at refused ⊢
    rcases (source.plan catalog mode).start.deliver_source sink state selection with
      ⟨before, taken, after, reason, split, made, final⟩ | ⟨granted, _⟩
    · have here : selection.lines[before.length]? = some taken := by simp [split]
      obtain ⟨bytes, found, decoded, position⟩ := source.plan_line chosen here
      rw [made] at refused ⊢
      simp only [List.getLast?_append, List.getLast?_singleton, Option.some_or, Option.some.injEq,
        Prod.mk.injEq] at refused
      cases refused.1
      refine ⟨bytes, taken.raw, by simpa using found, decoded, rfl, ?_⟩
      have stands : (source.process catalog mode sink state).source =
          (source.plan catalog mode).start.moveTo taken.after := by
        rw [same, chosen]
        exact final
      rw [stands]
      simpa [moveTo] using position
    · exact absurd (List.mem_of_getLast? refused) (granted line fault)

private theorem deliverFrom_traced (source : Source) (sink : Sink State) (ending : Ending)
    (notes : List Note) (count : Nat) (traced : Traced State) (lines : List Taken) :
    (source.deliverFrom sink.traced ending notes count traced lines).source =
      (source.deliverFrom sink ending notes count traced.state lines).source := by
  induction lines generalizing count traced with
  | nil => cases ending <;> rfl
  | cons taken lines hyp =>
    rcases answered : sink.emit taken.text traced.state with ⟨_ | fault, state⟩
    · have granted : sink.traced.emit taken.text traced =
          (none, { state, calls := traced.calls ++ [(.emit taken.text, none)] }) := by
        simp [Sink.traced, answered]
      simp only [deliverFrom, answered, granted]
      exact hyp (count + 1) _
    · have refused : sink.traced.emit taken.text traced =
          (some fault, { state, calls := traced.calls ++ [(.emit taken.text, some fault)] }) := by
        simp [Sink.traced, answered]
      simp only [deliverFrom, answered, refused]

private theorem process_traced_source (source : Source) (catalog : Catalog) (mode : Mode)
    (sink : Sink State) (state : State) :
    (source.process catalog mode sink.traced { state }).source =
      (source.process catalog mode sink state).source := by
  obtain ⟨_, traced⟩ := source.process_eq_plan catalog mode sink.traced { state }
  obtain ⟨_, plain⟩ := source.process_eq_plan catalog mode sink state
  rw [traced, plain]
  cases (source.plan catalog mode).selection with
  | none => rfl
  | some selection => exact deliverFrom_traced _ sink _ _ 0 { state } _

/-- Whatever a sink answers and wherever reading fails, processing keeps the protocol; tracing the
sink has no influence on it. -/
theorem process_sinkProtocol (source : Source) (catalog : Catalog) (mode : Mode)
    (sink : Sink State) (state : State) :
    let outcome := source.process catalog mode sink state
    let traced := source.process catalog mode sink.traced { state }
    let undisturbed := source.process catalog mode Sink.willing.traced { state := () }
    traced.result = outcome.result ∧ traced.source = outcome.source ∧
      traced.sink.state = outcome.sink ∧
      SinkProtocol source catalog mode (undisturbed.sink.calls.map Prod.fst) traced.sink.calls
        outcome.result outcome.source := by
  intro outcome traced undisturbed
  let plan := source.plan catalog mode
  have sinks : traced.sink =
      { state := (sink.serve state plan.calls).2, calls := sink.made state plan.calls } := by
    rw [process_sink, Sink.serve_traced]
    rfl
  have result : outcome.result = refusedOr (sink.serve state plan.calls).1 plan.result :=
    source.process_result catalog mode sink state
  have full : undisturbed.sink.calls.map Prod.fst = plan.calls := by
    rw [process_sink, Sink.serve_traced, Sink.willing, Sink.made_granting]
    exact Call.map_fst_granted plan.calls
  refine ⟨?_, source.process_traced_source catalog mode sink state, ?_, ?_⟩
  · rw [result, process_result, Sink.serve_traced]
  · rw [sinks, process_sink]
  have calls : traced.sink.calls = sink.made state plan.calls := by rw [sinks]
  rw [full, calls, result]
  constructor
  case shape => exact plan.made_shape sink state
  case stops =>
    intro before call fault after split
    exact Sink.made_stops split
  case separator_earned =>
    intro refusal member
    obtain ⟨planned, _, taken⟩ := plan.made_separator sink state member
    refine ⟨taken, ?_⟩
    intro fault fails
    have failed := (source.plan_failed_iff catalog mode fault).mpr fails
    rw [Plan.result_of_separator_mem planned] at failed
    cases failed
  case write_iff =>
    intro fault
    rw [plan.refusedOr_eq_write_iff, Sink.getLast?_made_iff]
  case read_iff =>
    intro fault
    rw [plan.refusedOr_eq_read_iff, Sink.made_granted_iff, plan_failed_iff]
  case ok_iff => rw [plan.refusedOr_eq_ok_iff, plan_idle_iff, and_assoc]
  case cut_short =>
    intro index call fault refused
    exact Sink.made_refused_at refused
  case complete =>
    intro granted
    rw [Sink.made_of_granted ((sink.made_granted_iff state _).mp granted), Call.map_fst_granted]
  case no_read_ahead =>
    intro line fault refused
    exact source.process_behind catalog mode sink state refused

end Source
end LeadingComment
