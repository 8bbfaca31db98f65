import LeadingComment.Sink

namespace LeadingComment

inductive Call where
  | emit (line : String)
  | separator
deriving DecidableEq, Repr

namespace Call

def granted (calls : List Call) : List (Call × Option Fault) := calls.map (·, none)

@[simp] theorem map_fst_granted (calls : List Call) : (granted calls).map Prod.fst = calls := by
  rw [granted, List.map_map]
  exact List.map_id calls

@[simp] theorem length_granted (calls : List Call) : (granted calls).length = calls.length :=
  List.length_map _

@[simp] theorem mem_granted {call : Call} {refusal : Option Fault} {calls : List Call} :
    (call, refusal) ∈ granted calls ↔ call ∈ calls ∧ refusal = none := by
  rw [granted, List.mem_map]
  constructor
  · rintro ⟨other, member, same⟩
    cases same
    exact ⟨member, rfl⟩
  · rintro ⟨member, rfl⟩
    exact ⟨call, member, rfl⟩

end Call

/-- The state of a sink and the record of its calls, the earliest first. -/
structure Traced (State : Type) where
  state : State
  calls : List (Call × Option Fault) := []

namespace Sink

variable {State : Type}

def answer (sink : Sink State) : Call → State → Option Fault × State
  | .emit line => sink.emit line
  | .separator => sink.separator

/-- Makes calls one by one, and none behind the first that is refused. -/
def serve (sink : Sink State) (state : State) : List Call → Option Fault × State
  | [] => (none, state)
  | call :: calls =>
    match sink.answer call state with
    | (none, state) => sink.serve state calls
    | refused => refused

/-- The calls that serving a list makes, with the answers they get. -/
def made (sink : Sink State) (state : State) : List Call → List (Call × Option Fault)
  | [] => []
  | call :: calls =>
    match sink.answer call state with
    | (none, state) => (call, none) :: sink.made state calls
    | (some fault, _) => [(call, some fault)]

/-- Does what the sink does, and keeps a record of it. -/
def traced (sink : Sink State) : Sink (Traced State) where
  emit line traced :=
    let (refusal, state) := sink.emit line traced.state
    (refusal, { state, calls := traced.calls ++ [(.emit line, refusal)] })
  separator traced :=
    let (refusal, state) := sink.separator traced.state
    (refusal, { state, calls := traced.calls ++ [(.separator, refusal)] })

/-- A sink that never refuses a call. -/
def granting (respond : Call → State → State) : Sink State where
  emit line state := (none, respond (.emit line) state)
  separator state := (none, respond .separator state)

/-- Takes every call and forgets it. -/
def willing : Sink Unit := granting fun _ state => state

/-- Either every call is granted, or exactly one is refused and the calls end with it. -/
theorem made_cases (sink : Sink State) (state : State) (calls : List Call) :
    ((sink.serve state calls).1 = none ∧ sink.made state calls = Call.granted calls) ∨
      ∃ before call fault after, calls = before ++ call :: after ∧
        (sink.serve state calls).1 = some fault ∧
        sink.made state calls = Call.granted before ++ [(call, some fault)] := by
  induction calls generalizing state with
  | nil => exact .inl ⟨rfl, rfl⟩
  | cons call calls hyp =>
    rw [serve, made]
    cases sink.answer call state with
    | mk refusal next =>
      cases refusal with
      | some fault => exact .inr ⟨[], call, fault, calls, rfl, rfl, rfl⟩
      | none =>
        rcases hyp next with ⟨served, same⟩ | ⟨before, other, fault, after, split, served, same⟩
        · exact .inl ⟨served, congrArg ((call, none) :: ·) same⟩
        · exact .inr ⟨call :: before, other, fault, after, by simp [split], served,
            congrArg ((call, none) :: ·) same⟩

theorem made_of_granted {sink : Sink State} {state : State} {calls : List Call}
    (granted : (sink.serve state calls).1 = none) : sink.made state calls = Call.granted calls := by
  rcases sink.made_cases state calls with ⟨_, same⟩ | ⟨_, _, fault, _, _, refused, _⟩
  · exact same
  · rw [granted] at refused
    cases refused

theorem made_of_refused {sink : Sink State} {state : State} {calls : List Call} {fault : Fault}
    (refused : (sink.serve state calls).1 = some fault) :
    ∃ before call after, calls = before ++ call :: after ∧
      sink.made state calls = Call.granted before ++ [(call, some fault)] := by
  rcases sink.made_cases state calls with ⟨granted, _⟩ | ⟨before, call, other, after, split, same, made⟩
  · rw [granted] at refused
    cases refused
  · rw [refused] at same
    cases same
    exact ⟨before, call, after, split, made⟩

theorem getLast?_made_iff (sink : Sink State) (state : State) (calls : List Call) (fault : Fault) :
    (∃ call, (sink.made state calls).getLast? = some (call, some fault)) ↔
      (sink.serve state calls).1 = some fault := by
  constructor
  · rintro ⟨call, last⟩
    cases served : (sink.serve state calls).1 with
    | none =>
      have member := List.mem_of_getLast? last
      simp [made_of_granted served] at member
    | some other =>
      obtain ⟨before, refused, after, _, same⟩ := made_of_refused served
      simp only [same, List.getLast?_append, List.getLast?_singleton, Option.some_or,
        Option.some.injEq, Prod.mk.injEq] at last
      exact congrArg some last.2
  · intro served
    obtain ⟨before, call, after, _, same⟩ := made_of_refused served
    exact ⟨call, by simp [same]⟩

theorem made_granted_iff (sink : Sink State) (state : State) (calls : List Call) :
    (∀ entry ∈ sink.made state calls, entry.2 = none) ↔ (sink.serve state calls).1 = none := by
  constructor
  · intro granted
    cases served : (sink.serve state calls).1 with
    | none => rfl
    | some fault =>
      obtain ⟨call, last⟩ := (sink.getLast?_made_iff state calls fault).mpr served
      cases granted _ (List.mem_of_getLast? last)
  · intro served entry member
    rw [made_of_granted served] at member
    exact (Call.mem_granted.mp member).2

theorem made_refused_at {sink : Sink State} {state : State} {calls : List Call} {index : Nat}
    {call : Call} {fault : Fault}
    (refused : (sink.made state calls)[index]? = some (call, some fault)) :
    (sink.made state calls).length = index + 1 ∧
      (sink.made state calls).map Prod.fst = calls.take (index + 1) := by
  have member := List.mem_of_getElem? refused
  rcases sink.made_cases state calls with ⟨_, same⟩ | ⟨before, other, reason, after, split, _, same⟩
  · simp [same] at member
  · have here : index = before.length := by
      rw [same] at refused
      rcases Nat.lt_trichotomy index before.length with earlier | here | later
      · rw [List.getElem?_append_left (by simpa using earlier)] at refused
        cases (Call.mem_granted.mp (List.mem_of_getElem? refused)).2
      · exact here
      · rw [List.getElem?_eq_none (by simp; omega)] at refused
        cases refused
    subst here
    constructor
    · simp [same]
    · rw [same, split]
      simp [List.take_append, List.take_of_length_le]

theorem made_stops {sink : Sink State} {state : State} {calls : List Call}
    {before after : List (Call × Option Fault)} {call : Call} {fault : Fault}
    (split : sink.made state calls = before ++ (call, some fault) :: after) : after = [] := by
  have refused : (sink.made state calls)[before.length]? = some (call, some fault) := by
    rw [split, List.getElem?_append_right (Nat.le_refl _), Nat.sub_self, List.getElem?_cons_zero]
  have length := (made_refused_at refused).1
  rw [split, List.length_append, List.length_cons] at length
  exact List.eq_nil_of_length_eq_zero (by omega)

theorem answer_granting (respond : Call → State → State) (call : Call) (state : State) :
    (granting respond).answer call state = (none, respond call state) := by
  cases call <;> rfl

theorem serve_granting (respond : Call → State → State) (state : State) (calls : List Call) :
    (granting respond).serve state calls =
      (none, calls.foldl (fun state call => respond call state) state) := by
  induction calls generalizing state with
  | nil => rfl
  | cons call calls hyp =>
    rw [serve, answer_granting, List.foldl_cons]
    exact hyp (respond call state)

theorem made_granting (respond : Call → State → State) (state : State) (calls : List Call) :
    (granting respond).made state calls = Call.granted calls := by
  apply made_of_granted
  rw [serve_granting]

theorem answer_traced (sink : Sink State) (call : Call) (traced : Traced State) :
    sink.traced.answer call traced =
      ((sink.answer call traced.state).1,
        { state := (sink.answer call traced.state).2
          calls := traced.calls ++ [(call, (sink.answer call traced.state).1)] }) := by
  cases call <;> rfl

/-- Tracing changes no answer, and the record grows by the calls that are made. -/
theorem serve_traced (sink : Sink State) (traced : Traced State) (calls : List Call) :
    sink.traced.serve traced calls =
      ((sink.serve traced.state calls).1,
        { state := (sink.serve traced.state calls).2
          calls := traced.calls ++ sink.made traced.state calls }) := by
  induction calls generalizing traced with
  | nil => simp [serve, made]
  | cons call calls hyp =>
    rw [serve, serve, made, answer_traced]
    cases sink.answer call traced.state with
    | mk refusal next =>
      cases refusal with
      | none => simp [hyp]
      | some fault => rfl

end Sink
end LeadingComment
