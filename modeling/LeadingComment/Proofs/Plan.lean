import LeadingComment.Detection
import LeadingComment.Extraction.Selection
import LeadingComment.Proofs.Calls

/-! What processing a source comes to, told apart from the sink: a plan holds the calls that a sink
would get if it took every one of them. Processing serves these calls (`process_sink`), and its result
is the plan's unless the sink refuses one (`process_result`). -/
namespace LeadingComment

def Taken.call (taken : Taken) : Call := .emit taken.text

theorem Taken.map_call (lines : List Taken) :
    lines.map call = (lines.map text).map Call.emit := by
  rw [List.map_map]
  rfl

namespace Ending

/-- A separator follows the lines unless reading has failed. -/
def calls : Ending → List Call
  | complete _ => [.separator]
  | failed _ _ => []

def result {Value : Type} (value : Value) : Ending → Except StreamFault Value
  | complete _ => .ok value
  | failed fault _ => .error (.read fault)

theorem result_eq_read_iff {Value : Type} (value : Value) (ending : Ending) (fault : Fault) :
    ending.result value = .error (.read fault) ↔ ∃ place, ending = .failed fault place := by
  cases ending <;> simp [result]

end Ending

def Selection.calls (selection : Selection) : List Call :=
  selection.lines.map Taken.call ++ selection.ending.calls

/-- The result if a sink has the last word: a refusal takes precedence. -/
def refusedOr {Value : Type} (refusal : Option Fault) (result : Except StreamFault Value) :
    Except StreamFault Value :=
  match refusal with
  | some fault => .error (.write fault)
  | none => result

namespace Source

variable {State : Type}

private theorem deliverFrom_serve (source : Source) (sink : Sink State) (ending : Ending)
    (notes : List Note) (count : Nat) (state : State) (lines : List Taken) :
    (source.deliverFrom sink ending notes count state lines).sink =
        (sink.serve state (lines.map Taken.call ++ ending.calls)).2 ∧
      (source.deliverFrom sink ending notes count state lines).result =
        refusedOr (sink.serve state (lines.map Taken.call ++ ending.calls)).1
          (ending.result (count + lines.length)) := by
  induction lines generalizing count state with
  | nil =>
    cases ending with
    | failed fault place => exact ⟨rfl, rfl⟩
    | complete place =>
      rcases answered : sink.separator state with ⟨refusal, next⟩
      simp only [deliverFrom, separate, Ending.calls, List.map_nil, List.nil_append, Sink.serve,
        Sink.answer, answered]
      cases refusal <;> exact ⟨rfl, rfl⟩
  | cons taken lines hyp =>
    simp only [deliverFrom, List.map_cons, List.cons_append, Sink.serve, Taken.call, Sink.answer]
    cases sink.emit taken.text state with
    | mk refusal next =>
      cases refusal with
      | some fault => exact ⟨rfl, rfl⟩
      | none =>
        obtain ⟨served, result⟩ := hyp (count + 1) next
        refine ⟨served, result.trans ?_⟩
        rw [List.length_cons, Nat.add_assoc, Nat.add_comm 1]

theorem deliver_sink (source : Source) (sink : Sink State) (state : State) (selection : Selection) :
    (source.deliver sink state selection).sink = (sink.serve state selection.calls).2 :=
  (source.deliverFrom_serve sink selection.ending selection.notes 0 state selection.lines).1

theorem deliver_result (source : Source) (sink : Sink State) (state : State)
    (selection : Selection) :
    (source.deliver sink state selection).result =
      refusedOr (sink.serve state selection.calls).1
        (selection.ending.result selection.lines.length) := by
  have served :=
    (source.deliverFrom_serve sink selection.ending selection.notes 0 state selection.lines).2
  rwa [Nat.zero_add] at served

/-- Delivering stops behind the line that the sink refuses, or else where reading ends. -/
theorem deliver_source (source : Source) (sink : Sink State) (state : State)
    (selection : Selection) :
    (∃ before taken after fault, selection.lines = before ++ taken :: after ∧
      sink.made state selection.calls =
        Call.granted (before.map Taken.call) ++ [(taken.call, some fault)] ∧
      (source.deliver sink state selection).source = source.moveTo taken.after) ∨
    ((∀ line fault, (Call.emit line, some fault) ∉ sink.made state selection.calls) ∧
      (source.deliver sink state selection).source = source.moveTo selection.ending.place) := by
  obtain ⟨⟨lines, ending⟩, notes⟩ := selection
  simp only [deliver, Selection.calls]
  generalize 0 = count
  induction lines generalizing count state with
  | nil =>
    right
    cases ending with
    | failed fault place => exact ⟨by simp [Ending.calls, Sink.made], rfl⟩
    | complete place =>
      refine ⟨?_, rfl⟩
      intro line fault
      simp only [List.map_nil, Ending.calls, List.nil_append, Sink.made, Sink.answer]
      cases sink.separator state with
      | mk refusal next => cases refusal <;> simp
  | cons taken lines hyp =>
    simp only [deliverFrom, List.map_cons, List.cons_append, Sink.made, Taken.call, Sink.answer]
    cases sink.emit taken.text state with
    | mk refusal next =>
      cases refusal with
      | some fault => exact .inl ⟨[], taken, lines, fault, rfl, rfl, rfl⟩
      | none =>
        rcases hyp next (count + 1) with ⟨before, other, after, fault, split, same, final⟩ | ⟨granted, final⟩
        · exact .inl ⟨taken :: before, other, after, fault, by simp [split],
            congrArg ((taken.call, none) :: ·) same, final⟩
        · refine .inr ⟨?_, final⟩
          intro line fault member
          rcases List.mem_cons.mp member with first | later
          · cases first
          · exact granted line fault later

end Source

/-- What processing a source is about to do: from where lines are handed over and which, or that none
is; the style it gives if all goes well. -/
structure Plan where
  start : Source
  selection : Option Selection
  style : Option Style := none

namespace Plan

def calls (plan : Plan) : List Call :=
  match plan.selection with
  | none => []
  | some selection => selection.calls

def result (plan : Plan) : Except StreamFault (Option Style) :=
  match plan.selection with
  | none => .ok none
  | some selection => selection.ending.result plan.style

theorem calls_cases (plan : Plan) :
    ∃ lines : List String,
      plan.calls = lines.map Call.emit ∧
          ((∃ fault, plan.result = .error (.read fault)) ∨
            plan.selection = none ∧ lines = [] ∧ plan.result = .ok none) ∨
        plan.calls = lines.map Call.emit ++ [.separator] ∧ plan.result = .ok plan.style := by
  unfold calls result
  cases plan.selection with
  | none => exact ⟨[], .inl ⟨rfl, .inr ⟨rfl, rfl, rfl⟩⟩⟩
  | some selection =>
    refine ⟨selection.lines.map Taken.text, ?_⟩
    simp only [Selection.calls, Taken.map_call]
    cases selection.ending with
    | complete place => exact .inr ⟨rfl, rfl⟩
    | failed fault place => exact .inl ⟨List.append_nil _, .inl ⟨fault, rfl⟩⟩

theorem result_ne_write (plan : Plan) (fault : Fault) : plan.result ≠ .error (.write fault) := by
  rcases plan.calls_cases with ⟨_, ⟨_, ⟨_, failed⟩ | ⟨_, _, ok⟩⟩ | ⟨_, ok⟩⟩
  · simp [failed]
  · simp [ok]
  · simp [ok]

theorem result_of_separator_mem {plan : Plan} (member : Call.separator ∈ plan.calls) :
    plan.result = .ok plan.style := by
  rcases plan.calls_cases with ⟨lines, ⟨same, _⟩ | ⟨_, ok⟩⟩
  · simp [same] at member
  · exact ok

end Plan

namespace Source

variable {State : Type}

/-- A detection that fails hands over nothing and ends there. -/
def plan (source : Source) (catalog : Catalog) : Mode → Plan
  | .cat => { start := source, selection := some (.all source.reading) }
  | .head count =>
    { start := source, selection := some (.head count source.place source.reading) }
  | .comment =>
    let detection := source.detect catalog
    match detection.result with
    | .error fault =>
      { start := detection.source
        selection := some { lines := [], ending := .failed fault detection.source.place } }
    | .ok none => { start := detection.source, selection := none }
    | .ok (some style) =>
      { start := detection.source
        selection := some (.comment style detection.source.reading)
        style := some style }

theorem plan_idle_iff (source : Source) (catalog : Catalog) (mode : Mode) :
    (source.plan catalog mode).selection = none ↔
      mode = .comment ∧ (source.detect catalog).result = .ok none := by
  cases mode with
  | cat => simp [plan]
  | head count => simp [plan]
  | comment =>
    simp only [plan, true_and]
    cases (source.detect catalog).result with
    | error fault => simp
    | ok found => cases found <;> simp

/-- Processing delivers the selection that is planned. -/
theorem process_eq_plan (source : Source) (catalog : Catalog) (mode : Mode) (sink : Sink State)
    (state : State) :
    let plan := source.plan catalog mode
    ∃ notes, source.process catalog mode sink state =
      match plan.selection with
      | none => { result := .ok none, source := plan.start, sink := state, notes }
      | some selection =>
        ((plan.start.deliver sink state selection).map fun _ => plan.style).noteFirst notes := by
  cases mode with
  | cat => exact ⟨[], by rw [process, cat_eq_deliver]; rfl⟩
  | head count => exact ⟨[], by rw [process, head_eq_deliver]; rfl⟩
  | comment =>
    refine ⟨(source.detect catalog).notes, ?_⟩
    simp only [process, plan]
    cases (source.detect catalog).result with
    | error fault =>
      simp only [deliver, deliverFrom, Outcome.map, Outcome.noteFirst, List.append_nil]
      rfl
    | ok found =>
      cases found with
      | none => rfl
      | some style => simp only [extractComment_eq_deliver]

theorem process_sink (source : Source) (catalog : Catalog) (mode : Mode) (sink : Sink State)
    (state : State) :
    (source.process catalog mode sink state).sink =
      (sink.serve state (source.plan catalog mode).calls).2 := by
  obtain ⟨notes, same⟩ := source.process_eq_plan catalog mode sink state
  rw [same, Plan.calls]
  cases (source.plan catalog mode).selection with
  | none => rfl
  | some selection => exact deliver_sink _ sink state selection

theorem process_result (source : Source) (catalog : Catalog) (mode : Mode) (sink : Sink State)
    (state : State) :
    (source.process catalog mode sink state).result =
      refusedOr (sink.serve state (source.plan catalog mode).calls).1
        (source.plan catalog mode).result := by
  obtain ⟨notes, same⟩ := source.process_eq_plan catalog mode sink state
  rw [same, Plan.calls, Plan.result]
  cases (source.plan catalog mode).selection with
  | none => rfl
  | some selection =>
    simp only [Outcome.noteFirst, Outcome.map, deliver_result]
    cases (sink.serve state selection.calls).1 with
    | none => cases selection.ending <;> rfl
    | some fault => rfl

end Source
end LeadingComment
