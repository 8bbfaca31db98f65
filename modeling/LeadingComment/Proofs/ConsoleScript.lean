import LeadingComment.Proofs.EndedLines
import LeadingComment.Proofs.TextAndReports
import Mathlib.Data.List.Forall2
import Mathlib.Data.List.Infix

/-! Scripts of banners and consoles on one output, in which every step is made whether or not those before
it were refused. Beside the same script on an output without a limit, a limit on the output cuts what is
stored and refuses exactly the steps that lead beyond it. -/
namespace LeadingComment

/-- One part of a script. The calls go to a console of their own. -/
inductive Act where
  | banner (path : Path)
  | console (numbering : Bool) (calls : List Call)

/-- What a step comes to: what it is refused with, the output behind it, and how many lines its console
has counted. -/
structure Step where
  refusal : Option Fault
  output : Output
  counted : Option Nat := none

namespace Console

def attempt (console : Console Output) : List Call → List Step × Output
  | [] => ([], console.output)
  | call :: calls =>
    let (refusal, next) := sink.answer call console
    let (steps, final) := next.attempt calls
    ({ refusal, output := next.output, counted := some next.emitted } :: steps, final)

end Console

namespace Act

def perform (output : Output) : Act → List Step × Output
  | banner path =>
    let (refusal, next) := Writer.writeBanner output path
    ([{ refusal, output := next }], next)
  | console numbering calls => Console.attempt { output, numbering } calls

def performAll (output : Output) : List Act → List Step × Output
  | [] => ([], output)
  | act :: acts =>
    let (steps, next) := act.perform output
    let (later, final) := performAll next acts
    (steps ++ later, final)

/-- How many lines have been tried behind each step of an act. -/
def tried : Act → List (Option Nat)
  | banner _ => [none]
  | console _ calls => calls.inits.tail.map fun made => some (made.filterMap Call.line?).length

end Act

namespace Output

theorem prefix_writePieces (output : Output) (pieces : List String) :
    output.bytes <+: (Writer.writePieces output pieces).2.bytes := by
  rw [bytes_writePieces]
  exact List.prefix_append _ _

/-- Of two outputs the second has a limit, and has stored what fits of that which the first has. -/
structure Cut (limit : Nat) (wide narrow : Output) : Prop where
  unlimited : wide.limit = none
  limited : narrow.limit = some limit
  overflow : narrow.overflow = .brokenPipe
  colored : narrow.colored = wide.colored
  bytes : narrow.bytes = wide.bytes.take limit

/-- Any text that is not empty is refused exactly where it leads beyond the limit, also if the limit was
met before it. -/
theorem Cut.writePieces {limit : Nat} {wide narrow : Output} (cut : Cut limit wide narrow)
    {pieces : List String} (nonempty : utf8 (String.join pieces) ≠ []) :
    let whole := (Writer.writePieces wide pieces).2
    (Writer.writePieces narrow pieces).1 =
        (if whole.bytes.length ≤ limit then none else some .brokenPipe) ∧
      Cut limit whole (Writer.writePieces narrow pieces).2 := by
  intro whole
  have some_byte : 0 < (utf8 (String.join pieces)).length := List.length_pos_iff.mpr nonempty
  have wholeBytes : whole.bytes = wide.bytes ++ utf8 (String.join pieces) := by
    simp only [whole, bytes_writePieces, cut.unlimited]
  have stored : narrow.bytes.length = min limit wide.bytes.length := by
    rw [cut.bytes, List.length_take]
  have fits : (utf8 (String.join pieces)).length ≤ limit - narrow.bytes.length ↔
      whole.bytes.length ≤ limit := by
    rw [wholeBytes, List.length_append]
    omega
  constructor
  · rw [writePieces_limited cut.limited, cut.overflow]
    simp only [fits]
  · obtain ⟨wideStored, wideSame⟩ := wide.writePieces_stored pieces
    obtain ⟨narrowStored, narrowSame⟩ := narrow.writePieces_stored pieces
    constructor
    case unlimited =>
      simp only [whole, wideSame]
      exact cut.unlimited
    case limited =>
      rw [narrowSame]
      exact cut.limited
    case overflow =>
      rw [narrowSame]
      exact cut.overflow
    case colored =>
      simp only [whole, wideSame, narrowSame]
      exact cut.colored
    case bytes =>
      have room : limit - narrow.bytes.length = limit - wide.bytes.length := by omega
      rw [wholeBytes, List.take_append, bytes_writePieces, cut.limited]
      simp only
      rw [room, cut.bytes]

end Output

namespace Step

/-- How a step on an output with a limit stands to the same step without one. -/
structure CutBy (limit : Nat) (whole part : Step) : Prop where
  granted : whole.refusal = none
  refusal : part.refusal = if whole.output.bytes.length ≤ limit then none else some .brokenPipe
  output : Output.Cut limit whole.output part.output

theorem cutBy_writePieces {limit : Nat} {wide narrow : Output} (cut : Output.Cut limit wide narrow)
    {pieces : List String} (ends : EndsLine pieces) (wholeCount partCount : Option Nat) :
    CutBy limit ⟨(Writer.writePieces wide pieces).1, (Writer.writePieces wide pieces).2, wholeCount⟩
      ⟨(Writer.writePieces narrow pieces).1, (Writer.writePieces narrow pieces).2, partCount⟩ := by
  obtain ⟨refusal, output⟩ := cut.writePieces ends.join_ne_nil
  exact ⟨Output.writePieces_unlimited cut.unlimited pieces, refusal, output⟩

/-- Steps one after the other, each of which keeps what is stored. -/
inductive Grows : Output → List Step → Output → Prop where
  | done {output : Output} : Grows output [] output
  | step {output final : Output} {step : Step} {later : List Step}
      (kept : output.bytes <+: step.output.bytes) (rest : Grows step.output later final) :
      Grows output (step :: later) final

theorem Grows.append {output next final : Output} {steps later : List Step}
    (grows : Grows output steps next) (rest : Grows next later final) :
    Grows output (steps ++ later) final := by
  induction grows with
  | done => exact rest
  | step kept _ hyp => exact .step kept (hyp rest)

theorem Grows.stored {output final : Output} {steps : List Step} (grows : Grows output steps final) :
    ∀ step ∈ steps, output.bytes <+: step.output.bytes := by
  induction grows with
  | done => simp
  | step kept _ hyp =>
    intro other member
    rcases List.mem_cons.mp member with rfl | later
    · exact kept
    · exact kept.trans (hyp other later)

theorem Grows.pairwise {output final : Output} {steps : List Step} (grows : Grows output steps final) :
    steps.Pairwise fun earlier later => earlier.output.bytes <+: later.output.bytes := by
  induction grows with
  | done => exact .nil
  | step _ rest hyp => exact .cons rest.stored hyp

theorem pairwise_refused {limit : Nat} {wholes parts : List Step}
    (cuts : List.Forall₂ (CutBy limit) wholes parts)
    (grows : wholes.Pairwise fun earlier later => earlier.output.bytes <+: later.output.bytes) :
    parts.Pairwise fun earlier later => earlier.refusal ≠ none →
      later.refusal = some .brokenPipe ∧ later.output.bytes = earlier.output.bytes := by
  rw [List.pairwise_iff_getElem] at grows ⊢
  intro first second firstBound secondBound before refused
  have firstWhole : first < wholes.length := by rwa [cuts.length_eq]
  have secondWhole : second < wholes.length := by rwa [cuts.length_eq]
  have earlier := cuts.get firstWhole firstBound
  have later := cuts.get secondWhole secondBound
  have kept := grows first second firstWhole secondWhole before
  simp only [List.get_eq_getElem] at earlier later
  generalize wholes[first] = wholeFirst at earlier kept
  generalize wholes[second] = wholeSecond at later kept
  generalize parts[first] = partFirst at earlier refused
  generalize parts[second] = partSecond at later
  have beyond : limit < wholeFirst.output.bytes.length := by
    apply Nat.lt_of_not_le
    intro fits
    exact refused (by rw [earlier.refusal, if_pos fits])
  have further : limit < wholeSecond.output.bytes.length := Nat.lt_of_lt_of_le beyond kept.length_le
  constructor
  · rw [later.refusal, if_neg (Nat.not_le.mpr further)]
  · obtain ⟨more, whole⟩ := kept
    rw [later.output.bytes, earlier.output.bytes, ← whole]
    exact List.take_append_of_le_length (Nat.le_of_lt beyond)

end Step

namespace Console

theorem attempt_cons (console : Console Output) (call : Call) (calls : List Call) :
    console.attempt (call :: calls) =
      let written := Writer.writePieces console.output
        (callPieces console.output.colored console.numbering console.emitted call)
      let next := { console with output := written.2, emitted := console.emitted + call.size }
      (⟨written.1, written.2, some next.emitted⟩ :: (next.attempt calls).1,
        (next.attempt calls).2) := by
  rw [attempt, answer_sink]
  rfl

theorem attempt_grows (console : Console Output) (calls : List Call) :
    Step.Grows console.output (console.attempt calls).1 (console.attempt calls).2 := by
  induction calls generalizing console with
  | nil => exact .done
  | cons call calls hyp =>
    rw [attempt_cons]
    have kept := console.output.prefix_writePieces
      (callPieces console.output.colored console.numbering console.emitted call)
    refine .step kept ?_
    exact hyp { console with output := _, emitted := console.emitted + call.size }

theorem attempt_counted (console : Console Output) (calls : List Call) :
    (console.attempt calls).1.map Step.counted =
      calls.inits.tail.map fun made => some (console.emitted + (made.filterMap Call.line?).length) := by
  induction calls generalizing console with
  | nil => rfl
  | cons call calls hyp =>
    have more (made : List Call) : ((call :: made).filterMap Call.line?).length =
        call.size + (made.filterMap Call.line?).length := by
      cases call with
      | emit line => simp [Call.line?, Call.size, Nat.add_comm]
      | separator => exact (Nat.zero_add _).symm
    have front : calls.inits = [] :: calls.inits.tail := by cases calls <;> simp
    rw [attempt_cons, List.inits_cons, front]
    simp only [List.map_cons, List.tail_cons, hyp, List.map_map, Function.comp_def, more,
      ← Nat.add_assoc]
    simp

theorem attempt_cut {limit : Nat} {wide narrow : Output} (cut : Output.Cut limit wide narrow)
    (numbering : Bool) (emitted : Nat) (calls : List Call) :
    let whole := attempt { output := wide, numbering, emitted } calls
    let part := attempt { output := narrow, numbering, emitted } calls
    List.Forall₂ (Step.CutBy limit) whole.1 part.1 ∧ Output.Cut limit whole.2 part.2 := by
  induction calls generalizing wide narrow emitted with
  | nil => exact ⟨.nil, cut⟩
  | cons call calls hyp =>
    simp only [attempt_cons, cut.colored]
    have ends := endsLine_callPieces wide.colored numbering emitted call
    have step := Step.cutBy_writePieces cut ends (some (emitted + call.size)) (some (emitted + call.size))
    obtain ⟨later, final⟩ := hyp step.output (emitted + call.size)
    exact ⟨.cons step later, final⟩

end Console

namespace Act

theorem perform_grows (output : Output) (act : Act) :
    Step.Grows output (act.perform output).1 (act.perform output).2 := by
  cases act with
  | banner path => exact .step (Output.prefix_writePieces _ _) .done
  | console numbering calls => exact Console.attempt_grows { output, numbering } calls

theorem performAll_grows (output : Output) (script : List Act) :
    Step.Grows output (performAll output script).1 (performAll output script).2 := by
  induction script generalizing output with
  | nil => exact .done
  | cons act script hyp => exact (perform_grows output act).append (hyp _)

theorem perform_counted (output : Output) (act : Act) :
    (act.perform output).1.map Step.counted = act.tried := by
  cases act with
  | banner path => rfl
  | console numbering calls =>
    rw [perform, Console.attempt_counted, tried]
    simp

theorem performAll_counted (output : Output) (script : List Act) :
    (performAll output script).1.map Step.counted = script.flatMap tried := by
  induction script generalizing output with
  | nil => rfl
  | cons act script hyp =>
    rw [performAll, List.map_append, perform_counted, hyp, List.flatMap_cons]

theorem perform_cut {limit : Nat} {wide narrow : Output} (cut : Output.Cut limit wide narrow)
    (act : Act) :
    List.Forall₂ (Step.CutBy limit) (act.perform wide).1 (act.perform narrow).1 ∧
      Output.Cut limit (act.perform wide).2 (act.perform narrow).2 := by
  cases act with
  | banner path =>
    have same : Writer.colored narrow = Writer.colored wide := cut.colored
    simp only [perform, Writer.writeBanner, same]
    have step := Step.cutBy_writePieces cut (Console.endsLine_bannerPieces (Writer.colored wide) path) none none
    exact ⟨.cons step .nil, step.output⟩
  | console numbering calls => exact Console.attempt_cut cut numbering 0 calls

theorem performAll_cut {limit : Nat} {wide narrow : Output} (cut : Output.Cut limit wide narrow)
    (script : List Act) :
    List.Forall₂ (Step.CutBy limit) (performAll wide script).1 (performAll narrow script).1 ∧
      Output.Cut limit (performAll wide script).2 (performAll narrow script).2 := by
  induction script generalizing wide narrow with
  | nil => exact ⟨.nil, cut⟩
  | cons act script hyp =>
    obtain ⟨steps, next⟩ := perform_cut cut act
    obtain ⟨later, final⟩ := hyp next
    exact ⟨List.rel_append steps later, final⟩

/-- A limited output stores the first bytes of what the script writes on one without a limit. A step
succeeds exactly if all that is written up to and with it fits, and else ends with a broken pipe; then
so do all steps behind it, and nothing more is stored. A console counts every line that it is given. -/
theorem performAll_limited (script : List Act) (colored : Bool) (limit : Nat) :
    let whole := performAll { colored } script
    let cut := performAll { limit := some limit, colored } script
    cut.2.bytes = whole.2.bytes.take limit ∧
      List.Forall₂ (fun full part => full.refusal = none ∧
          part.refusal = (if full.output.bytes.length ≤ limit then none else some .brokenPipe) ∧
          part.output.bytes = full.output.bytes.take limit) whole.1 cut.1 ∧
      cut.1.Pairwise (fun earlier later => earlier.refusal ≠ none →
        later.refusal = some .brokenPipe ∧ later.output.bytes = earlier.output.bytes) ∧
      cut.1.map Step.counted = script.flatMap tried := by
  intro whole cut
  have fresh : Output.Cut limit { colored } { limit := some limit, colored } := by
    constructor
    case bytes => exact List.take_nil.symm
    all_goals rfl
  obtain ⟨steps, final⟩ := performAll_cut fresh script
  refine ⟨final.bytes, ?_, ?_, performAll_counted _ script⟩
  · exact steps.imp fun _ _ step => ⟨step.granted, step.refusal, step.output.bytes⟩
  · exact Step.pairwise_refused steps (performAll_grows _ script).pairwise

/-- The banner does not fit, and a line is counted although it is refused. -/
example :
    let steps := (performAll { limit := some 3 } [.banner ⟨[]⟩, .console true [.emit "", .separator]]).1
    steps.map Step.refusal = [some .brokenPipe, some .brokenPipe, some .brokenPipe] ∧
      steps.map Step.counted = [none, some 1, some 1] := by
  decide

end Act
end LeadingComment
