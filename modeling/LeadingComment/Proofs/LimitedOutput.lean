import LeadingComment.Proofs.Transcript

namespace LeadingComment

namespace Transcript

theorem writeTo_limited (transcript : Transcript) (output : Output) {limit : Nat}
    (fresh : output.bytes = []) (limited : output.limit = some limit) :
    (transcript.writeTo output).1 =
        (if transcript.bytes.length ≤ limit then transcript.ending
        else .error (.output output.overflow)) ∧
      (transcript.writeTo output).2.bytes = transcript.bytes.take limit := by
  have room : limit - output.bytes.length = limit := by rw [fresh, List.length_nil, Nat.sub_zero]
  rw [writeTo_eq, Output.writePieces_limited limited, room, ← bytes]
  constructor
  · by_cases fits : transcript.bytes.length ≤ limit
    · rw [if_pos fits, if_pos fits]
    · rw [if_neg fits, if_neg fits]
  · simp only [Output.bytes_writePieces, limited, fresh, List.nil_append]
    rfl

end Transcript

/-- With a limit a run keeps the first bytes of what it writes without one. If that is less than all
of them then it ends with a broken pipe, whatever else is in store for it. -/
theorem Files.run_limited (files : Files) (settings : Settings) (paths : List Path) (colored : Bool)
    (flushFault : Option Fault) (limit : Nat) :
    let unlimited := files.run settings paths ({ colored, flushFault } : Output)
    let limited := files.run settings paths ({ limit := some limit, colored, flushFault } : Output)
    limited.output.bytes = unlimited.output.bytes.take limit ∧
      (unlimited.output.bytes.length ≤ limit → limited.result = unlimited.result) ∧
      (limit < unlimited.output.bytes.length → ∃ fault, limited.result = .error (.output fault) ∧
        fault.kind = .brokenPipe ∧ fault.message = "broken pipe") := by
  intro unlimited limited
  let wide : Output := { colored, flushFault }
  let narrow : Output := { limit := some limit, colored, flushFault }
  let transcript := files.transcript settings colored paths
  obtain ⟨wholeResult, wholeBytes⟩ := transcript.writeTo_unlimited wide rfl rfl
  obtain ⟨result, bytes⟩ := transcript.writeTo_limited narrow rfl rfl
  have whole : (unlimited.result, unlimited.output) = Transcript.flushed (transcript.writeTo wide) :=
    files.run_eq_transcript settings paths wide
  have part : (limited.result, limited.output) = Transcript.flushed (transcript.writeTo narrow) :=
    files.run_eq_transcript settings paths narrow
  have written : unlimited.output.bytes = transcript.bytes := by
    rw [← wholeBytes, ← Transcript.flushed_output, ← whole]
  refine ⟨?_, ?_, ?_⟩
  · rw [written, ← bytes, ← Transcript.flushed_output, ← part]
  · intro fits
    rw [written] at fits
    rw [if_pos fits, ← wholeResult] at result
    have same := Transcript.flushed_result result (by
      rw [Transcript.flushFault_writeTo, Transcript.flushFault_writeTo])
    rwa [← whole, ← part] at same
  · intro large
    refine ⟨.brokenPipe, ?_, rfl, rfl⟩
    rw [written] at large
    rw [if_neg (Nat.not_le.mpr large)] at result
    rw [Transcript.flushed_failed result] at part
    exact (congrArg Prod.fst part).trans result

end LeadingComment
