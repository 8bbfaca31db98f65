import LeadingComment.Writer

/-! An output that may be limited in size. It keeps as much of every write as fits, and from then
on refuses each write of at least one byte. -/
namespace LeadingComment

structure Output where
  stored : Array UInt8 := #[]
  limit : Option Nat := none
  /-- What a write that does not fit reports. -/
  overflow : Fault := .brokenPipe
  flushFault : Option Fault := none
  /-- Whether colors are written as escape sequences or left out. -/
  colored : Bool := false
deriving DecidableEq, Repr

namespace Output

def full : Output := { limit := some 0, overflow := .noSpace }

def bytes (output : Output) : Bytes := output.stored.toList

def write (output : Output) (bytes : Bytes) : Option Fault × Output :=
  match output.limit with
  | none => (none, { output with stored := output.stored ++ bytes })
  | some limit =>
    let room := limit - output.stored.size
    if bytes.length ≤ room then (none, { output with stored := output.stored ++ bytes })
    else (some output.overflow, { output with stored := output.stored ++ bytes.take room })

/-- What is stored is never taken back, and what is added is the part of the write that fits. -/
theorem bytes_write (output : Output) (bytes : Bytes) :
    (output.write bytes).2.bytes = output.bytes ++
      match output.limit with
      | none => bytes
      | some limit => bytes.take (limit - output.bytes.length) := by
  cases bounded : output.limit with
  | none => simp [write, bounded, Output.bytes]
  | some limit =>
    simp only [write, bounded, Output.bytes, Array.length_toList]
    split
    next fits => simp [List.take_of_length_le fits]
    next => simp

/-- A write is refused if and only if it does not fit. -/
theorem write_refused_iff (output : Output) (bytes : Bytes) :
    (output.write bytes).1 ≠ none ↔
      ∃ limit, output.limit = some limit ∧ limit - output.bytes.length < bytes.length := by
  cases bounded : output.limit with
  | none => simp [write, bounded]
  | some limit =>
    simp only [write, bounded, Output.bytes, Array.length_toList]
    split
    next fits => simp; omega
    next large => simp; omega

private theorem stored_append (stored : Array UInt8) (first second : Bytes) :
    stored ++ (first ++ second) = stored ++ first ++ second :=
  Array.toList_inj.mp (by simp)

/-- Two writes are as good as one, unless the first is refused. -/
theorem write_append (output : Output) (first second : Bytes) :
    output.write (first ++ second) =
      match output.write first with
      | (none, output) => output.write second
      | refused => refused := by
  cases bounded : output.limit with
  | none => simp [write, bounded, stored_append]
  | some limit =>
    simp only [write, bounded, List.length_append, List.take_append]
    by_cases fits : first.length ≤ limit - output.stored.size
    · have grown : (output.stored ++ first).size = output.stored.size + first.length := by
        rw [← Array.length_toList]; simp
      have left : limit - (output.stored ++ first).size =
          limit - output.stored.size - first.length := by omega
      simp only [fits, left, ↓reduceIte, stored_append, List.take_of_length_le fits]
      split <;> split <;> first | rfl | omega
    · have none_left : limit - output.stored.size - first.length = 0 := by omega
      have larger : ¬ first.length + second.length ≤ limit - output.stored.size := by omega
      simp [fits, larger, none_left]

theorem write_full {output : Output} (full : output.limit = some 0) (bytes : Bytes) :
    output.write bytes = (if bytes = [] then none else some output.overflow, output) := by
  obtain ⟨stored, limit, overflow, flushFault, colored⟩ := output
  cases full
  cases bytes with
  | nil => simp [write]
  | cons byte bytes => simp [write]

theorem write_stored (output : Output) (bytes : Bytes) :
    (output.write bytes).2 = { output with stored := (output.write bytes).2.stored } := by
  unfold write
  split
  · rfl
  · dsimp only
    split <;> rfl

instance : Writer Output where
  write := write
  flush output := (output.flushFault, output)
  colored := colored
  colored_write output bytes := by rw [write_stored]

open Writer (writeText writePieces)

theorem flush_eq (output : Output) : Writer.flush output = (output.flushFault, output) := rfl

theorem writeText_eq (output : Output) (text : String) : writeText output text = output.write (utf8 text) :=
  rfl

/-- It makes no difference how a text is cut. -/
theorem writePieces_eq (output : Output) (pieces : List String) :
    writePieces output pieces = writeText output (String.join pieces) := by
  induction pieces generalizing output with
  | nil =>
    obtain ⟨stored, limit, _⟩ := output
    cases limit <;> simp [writePieces, writeText_eq, write, utf8, Utf8.encode]
  | cons piece pieces hyp =>
    rw [writePieces, writeText_eq, writeText_eq, String.join_cons, utf8_append, write_append]
    cases output.write (utf8 piece) with
    | mk refusal output =>
      cases refusal with
      | none => exact hyp output
      | some fault => rfl

theorem bytes_writePieces (output : Output) (pieces : List String) :
    (writePieces output pieces).2.bytes = output.bytes ++
      match output.limit with
      | none => utf8 (String.join pieces)
      | some limit => (utf8 (String.join pieces)).take (limit - output.bytes.length) := by
  rw [writePieces_eq]
  exact output.bytes_write (utf8 (String.join pieces))

theorem writePieces_unlimited {output : Output} (unlimited : output.limit = none)
    (pieces : List String) : (writePieces output pieces).1 = none := by
  rw [writePieces_eq, writeText_eq, write, unlimited]

theorem writePieces_limited {output : Output} {limit : Nat} (limited : output.limit = some limit)
    (pieces : List String) :
    (writePieces output pieces).1 =
      if (utf8 (String.join pieces)).length ≤ limit - output.bytes.length then none
      else some output.overflow := by
  have stored : output.stored.size = output.bytes.length := Array.length_toList.symm
  rw [writePieces_eq, writeText_eq, write, limited]
  simp only [stored]
  by_cases fits : (utf8 (String.join pieces)).length ≤ limit - output.bytes.length
  · rw [if_pos fits, if_pos fits]
  · rw [if_neg fits, if_neg fits]

theorem writePieces_stored (output : Output) (pieces : List String) :
    ∃ stored, (writePieces output pieces).2 = { output with stored } := by
  rw [writePieces_eq, writeText_eq, write_stored]
  exact ⟨_, rfl⟩

theorem flushFault_writePieces (output : Output) (pieces : List String) :
    (writePieces output pieces).2.flushFault = output.flushFault := by
  obtain ⟨stored, same⟩ := output.writePieces_stored pieces
  rw [same]

end Output
end LeadingComment
