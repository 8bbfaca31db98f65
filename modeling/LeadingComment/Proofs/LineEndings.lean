import LeadingComment.Catalog.Builtin
import LeadingComment.Proofs.LosslessLines
import LeadingComment.Proofs.Lockstep
import Mathlib.Data.List.Infix

/-! How lines are ended makes no difference. A newline behind the last line, or a carriage return in front
of every newline, leaves the text of each line as it is; so the lines are read in lockstep, while the
offsets drift apart. -/
namespace LeadingComment

namespace Utf8

/-- A byte of ASCII behind other bytes is a character of its own. -/
theorem decode?_concat (mark : Char) (ascii : mark.toNat < 0x80) (bytes : Bytes) :
    decode? (bytes ++ [UInt8.ofNat mark.toNat]) = (decode? bytes).map (· ++ [mark]) := by
  have byte : (UInt8.ofNat mark.toNat).toNat < 0x80 := by
    rwa [UInt8.toNat_ofNat_of_lt' (Nat.lt_trans ascii (by decide))]
  have single : encode [mark] = [UInt8.ofNat mark.toNat] := by
    rw [encode, List.flatMap_singleton, encodeChar_ascii ascii]
  cases decoded : decode? bytes with
  | some text =>
    rw [Option.map_some, decode?_eq_some_iff, encode_append, single, decode?_eq_some_iff.mp decoded]
  | none =>
    rw [Option.map_none]
    by_contra readable
    obtain ⟨text, whole⟩ := Option.ne_none_iff_exists'.mp readable
    have same := decode?_eq_some_iff.mp whole
    -- A byte of ASCII ends no longer character, so what stands before it would be readable.
    rcases List.eq_nil_or_concat text with rfl | ⟨front, last, rfl⟩
    · simp [encode] at same
    · have split : encode front ++ encodeChar last = bytes ++ [UInt8.ofNat mark.toNat] := by
        rw [same, List.concat_eq_append, encode_append]
        simp [encode]
      have nonempty : encodeChar last ≠ [] := by
        have filled : encode [last] ≠ [] := encode_ne_nil (List.cons_ne_nil _ _)
        simpa [encode] using filled
      have final : (encodeChar last).getLast? = some (UInt8.ofNat mark.toNat) := by
        have ends := congrArg List.getLast? split
        rw [List.getLast?_concat, List.getLast?_append_of_ne_nil _ nonempty] at ends
        exact ends
      obtain ⟨small, same_byte⟩ := ascii_of_mem_encodeChar byte (List.mem_of_getLast? final)
      rw [encodeChar_ascii small, ← same_byte] at split
      have before := List.append_cancel_right split
      rw [← before, decode?_encode] at decoded
      cases decoded

end Utf8

namespace Line

def carriageReturn : UInt8 := 13

def withReturns (bytes : Bytes) : Bytes :=
  bytes.flatMap fun byte => if byte = newline then [carriageReturn, newline] else [byte]

/-- Lines for which the same is handed over, or which are both no text. -/
def SameText (line other : Bytes) : Prop := text? line = text? other

theorem chomp_concat_newline (raw : List Char) : chomp (raw ++ ['\n']) = dropFinal '\r' raw := by
  rw [chomp, dropFinal_concat]

theorem text?_concat_newline {begun : Bytes} (unended : newline ∉ begun) :
    SameText begun (begun ++ [newline]) := by
  have decoded := Utf8.decode?_concat '\n' (by decide) begun
  rw [SameText, text?, text?, show begun ++ [newline] = begun ++ [UInt8.ofNat '\n'.toNat] from rfl, decoded]
  cases same : Utf8.decode? begun with
  | none => rfl
  | some raw =>
    have unbroken : raw.getLast? ≠ some '\n' := by
      intro last
      apply unended
      rw [Utf8.decode?_eq_some_iff.mp same]
      exact List.mem_flatMap.mpr ⟨'\n', List.mem_of_getLast? last, List.mem_singleton.mpr rfl⟩
    simp only [Option.map_some]
    rw [chomp_concat_newline, chomp, dropFinal_of_getLast? unbroken]

theorem text?_concat_return {begun : Bytes} (unreturned : begun.getLast? ≠ some carriageReturn) :
    SameText (begun ++ [newline]) (begun ++ [carriageReturn, newline]) := by
  have ended := Utf8.decode?_concat '\n' (by decide) begun
  have returned := Utf8.decode?_concat '\r' (by decide) begun
  have both := Utf8.decode?_concat '\n' (by decide) (begun ++ [UInt8.ofNat '\r'.toNat])
  rw [returned, List.append_assoc] at both
  rw [SameText, text?, text?, show begun ++ [newline] = begun ++ [UInt8.ofNat '\n'.toNat] from rfl, ended,
    show begun ++ [carriageReturn, newline] =
      begun ++ ([UInt8.ofNat '\r'.toNat] ++ [UInt8.ofNat '\n'.toNat]) from rfl, both]
  cases same : Utf8.decode? begun with
  | none => rfl
  | some raw =>
    have kept : raw.getLast? ≠ some '\r' := by
      intro last
      obtain ⟨front, rfl⟩ := List.getLast?_eq_some_iff.mp last
      apply unreturned
      rw [Utf8.decode?_eq_some_iff.mp same, Utf8.encode_append]
      exact List.getLast?_concat
    simp only [Option.map_some]
    rw [chomp_concat_newline, chomp_concat_newline, dropFinal_concat, dropFinal_of_getLast? kept]

theorem cut_concat_newline {bytes : Bytes} (begins : bytes ≠ []) (unended : bytes.getLast? ≠ some newline) :
    List.Forall₂ SameText (cut bytes) (cut (bytes ++ [newline])) := by
  induction bytes using cut_induction with
  | nil => exact absurd rfl begins
  | last begun unbroken begins =>
    rw [cut_begun_end unbroken begins, cut_begun_newline unbroken]
    exact .cons (text?_concat_newline unbroken) .nil
  | cons begun bytes unbroken hyp =>
    have later : bytes ≠ [] := by
      rintro rfl
      exact unended List.getLast?_concat
    have laterUnended : bytes.getLast? ≠ some newline := by
      intro last
      apply unended
      rw [List.getLast?_append_of_ne_nil _ (List.cons_ne_nil _ _), List.getLast?_cons, last]
      rfl
    rw [List.append_assoc, List.cons_append, cut_begun_newline unbroken, cut_begun_newline unbroken]
    exact .cons rfl (hyp later laterUnended)

theorem withReturns_unbroken {bytes : Bytes} (unbroken : newline ∉ bytes) : withReturns bytes = bytes := by
  induction bytes with
  | nil => rfl
  | cons byte bytes hyp =>
    have other : byte ≠ newline := fun same => unbroken (by simp [same])
    have rest := hyp fun member => unbroken (List.mem_cons_of_mem byte member)
    rw [withReturns] at rest ⊢
    rw [List.flatMap_cons, if_neg other, rest, List.singleton_append]

theorem withReturns_cons {begun : Bytes} (unbroken : newline ∉ begun) (bytes : Bytes) :
    withReturns (begun ++ newline :: bytes) =
      (begun ++ [carriageReturn]) ++ newline :: withReturns bytes := by
  have front := withReturns_unbroken unbroken
  rw [withReturns] at front ⊢
  rw [List.flatMap_append, front, List.flatMap_cons, if_pos rfl, List.append_assoc]
  rfl

theorem cut_withReturns {bytes : Bytes} (unreturned : ¬ [carriageReturn, newline] <:+: bytes) :
    List.Forall₂ SameText (cut bytes) (cut (withReturns bytes)) := by
  induction bytes using cut_induction with
  | nil => exact .nil
  | last begun unbroken begins =>
    rw [withReturns_unbroken unbroken, cut_begun_end unbroken begins]
    exact .cons rfl .nil
  | cons begun bytes unbroken hyp =>
    have later : ¬ [carriageReturn, newline] <:+: bytes := by
      intro within
      have behind : bytes <:+: begun ++ newline :: bytes := ⟨begun ++ [newline], [], by simp⟩
      exact unreturned (within.trans behind)
    have kept : begun.getLast? ≠ some carriageReturn := by
      intro last
      obtain ⟨front, rfl⟩ := List.getLast?_eq_some_iff.mp last
      exact unreturned ⟨front, bytes, by simp⟩
    have returned : newline ∉ begun ++ [carriageReturn] := by
      simp only [List.mem_append, List.mem_singleton, not_or]
      exact ⟨unbroken, by decide⟩
    rw [withReturns_cons unbroken, cut_begun_newline unbroken, cut_begun_newline returned, List.append_assoc]
    exact .cons (text?_concat_return kept) (hyp later)

end Line

def Place.Untrapped (place other : Place) : Prop := place.traps = [] ∧ other.traps = []

/-- Without traps, lines with the same text are read alike from any two positions. -/
theorem Place.readOn_sameText {lines others : List Bytes} (same : List.Forall₂ Line.SameText lines others)
    (position otherPosition : Nat) :
    Reading.Alike Untrapped (readOn { position } [] lines) (readOn { position := otherPosition } [] others) := by
  induction same generalizing position otherPosition with
  | nil => exact ⟨.nil, .complete ⟨rfl, rfl⟩⟩
  | @cons line other lines others text later hyp =>
    rw [Line.SameText, Line.text?, Line.text?] at text
    rw [readOn_cons, readOn_cons, readLine_calm, readLine_calm]
    cases decoded : Utf8.decode? line with
    | none =>
      rw [decoded, Option.map_none, eq_comm, Option.map_eq_none_iff] at text
      rw [text]
      exact ⟨.nil, .failed ⟨rfl, rfl⟩⟩
    | some raw =>
      rw [decoded, Option.map_some, eq_comm, Option.map_eq_some_iff] at text
      obtain ⟨otherRaw, otherDecoded, texts⟩ := text
      rw [otherDecoded]
      obtain ⟨rest, ending⟩ := hyp (position + line.length) (otherPosition + other.length)
      exact ⟨.cons ⟨(String.ofList_injective texts).symm, rfl, rfl⟩ rest, ending⟩

namespace Source

theorem alike_of_sameText {data other : Bytes}
    (same : List.Forall₂ Line.SameText (Line.cut data) (Line.cut other)) (seeks : Option Nat) :
    Alike Place.Untrapped { data, seeks } { data := other, seeks } where
  seeks := rfl
  place := ⟨rfl, rfl⟩
  back untrapped := untrapped
  reading := by
    rintro traps others ⟨rfl, rfl⟩
    exact Place.readOn_sameText same 0 0

variable {State : Type}

/-- A newline behind a last line that has none changes nothing that is handed over, nor the result; and
neither does a carriage return in front of every newline, where there has been none before. -/
theorem process_lineEndings (catalog : Catalog) (mode : Mode) (data : Bytes) (seeks : Option Nat)
    (sink : Sink State) (state : State) :
    let outcome (data : Bytes) := ({ data, seeks } : Source).process catalog mode sink state
    let calls (data : Bytes) :=
      (({ data, seeks } : Source).process catalog mode sink.traced { state }).sink.calls
    let agrees (other : Bytes) : Prop :=
      calls other = calls data ∧ (outcome other).result = (outcome data).result ∧
        (outcome other).sink = (outcome data).sink
    (data ≠ [] → data.getLast? ≠ some Line.newline → agrees (data ++ [Line.newline])) ∧
      (¬ [Line.carriageReturn, Line.newline] <:+: data → agrees (Line.withReturns data)) := by
  intro outcome calls agrees
  have same {other : Bytes} (lines : List.Forall₂ Line.SameText (Line.cut data) (Line.cut other)) :
      agrees other := by
    have alike := alike_of_sameText lines seeks
    have processed := alike.process catalog mode sink state
    have traced := alike.process catalog mode sink.traced { state }
    exact ⟨congrArg Traced.calls traced.sink.symm, processed.result.symm, processed.sink.symm⟩
  constructor
  · intro begins unended
    exact same (Line.cut_concat_newline begins unended)
  · intro unreturned
    exact same (Line.cut_withReturns unreturned)

/-- The last line ends in a carriage return, which is part of its terminator with a newline and without. -/
theorem process_lineEndings_returned :
    let data := utf8 "# é\n# b\r"
    let source (data : Bytes) : Source := { data, seeks := some 2 }
    let calls (data : Bytes) :=
      ((source data).process .builtin .comment Sink.willing.traced { state := () }).sink.calls
    data ≠ [] ∧ data.getLast? ≠ some Line.newline ∧ ¬ [Line.carriageReturn, Line.newline] <:+: data ∧
      calls (utf8 "# é\n# b\r\n") = calls data ∧ calls (utf8 "# é\r\n# b\r") = calls data := by
  intro data source calls
  have begins : data ≠ [] := by decide
  have unended : data.getLast? ≠ some Line.newline := by decide
  have unreturned : ¬ [Line.carriageReturn, Line.newline] <:+: data := by decide
  have ended : utf8 "# é\n# b\r\n" = data ++ [Line.newline] := by decide
  have returned : utf8 "# é\r\n# b\r" = Line.withReturns data := by decide
  have told := process_lineEndings .builtin .comment data (some 2) Sink.willing ()
  have behindLast := (told.1 begins unended).1
  have behindEach := (told.2 unreturned).1
  -- Brought to one form, the calls are compared without being computed.
  dsimp only at behindLast behindEach
  rw [ended, returned]
  dsimp only [calls, source]
  exact ⟨begins, unended, unreturned, behindLast, behindEach⟩

end Source
end LeadingComment
