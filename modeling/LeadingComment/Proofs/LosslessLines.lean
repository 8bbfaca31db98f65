import LeadingComment.Proofs.LineAccount
import LeadingComment.Text.Utf8.RoundTrip

/-! The lines of a text with what ends them. A text that is UTF-8 falls into such lines in exactly one
way, since a newline byte never stands within a character; handing over all lines of a source comes to
the lines of what is ahead, or stops at the first that is no text. -/
namespace LeadingComment

/-- A line as it is handed over, and the terminator that is left out behind it. -/
structure EndedLine where
  body : List Char
  terminator : List Char
deriving DecidableEq, Repr

namespace EndedLine

def raw (line : EndedLine) : List Char := line.body ++ line.terminator

def call (line : EndedLine) : Call := .emit (String.ofList line.body)

def IsEnded (line : EndedLine) : Prop :=
  line.terminator = ['\n'] ∨ line.terminator = ['\r', '\n']

/-- A carriage return at the end belongs to the terminator, but no more than one does. -/
structure WellFormed (line : EndedLine) : Prop where
  nonempty : line.raw ≠ []
  unbroken : '\n' ∉ line.body
  terminator : line.IsEnded ∨ line.terminator = ['\r'] ∨ line.terminator = []
  stripped : line.terminator = ['\n'] ∨ line.terminator = [] → line.body.getLast? ≠ some '\r'

/-- The lines of a text in order. Only the last may lack a newline. -/
inductive Splits : List Char → List EndedLine → Prop where
  | none : Splits [] []
  | last {line : EndedLine} (wellFormed : line.WellFormed) : Splits line.raw [line]
  | cons {line : EndedLine} {text : List Char} {later : List EndedLine}
      (wellFormed : line.WellFormed) (ended : line.IsEnded) (rest : Splits text later) :
      Splits (line.raw ++ text) (line :: later)

end EndedLine

namespace Line

theorem dropFinal_concat (mark : Char) (text : List Char) : dropFinal mark (text ++ [mark]) = text := by
  simp [dropFinal]

theorem dropFinal_of_getLast? {mark : Char} {text : List Char} (other : text.getLast? ≠ some mark) :
    dropFinal mark text = text := by
  rw [dropFinal, if_neg other]

end Line

namespace EndedLine

theorem getLast?_ne_of_not_mem {mark : Char} {text : List Char} (absent : mark ∉ text) :
    text.getLast? ≠ some mark := by
  intro last
  exact absent (List.mem_of_getLast? last)

/-- Handing a line over leaves out exactly its terminator. -/
theorem WellFormed.chomp_raw {line : EndedLine} (wellFormed : line.WellFormed) :
    Line.chomp line.raw = line.body := by
  obtain ⟨body, terminator⟩ := line
  have unbroken : '\n' ∉ body := wellFormed.unbroken
  rcases wellFormed.terminator with (rfl | rfl) | rfl | rfl
  · have kept : body.getLast? ≠ some '\r' := wellFormed.stripped (.inl rfl)
    rw [raw, Line.chomp, Line.dropFinal_concat, Line.dropFinal_of_getLast? kept]
  · have shape : raw ⟨body, ['\r', '\n']⟩ = (body ++ ['\r']) ++ ['\n'] := by simp [raw]
    rw [shape, Line.chomp, Line.dropFinal_concat, Line.dropFinal_concat]
  · have other : (body ++ ['\r']).getLast? ≠ some '\n' := by simp
    rw [raw, Line.chomp, Line.dropFinal_of_getLast? other, Line.dropFinal_concat]
  · have kept : body.getLast? ≠ some '\r' := wellFormed.stripped (.inr rfl)
    rw [raw, List.append_nil, Line.chomp,
      Line.dropFinal_of_getLast? (getLast?_ne_of_not_mem unbroken), Line.dropFinal_of_getLast? kept]

theorem WellFormed.eq_of_raw_eq {first second : EndedLine} (wellFormed : first.WellFormed)
    (other : second.WellFormed) (same : first.raw = second.raw) : first = second := by
  have bodies : first.body = second.body := by rw [← wellFormed.chomp_raw, same, other.chomp_raw]
  obtain ⟨body, terminator⟩ := first
  obtain ⟨_, _⟩ := second
  subst bodies
  have terminators := List.append_cancel_left same
  exact congrArg (EndedLine.mk body) terminators

theorem exists_ended {front : List Char} (unbroken : '\n' ∉ front) :
    ∃ line : EndedLine, line.WellFormed ∧ line.IsEnded ∧ line.raw = front ++ ['\n'] := by
  by_cases returned : front.getLast? = some '\r'
  · obtain ⟨body, rfl⟩ := List.getLast?_eq_some_iff.mp returned
    refine ⟨⟨body, ['\r', '\n']⟩, ?_, .inr rfl, by simp [raw]⟩
    constructor
    case nonempty => simp [raw]
    case unbroken => exact fun member => unbroken (List.mem_append_left _ member)
    case terminator => exact .inl (.inr rfl)
    case stripped => simp
  · refine ⟨⟨front, ['\n']⟩, ?_, .inl rfl, rfl⟩
    constructor
    case nonempty => simp [raw]
    case unbroken => exact unbroken
    case terminator => exact .inl (.inl rfl)
    case stripped => exact fun _ => returned

theorem exists_open {text : List Char} (unbroken : '\n' ∉ text) (nonempty : text ≠ []) :
    ∃ line : EndedLine, line.WellFormed ∧ line.raw = text := by
  by_cases returned : text.getLast? = some '\r'
  · obtain ⟨body, rfl⟩ := List.getLast?_eq_some_iff.mp returned
    refine ⟨⟨body, ['\r']⟩, ?_, rfl⟩
    constructor
    case nonempty => simp [raw]
    case unbroken => exact fun member => unbroken (List.mem_append_left _ member)
    case terminator => exact .inr (.inl rfl)
    case stripped => simp
  · refine ⟨⟨text, []⟩, ?_, List.append_nil text⟩
    constructor
    case nonempty => simpa [raw] using nonempty
    case unbroken => exact unbroken
    case terminator => exact .inr (.inr rfl)
    case stripped => exact fun _ => returned

theorem exists_splits (text : List Char) : ∃ lines, Splits text lines := by
  -- What is left behind the first newline is shorter.
  induction size : text.length using Nat.strongRecOn generalizing text with
  | _ length hyp =>
    subst size
    by_cases broken : '\n' ∈ text
    · obtain ⟨front, rest, rfl, unbroken⟩ := List.eq_append_cons_of_mem broken
      obtain ⟨line, wellFormed, ended, same⟩ := exists_ended unbroken
      obtain ⟨later, splits⟩ := hyp rest.length (by simp; omega) rest rfl
      refine ⟨line :: later, ?_⟩
      have whole := Splits.cons wellFormed ended splits
      rw [same] at whole
      simpa using whole
    · by_cases empty : text = []
      · subst empty
        exact ⟨[], .none⟩
      · obtain ⟨line, wellFormed, same⟩ := exists_open broken empty
        exact ⟨[line], same ▸ .last wellFormed⟩

theorem Splits.joined {text : List Char} {lines : List EndedLine} (splits : Splits text lines) :
    text = lines.flatMap raw := by
  induction splits with
  | none => rfl
  | last wellFormed => simp
  | cons wellFormed ended rest hyp => rw [List.flatMap_cons, ← hyp]

theorem Splits.wellFormed {text : List Char} {lines : List EndedLine} (splits : Splits text lines) :
    ∀ line ∈ lines, line.WellFormed := by
  induction splits with
  | none => simp
  | last wellFormed => simpa using wellFormed
  | cons wellFormed ended rest hyp => exact List.forall_mem_cons.mpr ⟨wellFormed, hyp⟩

end EndedLine

namespace Utf8

private theorem not_ascii_ofNat {value : Nat} (low : 0x80 ≤ value) (high : value < 256) :
    ¬ (UInt8.ofNat value).toNat < 0x80 := by
  rw [UInt8.toNat_ofNat_of_lt' high]
  omega

private theorem not_ascii_trailing (value : Nat) : ¬ (trailing value).toNat < 0x80 := by
  apply not_ascii_ofNat <;> omega

theorem encodeChar_ascii {char : Char} (ascii : char.toNat < 0x80) :
    encodeChar char = [UInt8.ofNat char.toNat] := by
  simp [encodeChar, ascii]

/-- A byte of ASCII is a character of its own wherever it stands. -/
theorem ascii_of_mem_encodeChar {char : Char} {byte : UInt8} (ascii : byte.toNat < 0x80)
    (member : byte ∈ encodeChar char) : char.toNat < 0x80 ∧ byte = UInt8.ofNat char.toNat := by
  have bound : char.toNat < 0x110000 := by
    rcases char.valid with small | large
    · exact Nat.lt_trans small (by decide)
    · exact large.2
  by_cases small : char.toNat < 0x80
  · rw [encodeChar_ascii small] at member
    exact ⟨small, List.mem_singleton.mp member⟩
  · exfalso
    rw [encodeChar] at member
    simp only [small, ↓reduceIte] at member
    split at member
    · rcases List.mem_cons.mp member with rfl | later
      · exact not_ascii_ofNat (by omega) (by omega) ascii
      · rw [List.mem_singleton.mp later] at ascii
        exact not_ascii_trailing _ ascii
    split at member
    · rcases List.mem_cons.mp member with rfl | later
      · exact not_ascii_ofNat (by omega) (by omega) ascii
      · simp only [List.mem_cons, List.not_mem_nil, or_false] at later
        rcases later with rfl | rfl <;> exact not_ascii_trailing _ ascii
    · rcases List.mem_cons.mp member with rfl | later
      · exact not_ascii_ofNat (by omega) (by omega) ascii
      · simp only [List.mem_cons, List.not_mem_nil, or_false] at later
        rcases later with rfl | rfl | rfl <;> exact not_ascii_trailing _ ascii

theorem not_mem_encode_of_ascii {byte : UInt8} (ascii : byte.toNat < 0x80) {text : List Char}
    (absent : Char.ofNat byte.toNat ∉ text) : byte ∉ encode text := by
  intro member
  obtain ⟨char, inText, inBytes⟩ := List.mem_flatMap.mp member
  obtain ⟨small, same⟩ := ascii_of_mem_encodeChar ascii inBytes
  have values : byte.toNat = char.toNat := by
    rw [same, UInt8.toNat_ofNat_of_lt' (Nat.lt_trans small (by decide))]
  apply absent
  rw [values, Char.ofNat_toNat]
  exact inText

theorem newline_not_mem_encode {text : List Char} (unbroken : '\n' ∉ text) :
    Line.newline ∉ encode text :=
  not_mem_encode_of_ascii (by decide) unbroken

end Utf8

namespace EndedLine

theorem WellFormed.ended_raw {line : EndedLine} (wellFormed : line.WellFormed) (ended : line.IsEnded) :
    ∃ front, '\n' ∉ front ∧ line.raw = front ++ ['\n'] := by
  obtain ⟨body, terminator⟩ := line
  have unbroken : '\n' ∉ body := wellFormed.unbroken
  rcases ended with rfl | rfl
  · exact ⟨body, unbroken, rfl⟩
  · exact ⟨body ++ ['\r'], by simpa using unbroken, by simp [raw]⟩

theorem WellFormed.open_raw {line : EndedLine} (wellFormed : line.WellFormed) (opened : ¬ line.IsEnded) :
    '\n' ∉ line.raw := by
  obtain ⟨body, terminator⟩ := line
  have unbroken : '\n' ∉ body := wellFormed.unbroken
  rcases wellFormed.terminator with ended | rfl | rfl
  · exact absurd ended opened
  · simpa [raw] using unbroken
  · simpa [raw] using unbroken

theorem WellFormed.cut_cons {line : EndedLine} (wellFormed : line.WellFormed) (ended : line.IsEnded)
    (bytes : Bytes) :
    Line.cut (Utf8.encode line.raw ++ bytes) = Utf8.encode line.raw :: Line.cut bytes := by
  obtain ⟨front, unbroken, same⟩ := wellFormed.ended_raw ended
  have newline : Utf8.encode ['\n'] = [Line.newline] := rfl
  rw [same, Utf8.encode_append, newline, List.append_assoc, List.singleton_append]
  exact Line.cut_begun_newline (Utf8.newline_not_mem_encode unbroken) bytes

/-- The lines of a text are what its bytes are cut into. -/
theorem Splits.cut {text : List Char} {lines : List EndedLine} (splits : Splits text lines) :
    Line.cut (Utf8.encode text) = lines.map fun line => Utf8.encode line.raw := by
  induction splits with
  | none => rfl
  | @last line wellFormed =>
    by_cases ended : line.IsEnded
    · have alone := wellFormed.cut_cons ended []
      rwa [List.append_nil] at alone
    · have unbroken := Utf8.newline_not_mem_encode (wellFormed.open_raw ended)
      exact Line.cut_begun_end unbroken (Utf8.encode_ne_nil wellFormed.nonempty)
  | cons wellFormed ended rest hyp =>
    rw [Utf8.encode_append, wellFormed.cut_cons ended, hyp]
    rfl

theorem eq_of_map_encode_eq {lines others : List EndedLine} (wellFormed : ∀ line ∈ lines, line.WellFormed)
    (othersFormed : ∀ line ∈ others, line.WellFormed)
    (same : (lines.map fun line => Utf8.encode line.raw) = others.map fun line => Utf8.encode line.raw) :
    lines = others := by
  induction lines generalizing others with
  | nil => exact (List.map_eq_nil_iff.mp same.symm).symm
  | cons line lines hyp =>
    obtain ⟨other, later, rfl, encoded, rest⟩ := List.map_eq_cons_iff.mp same.symm
    obtain ⟨here, behind⟩ := List.forall_mem_cons.mp wellFormed
    obtain ⟨otherHere, otherBehind⟩ := List.forall_mem_cons.mp othersFormed
    have raws : other.raw = line.raw := by
      have decoded := congrArg Utf8.decode? encoded
      rw [Utf8.decode?_encode, Utf8.decode?_encode] at decoded
      exact Option.some.inj decoded
    rw [here.eq_of_raw_eq otherHere raws.symm, hyp behind otherBehind rest.symm]

theorem Splits.unique {text : List Char} {lines others : List EndedLine} (splits : Splits text lines)
    (other : Splits text others) : lines = others :=
  eq_of_map_encode_eq splits.wellFormed other.wellFormed (splits.cut.symm.trans other.cut)

theorem WellFormed.text?_raw {line : EndedLine} (wellFormed : line.WellFormed) :
    Line.text? (Utf8.encode line.raw) = some (String.ofList line.body) := by
  rw [Line.text?, Utf8.decode?_encode, Option.map_some, wellFormed.chomp_raw]

theorem Splits.texts {text : List Char} {lines : List EndedLine} (splits : Splits text lines) :
    (Line.cut (Utf8.encode text)).map Line.text? =
      (lines.map fun line => String.ofList line.body).map some := by
  rw [splits.cut, List.map_map, List.map_map]
  apply List.map_congr_left
  intro line member
  exact (splits.wellFormed line member).text?_raw

end EndedLine

theorem Line.decode?_of_texts {bytes : Bytes} {texts : List String}
    (told : (cut bytes).map text? = texts.map some) : ∃ text, Utf8.decode? bytes = some text := by
  have whole := flatten_cut bytes
  rw [← whole]
  generalize cut bytes = lines at told
  induction lines generalizing texts with
  | nil => exact ⟨[], rfl⟩
  | cons line lines hyp =>
    obtain ⟨first, later, rfl, here, rest⟩ := List.map_eq_cons_iff.mp told.symm
    obtain ⟨raw, decoded, _⟩ := Option.map_eq_some_iff.mp here.symm
    obtain ⟨text, behind⟩ := hyp rest.symm
    refine ⟨raw ++ text, ?_⟩
    rw [Utf8.decode?_eq_some_iff] at decoded behind ⊢
    rw [List.flatten_cons, decoded, behind, Utf8.encode_append]

theorem Line.decode?_of_mem_cut {bytes : Bytes} {text : List Char} (decoded : Utf8.decode? bytes = some text) :
    ∀ line ∈ cut bytes, Utf8.decode? line ≠ none := by
  obtain ⟨lines, splits⟩ := EndedLine.exists_splits text
  rw [Utf8.decode?_eq_some_iff.mp decoded, splits.cut]
  intro line member
  obtain ⟨whole, _, rfl⟩ := List.mem_map.mp member
  simp [Utf8.decode?_encode]

namespace Source

variable {State : Type}

/-- Handing over everything succeeds if and only if all that is ahead is text, and then nothing but the
terminators is left out. Otherwise it stops behind the first line that is no text, having handed over
those before it and no separator. -/
theorem cat_splits (data : Bytes) (position : Nat) (respond : Call → State → State) (state : State) :
    let source : Source := { data, position }
    let outcome := source.cat (Sink.granting respond) state
    let after (calls : List Call) := calls.foldl (fun state call => respond call state) state
    match Utf8.decode? source.ahead with
    | some text => ∃ lines, EndedLine.Splits text lines ∧
        (∀ others, EndedLine.Splits text others → others = lines) ∧
        source.ahead = Utf8.encode (lines.flatMap EndedLine.raw) ∧
        outcome.result = .ok lines.length ∧
        outcome.sink = after (lines.map EndedLine.call ++ [.separator]) ∧
        outcome.source = { data, position := position + source.ahead.length }
    | none => ∃ (before : List Bytes) (line : Bytes) (later : List Bytes) (texts : List String),
        Line.cut source.ahead = before ++ line :: later ∧
        before.map Line.text? = texts.map some ∧ Utf8.decode? line = none ∧
        outcome.result = .error (.read .invalidText) ∧
        outcome.sink = after (texts.map Call.emit) ∧
        outcome.source = { data, position := position + (before ++ [line]).flatten.length } := by
  intro source outcome after
  obtain ⟨share, later, task, result, split, fair, final, sink⟩ :=
    perform_share data position respond state .cat
  change share.result = outcome.result at result
  change outcome.source = _ at final
  change outcome.sink = _ at sink
  change Line.cut source.ahead = _ at split
  have told := fair.texts
  cases ended : share.result with
  | ok count =>
    have all : share.emitted = Line.cut source.ahead := by
      rw [split]
      exact fair.cat count task ended
    have shared : share.lines = Line.cut source.ahead := by
      have longer := congrArg List.length (all.trans split)
      simp only [Share.lines, List.length_append] at longer
      rw [Share.lines, List.eq_nil_of_length_eq_zero (by omega : share.rest.length = 0), all,
        List.append_nil]
    rw [all] at told
    obtain ⟨text, decoded⟩ := Line.decode?_of_texts told
    obtain ⟨lines, splits⟩ := EndedLine.exists_splits text
    have bytes := Utf8.decode?_eq_some_iff.mp decoded
    have number : count = lines.length := by
      rw [fair.counted count ended, all, bytes, splits.cut, List.length_map]
    have texts : share.texts = lines.map fun line => String.ofList line.body := by
      rw [bytes, splits.texts] at told
      exact (List.map_inj_right (fun _ _ => Option.some.inj)).mp told.symm
    rw [decoded]
    refine ⟨lines, splits, fun others other => other.unique splits, ?_, ?_, ?_, ?_⟩
    · rw [bytes, ← splits.joined]
    · rw [← result, ended, number]
    · rw [sink, Share.calls, ended, texts, List.map_map]
      rfl
    · rw [final, shared, Line.flatten_cut]
  | error fault =>
    obtain ⟨rfl, line, stopped, invalid⟩ := fair.failed fault ended
    have parts : Line.cut source.ahead = share.emitted ++ line :: later := by
      rw [split, Share.lines, stopped, List.append_assoc, List.singleton_append]
    have undecoded : Utf8.decode? source.ahead = none := by
      cases decoded : Utf8.decode? source.ahead with
      | none => rfl
      | some text =>
        have member : line ∈ Line.cut source.ahead := by simp [parts]
        exact absurd invalid (Line.decode?_of_mem_cut decoded line member)
    rw [undecoded]
    refine ⟨share.emitted, line, later, share.texts, parts, told, invalid, ?_, ?_, ?_⟩
    · rw [← result, ended]
    · rw [sink, Share.calls, ended, List.append_nil]
    · rw [final, Share.lines, stopped]

end Source
end LeadingComment
