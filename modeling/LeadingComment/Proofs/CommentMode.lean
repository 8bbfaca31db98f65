import LeadingComment.Catalog.Builtin
import LeadingComment.Proofs.Parting

/-! Comment mode from end to end, on a source without traps and with seeks enough. Detection looks at the
first line with blanks left aside at both ends, and extraction reads it again without its terminator; what
the first finds at the start of the line, the second finds there too (`goesOn_of_match?`). -/
namespace LeadingComment

theorem trim_concat {mark : Char} (blank : isBlank mark = true) (text : List Char) :
    trim (text ++ [mark]) = trim text := by
  rw [trim, trim, trimStart, trimStart, List.dropWhile_append]
  split
  next empty => simp [List.isEmpty_iff.mp empty, blank]
  next => simp [trimEnd, blank]

theorem trim_prefix (text : List Char) : trim text <+: trimStart text := by
  rw [trim, trimEnd, ← List.reverse_suffix, List.reverse_reverse]
  exact List.dropWhile_suffix isBlank

namespace Line

theorem trim_dropFinal {mark : Char} (blank : isBlank mark = true) (text : List Char) :
    trim (dropFinal mark text) = trim text := by
  rw [dropFinal]
  split
  next final =>
    obtain ⟨front, rfl⟩ := List.getLast?_eq_some_iff.mp final
    rw [List.dropLast_concat, trim_concat blank]
  next => rfl

theorem trim_chomp (text : List Char) : trim (chomp text) = trim text := by
  rw [chomp, trim_dropFinal rfl, trim_dropFinal rfl]

end Line

/-- An opening that starts a line with its blanks and terminator left aside starts the line without its
terminator as well. -/
theorem Catalog.goesOn_of_match? {catalog : Catalog} {line : List Char} {style : Style}
    (found : catalog.match? line = some style) :
    Choice.goesOn style.opening (Line.chomp line) = true := by
  rw [match?] at found
  split at found
  · cases found
  next filled =>
    have starts := List.find?_some found
    rw [Token.starts, List.isPrefixOf_iff_prefix] at starts
    have within := trim_prefix (Line.chomp line)
    rw [Line.trim_chomp] at within
    rw [Choice.goesOn, Token.starts, List.isPrefixOf_iff_prefix]
    exact starts.trans within

theorem Choice.select_first {choice : Choice} {count : Nat} {taken : Taken}
    (unmet : choice.most ≠ some count) (wanted : choice.verdict taken ≠ .leave) (ending : Ending)
    (place : Place) (later : List Taken) :
    ∃ rest, (choice.select ending count place (taken :: later)).lines = taken :: rest := by
  rw [select, if_neg unmet]
  cases verdict : choice.verdict taken with
  | take => exact ⟨_, rfl⟩
  | takeLast => exact ⟨[], rfl⟩
  | leave => exact absurd verdict wanted

theorem Choice.comment_most (style : Style) : (comment style).most = none := by
  rw [comment]
  cases style.delimiters <;> rfl

theorem Choice.comment_wants {style : Style} {taken : Taken}
    (goes : goesOn style.opening taken.chars = true) : (comment style).verdict taken ≠ .leave := by
  rw [comment]
  rw [Style.opening] at goes
  cases delimiters : style.delimiters with
  | line opening =>
    rw [delimiters] at goes
    simp [whileContinued, continues, show goesOn opening taken.chars = true from goes]
  | block opening closing =>
    simp only [untilClosed]
    split <;> simp

/-- A comment begins with the first line if that line goes on with the style's opening. -/
theorem Selection.comment_first {style : Style} {reading : Reading} {taken : Taken} {later : List Taken}
    (begins : reading.lines = taken :: later) (goes : Choice.goesOn style.opening taken.chars = true) :
    ∃ rest, (comment style reading).lines = taken :: rest := by
  have unmet : (Choice.comment style).most ≠ some 0 := by simp [Choice.comment_most]
  have first := Choice.select_first unmet (Choice.comment_wants goes) reading.ending { position := 0 } later
  rwa [← begins, Choice.select_comment] at first

private theorem Source.spendSeek?_enough (data : Bytes) (position : Nat) {seeks : Option Nat}
    (enough : ∀ left, seeks = some left → 2 ≤ left) :
    ({ data, position, seeks } : Source).spendSeek? =
        some { data, position, seeks := seeks.map (· - 1) } ∧
      ∀ behind, ({ data, position := behind, seeks := seeks.map (· - 1) } : Source).spendSeek? =
        some { data, position := behind, seeks := seeks.map (· - 2) } := by
  cases seeks with
  | none => exact ⟨rfl, fun _ => rfl⟩
  | some left =>
    have least := enough left rfl
    obtain ⟨more, rfl⟩ := Nat.exists_eq_add_of_le' least
    exact ⟨rfl, fun _ => rfl⟩

/-- Without traps and with seeks enough, detection comes to what the first line says. -/
theorem Source.detect_calm (catalog : Catalog) (data : Bytes) (position : Nat) {seeks : Option Nat}
    (enough : ∀ left, seeks = some left → 2 ≤ left) :
    let source : Source := { data, position, seeks }
    let restored : Source := { data, position, seeks := seeks.map (· - 2) }
    source.detect catalog =
      match (Line.cut source.ahead).head? with
      | none => { result := .ok none, source := restored, notes := [.emptyInput] }
      | some line =>
        match Utf8.decode? line with
        | none =>
          { result := .error .invalidText
            source := { data, position := position + line.length, seeks := seeks.map (· - 1) } }
        | some raw =>
          let (style, note) := Detection.judge catalog (some raw)
          { result := .ok style, source := restored, notes := [note] } := by
  intro source restored
  obtain ⟨located, left⟩ := spendSeek?_enough data position enough
  rw [detect, located]
  simp only [firstLine, Line.first?_eq_head?, place, Place.readLine_calm]
  have same : ({ data, position, seeks := seeks.map (· - 1) } : Source).ahead = source.ahead := rfl
  rw [same]
  cases (Line.cut source.ahead).head? with
  | none => simp [Place.atEnd, strike, moveTo, left, Detection.judge, reposition, restored, source]
  | some line =>
    simp only
    cases Utf8.decode? line with
    | none => rfl
    | some raw => simp [moveTo, left, reposition, restored, source]

private theorem Sink.traced_granting {State : Type} (respond : Call → State → State) :
    (granting respond).traced = granting fun call traced =>
      { state := respond call traced.state, calls := traced.calls ++ [(call, none)] } := rfl

/-- Where no call is refused, it makes no difference to an extraction how many seeks are left. -/
private theorem Source.extractComment_seeks (source : Source) (seeks : Option Nat) (style : Style)
    {State : Type} (respond : Call → State → State) (state : State) :
    let extracted := source.extractComment style (Sink.granting respond) state
    let otherwise := { source with seeks }.extractComment style (Sink.granting respond) state
    otherwise.result = extracted.result ∧ otherwise.sink = extracted.sink ∧
      otherwise.source.position = extracted.source.position := by
  intro extracted otherwise
  let other : Source := { source with seeks }
  let selection := Selection.comment style source.reading
  obtain ⟨result, final, sink⟩ := source.deliver_granting respond state selection
  obtain ⟨otherResult, otherFinal, otherSink⟩ := other.deliver_granting respond state selection
  rw [← extractComment_eq_deliver] at result final sink
  have same : other.deliver (Sink.granting respond) state selection = otherwise :=
    (other.extractComment_eq_deliver style (Sink.granting respond) state).symm
  rw [same] at otherResult otherFinal otherSink
  refine ⟨otherResult.trans result.symm, otherSink.trans sink.symm, ?_⟩
  have stands : extracted.source.position = selection.ending.place.position := by rw [final]; rfl
  rw [otherFinal, stands]
  rfl

private theorem Source.extractComment_first {source : Source} {style : Style} {taken : Taken}
    {later : List Taken} (begins : source.reading.lines = taken :: later)
    (goes : Choice.goesOn style.opening taken.chars = true) {State : Type}
    (respond : Call → State → State) (state : State) :
    (source.extractComment style (Sink.granting respond).traced { state }).sink.calls.head? =
      some (taken.call, none) := by
  obtain ⟨rest, first⟩ := Selection.comment_first begins goes
  rw [extractComment_eq_deliver, deliver_sink, Sink.serve_traced, Sink.made_granting, Selection.calls, first]
  rfl

/-- Comment mode extracts the comment that detection finds, from the first line on. Where it finds none
or the first line is no text, nothing is handed over. -/
theorem Source.process_comment (catalog : Catalog) (data : Bytes) (position : Nat) {seeks : Option Nat}
    (enough : ∀ left, seeks = some left → 2 ≤ left) {State : Type} (respond : Call → State → State)
    (state : State) :
    let source : Source := { data, position, seeks }
    let sink := (Sink.granting respond).traced
    let outcome := source.process catalog .comment sink { state }
    let idle := outcome.result = .ok none ∧ outcome.sink = { state } ∧ outcome.source.position = position
    match (Line.cut source.ahead).head? with
    | none => idle
    | some line =>
      match Utf8.decode? line with
      | none => outcome.result = .error (.read .invalidText) ∧ outcome.sink = { state }
      | some raw =>
        match catalog.match? raw with
        | none => idle
        | some style =>
          let extracted := source.extractComment style sink { state }
          outcome.sink.calls.head? = some (.emit (String.ofList (Line.chomp raw)), none) ∧
            outcome.sink = extracted.sink ∧ outcome.source.position = extracted.source.position ∧
            outcome.result = extracted.result.map fun _ => some style := by
  intro source sink outcome idle
  have detected := detect_calm catalog data position enough
  simp only [outcome, idle, process]
  rw [detected]
  cases lines : Line.cut source.ahead with
  | nil => simp
  | cons line later =>
    simp only [List.head?_cons]
    cases decoded : Utf8.decode? line with
    | none => simp
    | some raw =>
      simp only [Detection.judge]
      cases found : catalog.match? raw with
      | none => simp
      | some style =>
        let taken : Taken := { raw, after := { position := position + line.length } }
        -- Detection has given the line back, so extraction begins with it.
        have begins : source.reading.lines =
            taken :: (taken.after.readOn [] (Line.cut source.ahead).tail).lines := by
          rw [reading, lines, Place.readOn_cons, place, Place.readLine_calm, decoded]
          rfl
        have goes : Choice.goesOn style.opening taken.chars = true := Catalog.goesOn_of_match? found
        have first := extractComment_first begins goes respond state
        let record (call : Call) (traced : Traced State) : Traced State :=
          { state := respond call traced.state, calls := traced.calls ++ [(call, none)] }
        obtain ⟨result, handed, stands⟩ :=
          source.extractComment_seeks (seeks.map (· - 2)) style record { state }
        rw [← Sink.traced_granting] at result handed stands
        refine ⟨?_, handed, stands, ?_⟩
        · exact (congrArg (fun traced => traced.calls.head?) handed).trans first
        · exact congrArg (Except.map fun _ => some style) result

/-- Blanks in front and a terminator of two characters; the second line belongs to the comment as well. -/
theorem Source.process_comment_indented :
    let source : Source := { data := utf8 "  // a\r\n// b\nx", seeks := some 2 }
    let style : Style := ⟨"C", .line "//", ["C++", "Java", "Kotlin", "Go", "Rust", "Swift", "Dart"]⟩
    let outcome := source.process .builtin .comment Sink.willing.traced { state := () }
    let extracted := source.extractComment style Sink.willing.traced { state := () }
    (∀ left, source.seeks = some left → 2 ≤ left) ∧
      outcome.sink.calls.head? = some (.emit "  // a", none) ∧
      outcome.sink = extracted.sink ∧ outcome.source.position = extracted.source.position ∧
      outcome.result = extracted.result.map fun _ => some style := by
  intro source style outcome extracted
  have enough : ∀ left, source.seeks = some left → 2 ≤ left := by
    intro left same
    cases same
    exact Nat.le_refl 2
  have cut : (Line.cut source.ahead).head? = some (utf8 "  // a\r\n") := by decide
  have text : Utf8.decode? (utf8 "  // a\r\n") = some "  // a\r\n".toList := by decide
  have detected : Catalog.builtin.match? "  // a\r\n".toList = some style := by decide
  have told := process_comment .builtin source.data source.position enough (fun _ state => state) ()
  simp only at told
  rw [cut] at told
  simp only [text, detected] at told
  exact ⟨enough, told⟩

end LeadingComment
