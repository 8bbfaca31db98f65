import LeadingComment.Proofs.Parting
import Mathlib.Data.List.Infix
import Mathlib.Data.List.TakeWhile

/-! How far a comment extends. A style takes lines as long as their text has a property: that the opening
starts it, or that the closing does not occur in it. All lines that go on are handed over, and the first
that does not settles how the extraction ends; nothing behind that line is looked at. -/
namespace LeadingComment

namespace Line

/-- The line is text, and what is handed over for it has the property. -/
def shows (property : List Char → Bool) (line : Bytes) : Bool :=
  ((Utf8.decode? line).map chomp).any property

theorem shows_of_decode? {line : Bytes} {raw : List Char} (decoded : Utf8.decode? line = some raw)
    (property : List Char → Bool) : shows property line = property (chomp raw) := by
  rw [shows, decoded]
  rfl

theorem decode?_of_shows {property : List Char → Bool} {line : Bytes} (shown : shows property line = true) :
    ∃ raw, Utf8.decode? line = some raw ∧ property (chomp raw) = true := by
  cases decoded : Utf8.decode? line with
  | none => simp [shows, decoded] at shown
  | some raw => exact ⟨raw, rfl, shows_of_decode? decoded property ▸ shown⟩

theorem texts_of_shows {property : List Char → Bool} {lines : List Bytes}
    (shown : ∀ line ∈ lines, shows property line = true) :
    ∃ texts : List String, lines.map text? = texts.map some ∧ lines.length = texts.length := by
  induction lines with
  | nil => exact ⟨[], rfl, rfl⟩
  | cons line later hyp =>
    obtain ⟨here, behind⟩ := List.forall_mem_cons.mp shown
    obtain ⟨raw, decoded, _⟩ := decode?_of_shows here
    obtain ⟨texts, told, number⟩ := hyp behind
    refine ⟨String.ofList (chomp raw) :: texts, ?_, ?_⟩
    · rw [List.map_cons, List.map_cons, told, text?, decoded]
      rfl
    · rw [List.length_cons, List.length_cons, number]

theorem split_of_dropWhile_cons {property : List Char → Bool} {lines later : List Bytes} {line : Bytes}
    (behind : lines.dropWhile (shows property) = line :: later) :
    lines = lines.takeWhile (shows property) ++ line :: later ∧ shows property line = false := by
  have head := List.head?_dropWhile_not (shows property) lines
  rw [behind] at head
  exact ⟨by rw [← behind, List.takeWhile_append_dropWhile], head⟩

end Line

namespace Choice

/-- What a choice selects of lines that are read from a position on, with no trap among them. -/
def selectFrom (choice : Choice) (count position : Nat) (lines : List Bytes) : Selection :=
  let reading := ({ position } : Place).readOn [] lines
  choice.select reading.ending count { position } reading.lines

section Unlimited

variable {choice : Choice} (unlimited : choice.most = none)
include unlimited

theorem unmet_of_unlimited (count : Nat) : choice.most ≠ some count := by
  rw [unlimited]
  simp

theorem selectFrom_nil (count position : Nat) :
    choice.selectFrom count position [] =
      { lines := [], ending := .complete { position }, notes := choice.endNotes } := by
  rw [selectFrom, Place.readOn]
  simp only [List.reverse_nil, select, if_neg (unmet_of_unlimited unlimited count)]
  rfl

theorem selectFrom_invalid {line : Bytes} (invalid : Utf8.decode? line = none) (count position : Nat)
    (later : List Bytes) :
    choice.selectFrom count position (line :: later) =
      { lines := [], ending := .failed .invalidText { position := position + line.length } } := by
  rw [selectFrom, Place.readOn_cons, Place.readLine_calm, invalid]
  simp only [select, if_neg (unmet_of_unlimited unlimited count)]

theorem selectFrom_text {line : Bytes} {raw : List Char} (decoded : Utf8.decode? line = some raw)
    (count position : Nat) (later : List Bytes) :
    let taken : Taken := { raw, after := { position := position + line.length } }
    choice.selectFrom count position (line :: later) =
      match choice.verdict taken with
      | .leave => { lines := [], ending := .complete taken.after }
      | .takeLast => { lines := [taken], ending := .complete taken.after }
      | .take =>
        let rest := choice.selectFrom (count + 1) (position + line.length) later
        { rest with lines := taken :: rest.lines } := by
  rw [selectFrom, Place.readOn_cons, Place.readLine_calm, decoded]
  simp only [select, if_neg (unmet_of_unlimited unlimited count)]
  rfl

end Unlimited

/-- A choice that takes lines as long as their text has a property and stops at the first whose text
has it not. That one is taken as well or left. -/
structure TakesWhile (choice : Choice) (property : List Char → Bool) (withLast : Bool) : Prop where
  unlimited : choice.most = none
  verdict : ∀ taken, choice.verdict taken =
    if property taken.chars then .take else if withLast then .takeLast else .leave

theorem whileContinued_takesWhile (opening : String) :
    (whileContinued opening).TakesWhile (fun text => opening.toList <+: trimStart text) false := by
  refine ⟨rfl, fun taken => ?_⟩
  simp only [whileContinued, continues, goesOn, Token.starts_iff, decide_eq_true_eq]
  rfl

theorem untilClosed_takesWhile (style : Style) (closing : String) :
    (untilClosed style closing).TakesWhile (fun text => ¬ closing.toList <:+: text) true := by
  refine ⟨rfl, fun taken => ?_⟩
  simp only [untilClosed, closes, Token.occursIn_iff, decide_eq_true_eq, ite_not]
  rfl

namespace TakesWhile

variable {choice : Choice} {property : List Char → Bool} {withLast : Bool}

theorem selectFrom_goes (rule : choice.TakesWhile property withLast) {line : Bytes}
    (goes : Line.shows property line = true) (count position : Nat) (later : List Bytes) :
    let rest := choice.selectFrom (count + 1) (position + line.length) later
    ∃ taken : Taken, Line.text? line = some taken.text ∧
      choice.selectFrom count position (line :: later) = { rest with lines := taken :: rest.lines } := by
  obtain ⟨raw, decoded, holds⟩ := Line.decode?_of_shows goes
  refine ⟨{ raw, after := { position := position + line.length } }, ?_, ?_⟩
  · rw [Line.text?, decoded]
    rfl
  · rw [selectFrom_text rule.unlimited decoded, rule.verdict, Taken.chars, holds]
    rfl

theorem selectFrom_stops (rule : choice.TakesWhile property withLast) {line : Bytes} {raw : List Char}
    (decoded : Utf8.decode? line = some raw) (stops : property (Line.chomp raw) = false)
    (count position : Nat) (later : List Bytes) :
    let after : Place := { position := position + line.length }
    choice.selectFrom count position (line :: later) =
      { lines := if withLast then [{ raw, after }] else [], ending := .complete after } := by
  intro after
  rw [selectFrom_text rule.unlimited decoded, rule.verdict, Taken.chars, stops]
  cases withLast <;> rfl

theorem selectFrom_append (rule : choice.TakesWhile property withLast) {front : List Bytes}
    (goes : ∀ line ∈ front, Line.shows property line = true) (rest : List Bytes) (count position : Nat) :
    let behind := choice.selectFrom (count + front.length) (position + front.flatten.length) rest
    ∃ taken : List Taken, front.map Line.text? = (taken.map Taken.text).map some ∧
      choice.selectFrom count position (front ++ rest) =
        { behind with lines := taken ++ behind.lines } := by
  induction front generalizing count position with
  | nil => exact ⟨[], rfl, rfl⟩
  | cons line front hyp =>
    obtain ⟨here, later⟩ := List.forall_mem_cons.mp goes
    obtain ⟨first, text, selected⟩ := rule.selectFrom_goes here count position (front ++ rest)
    obtain ⟨taken, texts, others⟩ := hyp later (count + 1) (position + line.length)
    have number : count + (line :: front).length = count + 1 + front.length := by
      rw [List.length_cons]
      omega
    have stands : position + (line :: front).flatten.length =
        position + line.length + front.flatten.length := by
      rw [List.flatten_cons, List.length_append, Nat.add_assoc]
    refine ⟨first :: taken, ?_, ?_⟩
    · rw [List.map_cons, text, texts]
      rfl
    · rw [number, stands, List.cons_append, selected, others]
      rfl

end TakesWhile
end Choice

namespace Source

variable {State : Type} (respond : Call → State → State) (state : State)

theorem deliver_granting_notes (source : Source) (selection : Selection) :
    (source.deliver (Sink.granting respond) state selection).notes =
      match selection.ending with
      | .complete _ => selection.notes
      | .failed _ _ => [] := by
  obtain ⟨⟨lines, ending⟩, notes⟩ := selection
  simp only [deliver]
  generalize 0 = count
  induction lines generalizing count state with
  | nil => cases ending <;> rfl
  | cons taken lines hyp => exact hyp (respond taken.call state) (count + 1)

theorem handOver_granting (data : Bytes) (position : Nat) (choice : Choice) :
    let source : Source := { data, position }
    let selection := choice.selectFrom 0 position (Line.cut source.ahead)
    source.handOver choice (Sink.granting respond) state =
      { result := selection.ending.result selection.lines.length
        source := source.moveTo selection.ending.place
        sink := selection.calls.foldl (fun state call => respond call state) state
        notes := match selection.ending with
          | .complete _ => selection.notes
          | .failed _ _ => [] } := by
  intro source selection
  have delivered : source.handOver choice (Sink.granting respond) state =
      source.deliver (Sink.granting respond) state selection :=
    source.handOver_eq_deliver choice (Sink.granting respond) state
  obtain ⟨result, final, sink⟩ := source.deliver_granting respond state selection
  rw [delivered, ← result, ← final, ← sink, ← source.deliver_granting_notes respond state selection]

end Source

namespace Choice.TakesWhile

variable {choice : Choice} {property : List Char → Bool} {withLast : Bool}
variable {data : Bytes} {position : Nat} {front : List Bytes} {texts : List String}
variable {State : Type} (respond : Call → State → State) (state : State)

/-- The lines that go on are handed over first, whatever becomes of those behind them. -/
theorem handOver_front (rule : choice.TakesWhile property withLast) {rest : List Bytes}
    (parts : Line.cut (data.drop position) = front ++ rest)
    (goes : ∀ line ∈ front, Line.shows property line = true)
    (told : front.map Line.text? = texts.map some) :
    let behind := choice.selectFrom front.length (position + front.flatten.length) rest
    let handed := texts ++ behind.lines.map Taken.text
    ({ data, position } : Source).handOver choice (Sink.granting respond) state =
      { result := behind.ending.result handed.length
        source := ({ data, position } : Source).moveTo behind.ending.place
        sink := (handed.map Call.emit ++ behind.ending.calls).foldl
          (fun state call => respond call state) state
        notes := match behind.ending with
          | .complete _ => behind.notes
          | .failed _ _ => [] } := by
  intro behind handed
  obtain ⟨taken, same, selected⟩ := rule.selectFrom_append goes rest 0 position
  rw [Nat.zero_add] at selected
  have first : taken.map Taken.text = texts := by
    rw [told] at same
    exact ((List.map_inj_right fun _ _ => Option.some.inj).mp same).symm
  have lines : (taken ++ behind.lines).map Taken.text = handed := by rw [List.map_append, first]
  rw [Source.handOver_granting, Source.ahead, parts, selected, ← lines]
  simp only [Selection.calls, Taken.map_call, List.length_map]
  rfl

theorem handOver_all (rule : choice.TakesWhile property withLast)
    (goes : ∀ line ∈ Line.cut (data.drop position), Line.shows property line = true)
    (told : (Line.cut (data.drop position)).map Line.text? = texts.map some) :
    ({ data, position } : Source).handOver choice (Sink.granting respond) state =
      { result := .ok texts.length
        source := { data, position := max position data.length }
        sink := (texts.map Call.emit ++ [Call.separator]).foldl
          (fun state call => respond call state) state
        notes := choice.endNotes } := by
  have behind : position + (data.length - position) = max position data.length := by omega
  rw [rule.handOver_front respond state (List.append_nil _).symm goes told,
    selectFrom_nil rule.unlimited, Line.flatten_cut, List.length_drop, behind, List.map_nil,
    List.append_nil]
  rfl

theorem handOver_stopped (rule : choice.TakesWhile property withLast) {line : Bytes} {later : List Bytes}
    (parts : Line.cut (data.drop position) = front ++ line :: later)
    (goes : ∀ line ∈ front, Line.shows property line = true)
    (stops : Line.shows property line = false) (told : front.map Line.text? = texts.map some) :
    let stop := position + (front ++ [line]).flatten.length
    ({ data, position } : Source).handOver choice (Sink.granting respond) state =
      match Utf8.decode? line with
      | none =>
        { result := .error (.read .invalidText)
          source := { data, position := stop }
          sink := (texts.map Call.emit).foldl (fun state call => respond call state) state }
      | some raw =>
        let handed := if withLast then texts ++ [String.ofList (Line.chomp raw)] else texts
        { result := .ok handed.length
          source := { data, position := stop }
          sink := (handed.map Call.emit ++ [Call.separator]).foldl
            (fun state call => respond call state) state } := by
  intro stop
  have stands : position + front.flatten.length + line.length = stop := by
    simp only [stop, List.flatten_append, List.flatten_singleton, List.length_append, Nat.add_assoc]
  rw [rule.handOver_front respond state parts goes told]
  cases decoded : Utf8.decode? line with
  | none =>
    rw [selectFrom_invalid rule.unlimited decoded, stands, List.map_nil, List.append_nil]
    simp only [Ending.calls, List.append_nil]
    rfl
  | some raw =>
    rw [Line.shows_of_decode? decoded] at stops
    rw [rule.selectFrom_stops decoded stops, stands]
    cases withLast with
    | true => rfl
    | false =>
      simp only [Bool.false_eq_true, ↓reduceIte, List.map_nil, List.append_nil]
      rfl

/-- If that line ends with a newline, other bytes behind it change nothing but themselves. -/
theorem handOver_replaced (rule : choice.TakesWhile property withLast) {line : Bytes} {later : List Bytes}
    (parts : Line.cut (data.drop position) = front ++ line :: later)
    (goes : ∀ line ∈ front, Line.shows property line = true)
    (stops : Line.shows property line = false) (ended : Line.isEnded line = true) (other : Bytes) :
    let stop := position + (front ++ [line]).flatten.length
    let changed : Source := { data := data.take stop ++ other, position }
    changed.handOver choice (Sink.granting respond) state =
      { ({ data, position } : Source).handOver choice (Sink.granting respond) state with
        source := { changed with position := stop } } := by
  intro stop changed
  -- What is done is told by the lines up to this one, and they are the same in both sources.
  obtain ⟨texts, told, _⟩ := Line.texts_of_shows goes
  have replaced := Line.cut_drop_replaced parts ended other
  rw [rule.handOver_stopped respond state parts goes stops told,
    rule.handOver_stopped respond state replaced goes stops told]
  cases Utf8.decode? line <;> rfl

end Choice.TakesWhile

namespace Source

variable {State : Type}

/-- A line comment is the longest run of lines that are text and, with the blanks at their start left
aside, begin with the opening. The line behind the run is read as well, and if it is no text, the
extraction fails. Where there is none, the source comes to the end of its data, or stays behind it. -/
theorem extractComment_line (data : Bytes) (position : Nat) (name opening : String)
    (languages : List String) (respond : Call → State → State) (state : State) :
    let source : Source := { data, position }
    let style : Style := { name, delimiters := .line opening, languages }
    let extract (source : Source) := source.extractComment style (Sink.granting respond) state
    let after (calls : List Call) := calls.foldl (fun state call => respond call state) state
    let goesOn := Line.shows fun text => opening.toList <+: trimStart text
    let comment := (Line.cut source.ahead).takeWhile goesOn
    ∃ texts : List String, comment.map Line.text? = texts.map some ∧
      match (Line.cut source.ahead).dropWhile goesOn with
      | [] =>
        extract source =
          { result := .ok comment.length
            source := { data, position := max position data.length }
            sink := after (texts.map Call.emit ++ [.separator]) }
      | line :: _ =>
        let stop := position + (comment ++ [line]).flatten.length
        (extract source =
          match Utf8.decode? line with
          | some _ =>
            { result := .ok comment.length
              source := { data, position := stop }
              sink := after (texts.map Call.emit ++ [.separator]) }
          | none =>
            { result := .error (.read .invalidText)
              source := { data, position := stop }
              sink := after (texts.map Call.emit) }) ∧
        (Line.isEnded line = true → ∀ other,
          let changed : Source := { data := data.take stop ++ other, position }
          extract changed = { extract source with source := { changed with position := stop } }) := by
  intro source style extract after goesOn comment
  have rule := Choice.whileContinued_takesWhile opening
  have goes : ∀ line ∈ comment, goesOn line = true := fun line => List.mem_takeWhile_imp
  obtain ⟨texts, told, number⟩ := Line.texts_of_shows goes
  refine ⟨texts, told, ?_⟩
  rw [number]
  cases behind : (Line.cut source.ahead).dropWhile goesOn with
  | nil =>
    have whole : comment = Line.cut source.ahead :=
      List.takeWhile_eq_self_iff.mpr (List.dropWhile_eq_nil_iff.mp behind)
    rw [whole] at goes told
    exact rule.handOver_all respond state goes told
  | cons line later =>
    obtain ⟨parts, stops⟩ := Line.split_of_dropWhile_cons behind
    refine ⟨?_, rule.handOver_replaced respond state parts goes stops⟩
    refine (rule.handOver_stopped respond state parts goes stops told).trans ?_
    cases Utf8.decode? line <;> rfl

/-- The line behind the run ends with a newline, and bytes that are no text change nothing there. -/
theorem extractComment_line_replaced :
    let source : Source := { data := utf8 "  // a\r\nx\n// c" }
    let changed : Source := { data := utf8 "  // a\r\nx\n" ++ [0xFF] }
    let keep : Sink (List Call) := Sink.granting fun call calls => calls ++ [call]
    let extract (source : Source) := source.extractComment ⟨"C", .line "//", []⟩ keep []
    Line.isEnded (utf8 "x\n") = true ∧
      extract changed = { extract source with source := { changed with position := 10 } } := by
  intro source changed keep extract
  have ended : Line.isEnded (utf8 "x\n") = true := by decide
  have behind : (Line.cut source.ahead).dropWhile
      (Line.shows fun text => "//".toList <+: trimStart text) = [utf8 "x\n", utf8 "// c"] := by decide
  obtain ⟨texts, _, told⟩ :=
    extractComment_line source.data 0 "C" "//" [] (fun call calls => calls ++ [call]) []
  rw [behind] at told
  exact ⟨ended, told.2 ended [0xFF]⟩

/-- A block comment ends with the first line that contains the closing, provided that all lines up to it
are text. Where no line does, it goes on to the end of input, and that is noted. -/
theorem extractComment_block (data : Bytes) (position : Nat) (name opening closing : String)
    (languages : List String) (respond : Call → State → State) (state : State) :
    let source : Source := { data, position }
    let style : Style := { name, delimiters := .block opening closing, languages }
    let extract (source : Source) := source.extractComment style (Sink.granting respond) state
    let after (calls : List Call) := calls.foldl (fun state call => respond call state) state
    let staysOpen := Line.shows fun text => ¬ closing.toList <:+: text
    let inner := (Line.cut source.ahead).takeWhile staysOpen
    ∃ texts : List String, inner.map Line.text? = texts.map some ∧
      match (Line.cut source.ahead).dropWhile staysOpen with
      | [] =>
        inner = Line.cut source.ahead ∧
        extract source =
          { result := .ok inner.length
            source := { data, position := max position data.length }
            sink := after (texts.map Call.emit ++ [.separator])
            notes := [.unclosed style] }
      | line :: _ =>
        let stop := position + (inner ++ [line]).flatten.length
        (match Utf8.decode? line with
          | some raw => closing.toList <:+: Line.chomp raw ∧
            extract source =
              { result := .ok (inner.length + 1)
                source := { data, position := stop }
                sink := after (texts.map Call.emit ++
                  [.emit (String.ofList (Line.chomp raw)), .separator]) }
          | none =>
            extract source =
              { result := .error (.read .invalidText)
                source := { data, position := stop }
                sink := after (texts.map Call.emit) }) ∧
        (Line.isEnded line = true → ∀ other,
          let changed : Source := { data := data.take stop ++ other, position }
          extract changed = { extract source with source := { changed with position := stop } }) := by
  intro source style extract after staysOpen inner
  have rule := Choice.untilClosed_takesWhile style closing
  have goes : ∀ line ∈ inner, staysOpen line = true := fun line => List.mem_takeWhile_imp
  obtain ⟨texts, told, number⟩ := Line.texts_of_shows goes
  refine ⟨texts, told, ?_⟩
  rw [number]
  cases behind : (Line.cut source.ahead).dropWhile staysOpen with
  | nil =>
    have whole : inner = Line.cut source.ahead :=
      List.takeWhile_eq_self_iff.mpr (List.dropWhile_eq_nil_iff.mp behind)
    rw [whole] at goes told
    exact ⟨whole, rule.handOver_all respond state goes told⟩
  | cons line later =>
    obtain ⟨parts, stops⟩ := Line.split_of_dropWhile_cons behind
    have stopped := rule.handOver_stopped respond state parts goes stops told
    refine ⟨?_, rule.handOver_replaced respond state parts goes stops⟩
    cases decoded : Utf8.decode? line with
    | none =>
      rw [decoded] at stopped
      exact stopped
    | some raw =>
      have closes : closing.toList <:+: Line.chomp raw := by
        simpa [staysOpen, Line.shows_of_decode? decoded] using stops
      rw [decoded] at stopped
      refine ⟨closes, stopped.trans ?_⟩
      simp only [↓reduceIte, List.length_append, List.map_append, List.append_assoc]
      rfl

/-- The closing is a carriage return here. The one that belongs to the terminator of the first line does
not count, and the second line has another. -/
theorem extractComment_block_replaced :
    let source : Source := { data := utf8 "/*\r\n*\r\r\nx" }
    let changed : Source := { data := utf8 "/*\r\n*\r\r\n" ++ [0xFF] }
    let keep : Sink (List Call) := Sink.granting fun call calls => calls ++ [call]
    let extract (source : Source) := source.extractComment ⟨"C", .block "/*" "\r", []⟩ keep []
    Line.isEnded (utf8 "*\r\r\n") = true ∧
      extract changed = { extract source with source := { changed with position := 8 } } := by
  intro source changed keep extract
  have ended : Line.isEnded (utf8 "*\r\r\n") = true := by decide
  have behind : (Line.cut source.ahead).dropWhile
      (Line.shows fun text => ¬ "\r".toList <:+: text) = [utf8 "*\r\r\n", utf8 "x"] := by decide
  obtain ⟨texts, _, told⟩ :=
    extractComment_block source.data 0 "C" "/*" "\r" [] (fun call calls => calls ++ [call]) []
  rw [behind] at told
  exact ⟨ended, told.2 ended [0xFF]⟩

end Source
end LeadingComment
