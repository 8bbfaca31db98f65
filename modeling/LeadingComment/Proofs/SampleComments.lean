import LeadingComment.Proofs.CommentExtent
import LeadingComment.Proofs.CommentMode
import LeadingComment.Proofs.LosslessLines
import LeadingComment.Sample

namespace LeadingComment
namespace Line

def written (texts : List String) : String := String.join (texts.map fun text => text ++ "\n")

theorem written_append (front later : List String) :
    written (front ++ later) = written front ++ written later := by
  rw [written, List.map_append, String.join_append]
  rfl

theorem written_cons (text : String) (later : List String) :
    written (text :: later) = text ++ "\n" ++ written later := by
  rw [written, List.map_cons, String.join_cons]
  rfl

theorem utf8_written (texts : List String) :
    utf8 (written texts) = (texts.map fun text => utf8 (text ++ "\n")).flatten := by
  rw [written, utf8_join, List.flatMap_map]
  rfl

structure IsPlain (text : String) : Prop where
  unbroken : '\n' ∉ text.toList
  unreturned : '\r' ∉ text.toList

instance (text : String) : Decidable (IsPlain text) :=
  decidable_of_iff ('\n' ∉ text.toList ∧ '\r' ∉ text.toList)
    ⟨fun plain => ⟨plain.1, plain.2⟩, fun plain => ⟨plain.unbroken, plain.unreturned⟩⟩

def ended (text : String) : EndedLine := { body := text.toList, terminator := ['\n'] }

theorem encode_raw_ended (text : String) : Utf8.encode (ended text).raw = utf8 (text ++ "\n") := by
  rw [utf8, String.toList_append]
  rfl

theorem IsPlain.wellFormed {text : String} (plain : IsPlain text) : (ended text).WellFormed where
  nonempty := by simp [ended, EndedLine.raw]
  unbroken := plain.unbroken
  terminator := .inl (.inl rfl)
  stripped _ := EndedLine.getLast?_ne_of_not_mem plain.unreturned

theorem splits_written {texts : List String} (plain : ∀ text ∈ texts, IsPlain text) :
    EndedLine.Splits (written texts).toList (texts.map ended) := by
  induction texts with
  | nil => exact .none
  | cons text later hyp =>
    obtain ⟨here, behind⟩ := List.forall_mem_cons.mp plain
    have line : (ended text).IsEnded := .inl rfl
    have whole := EndedLine.Splits.cons here.wellFormed line (hyp behind)
    rw [written_cons, String.toList_append, String.toList_append]
    exact whole

/-- What has been written line by line is cut into these lines again. -/
theorem cut_written {texts : List String} (plain : ∀ text ∈ texts, IsPlain text) :
    cut (utf8 (written texts)) = texts.map fun text => utf8 (text ++ "\n") := by
  rw [utf8, (splits_written plain).cut, List.map_map]
  exact List.map_congr_left fun text _ => encode_raw_ended text

theorem IsPlain.chomp_line {text : String} (plain : IsPlain text) :
    chomp (text ++ "\n").toList = text.toList := by
  have chomped := plain.wellFormed.chomp_raw
  rw [String.toList_append]
  exact chomped

theorem IsPlain.shows_line {text : String} (plain : IsPlain text) (property : List Char → Bool) :
    shows property (utf8 (text ++ "\n")) = property text.toList := by
  rw [shows_of_decode? (Utf8.decode?_utf8 _), plain.chomp_line]

theorem IsPlain.text?_line {text : String} (plain : IsPlain text) :
    text? (utf8 (text ++ "\n")) = some text := by
  rw [← encode_raw_ended, plain.wellFormed.text?_raw, ended, String.ofList_toList]

end Line

/-- Texts that go on are handed over as they were written, and the first that does not ends this. -/
theorem Choice.TakesWhile.handOver_written {choice : Choice} {property : List Char → Bool} {withLast : Bool}
    (rule : choice.TakesWhile property withLast) {front later : List String} {line : String}
    (plain : ∀ text ∈ front ++ line :: later, Line.IsPlain text)
    (goes : ∀ text ∈ front, property text.toList = true) (stops : property line.toList = false)
    {State : Type} (respond : Call → State → State) (state : State) :
    let source : Source := { data := utf8 (Line.written (front ++ line :: later)) }
    let handed := if withLast then front ++ [line] else front
    source.handOver choice (Sink.granting respond) state =
      { result := .ok handed.length
        source := { source with position := (utf8 (Line.written (front ++ [line]))).length }
        sink := (handed.map Call.emit ++ [Call.separator]).foldl
          (fun state call => respond call state) state } := by
  intro source handed
  let encoded (text : String) : Bytes := utf8 (text ++ "\n")
  obtain ⟨plainFront, plainRest⟩ := List.forall_mem_append.mp plain
  have plainLine : Line.IsPlain line := plainRest line List.mem_cons_self
  have parts : Line.cut (source.data.drop 0) = front.map encoded ++ encoded line :: later.map encoded := by
    rw [List.drop_zero, Line.cut_written plain, List.map_append, List.map_cons]
  have shown : ∀ bytes ∈ front.map encoded, Line.shows property bytes = true := by
    intro bytes member
    obtain ⟨text, listed, rfl⟩ := List.mem_map.mp member
    rw [(plainFront text listed).shows_line]
    exact goes text listed
  have last : Line.shows property (encoded line) = false := by
    rw [plainLine.shows_line]
    exact stops
  have told : (front.map encoded).map Line.text? = front.map some := by
    rw [List.map_map]
    exact List.map_congr_left fun text listed => (plainFront text listed).text?_line
  have stand : (front.map encoded ++ [encoded line]).flatten = utf8 (Line.written (front ++ [line])) := by
    rw [Line.utf8_written, List.map_append, List.map_singleton]
  refine (rule.handOver_stopped respond state parts shown last told).trans ?_
  rw [Utf8.decode?_utf8, stand, Nat.zero_add]
  simp only [plainLine.chomp_line, String.ofList_toList]
  rfl

theorem Source.detect_written (catalog : Catalog) {first : String} {later : List String}
    (plain : ∀ text ∈ first :: later, Line.IsPlain text) :
    let source : Source := { data := utf8 (Line.written (first :: later)) }
    source.detect catalog =
      let (style, note) := Detection.judge catalog (some (first ++ "\n").toList)
      { result := .ok style, source, notes := [note] } := by
  intro source
  have head : (Line.cut source.ahead).head? = some (utf8 (first ++ "\n")) := by
    rw [ahead, List.drop_zero, Line.cut_written plain]
    rfl
  have enough : ∀ left, source.seeks = some left → 2 ≤ left := by
    intro left counted
    cases counted
  have detected := detect_calm catalog source.data source.position enough
  simp only at detected
  rw [head] at detected
  simp only [Utf8.decode?_utf8] at detected
  exact detected

section

variable {catalog : Catalog} {first : String} {later : List String}
variable (plain : ∀ text ∈ first :: later, Line.IsPlain text)
variable {State : Type} (sink : Sink State) (state : State)
include plain

theorem Source.process_written_detected {style : Style}
    (found : catalog.match? (first ++ "\n").toList = some style) :
    let source : Source := { data := utf8 (Line.written (first :: later)) }
    source.process catalog .comment sink state =
      ((source.extractComment style sink state).map fun _ => some style).noteFirst [.detected style] := by
  intro source
  have detected := detect_written catalog plain
  simp only [Detection.judge, found] at detected
  simp only [process]
  rw [detected]

theorem Source.process_written_unmatched (unmatched : catalog.match? (first ++ "\n").toList = none) :
    let source : Source := { data := utf8 (Line.written (first :: later)) }
    source.process catalog .comment sink state =
      { result := .ok none, source, sink := state, notes := [.unmatched] } := by
  intro source
  have detected := detect_written catalog plain
  simp only [Detection.judge, unmatched] at detected
  simp only [process]
  rw [detected]

end

namespace Sample

def comments (start : String) (count : Nat) : List String :=
  (List.range count).map fun index => start ++ "comment line " ++ toString index

theorem comments_succ (start : String) (count : Nat) :
    comments start (count + 1) = (start ++ "comment line " ++ "0") ::
      (List.range count).map fun index => start ++ "comment line " ++ toString (index + 1) := by
  rw [comments, List.range_succ_eq_map, List.map_cons, List.map_map]
  rfl

theorem numbered_eq (start : String) (count : Nat) :
    numbered start count = Line.written (comments start count) := by
  rw [numbered, Line.written, comments, List.map_map]
  rfl

theorem not_mem_comments {mark : Char} (other : mark.isDigit = false) {start : String}
    (absent : mark ∉ (start ++ "comment line ").toList) (count : Nat) :
    ∀ text ∈ comments start count, mark ∉ text.toList := by
  intro text member
  obtain ⟨index, _, rfl⟩ := List.mem_map.mp member
  rw [String.toList_append, List.mem_append, not_or]
  refine ⟨absent, ?_⟩
  rw [Nat.toString_eq_ofList_toDigits, String.toList_ofList]
  intro digit
  have decimal := Nat.isDigit_of_mem_toDigits (by decide) (by decide) digit
  rw [other] at decimal
  cases decimal

theorem comments_plain {start : String} (plain : Line.IsPlain (start ++ "comment line ")) (count : Nat) :
    ∀ text ∈ comments start count, Line.IsPlain text := by
  intro text member
  constructor
  case unbroken => exact not_mem_comments rfl plain.unbroken count text member
  case unreturned => exact not_mem_comments rfl plain.unreturned count text member

theorem lineCommented_eq (count : Nat) :
    lineCommented count = Line.written (comments "// " count ++ ["fn main() \x7b\x7d"]) := by
  rw [lineCommented, numbered_eq, Line.written_append]
  rfl

/-- The lines of the block comment before the one that closes it. -/
def opened (count : Nat) : List String := "/*" :: comments " * " count

theorem blockCommented_eq (count : Nat) :
    blockCommented count =
      Line.written (opened count ++ [" */", "int main(void) \x7b return 0; \x7d"]) := by
  have rest : " */\nint main(void) \x7b return 0; \x7d\n" =
      Line.written [" */", "int main(void) \x7b return 0; \x7d"] := rfl
  rw [blockCommented, numbered_eq, opened, Line.written_append, Line.written_cons, rest]
  rfl

theorem lineCommented_plain (count : Nat) :
    ∀ text ∈ comments "// " count ++ ["fn main() \x7b\x7d"], Line.IsPlain text := by
  have code : Line.IsPlain "fn main() \x7b\x7d" := by decide
  exact List.forall_mem_append.mpr ⟨comments_plain (by decide) count, by simpa using code⟩

theorem blockCommented_plain (count : Nat) :
    ∀ text ∈ opened count ++ [" */", "int main(void) \x7b return 0; \x7d"], Line.IsPlain text := by
  have opens : Line.IsPlain "/*" := by decide
  have closes : Line.IsPlain " */" := by decide
  have code : Line.IsPlain "int main(void) \x7b return 0; \x7d" := by decide
  refine List.forall_mem_append.mpr ⟨List.forall_mem_cons.mpr ⟨opens, ?_⟩, by simp [closes, code]⟩
  exact comments_plain (by decide) count

variable {State : Type} (respond : Call → State → State) (state : State)

/-- The code behind the comment is read to find out that it does not go on. -/
theorem extractComment_lineCommented (count : Nat) {style : Style} (slashes : style.delimiters = .line "//") :
    let source : Source := { data := utf8 (lineCommented count) }
    source.extractComment style (Sink.granting respond) state =
      { result := .ok count
        source := { source with position := source.data.length }
        sink := ((comments "// " count).map Call.emit ++ [Call.separator]).foldl
          (fun state call => respond call state) state } := by
  intro source
  have goes : ∀ text ∈ comments "// " count, decide ("//".toList <+: trimStart text.toList) = true := by
    intro text member
    obtain ⟨index, _, rfl⟩ := List.mem_map.mp member
    have starts : "//".toList <+: trimStart ("// comment line ".toList ++ (toString index).toList) :=
      ⟨" comment line ".toList ++ (toString index).toList, rfl⟩
    rw [String.toList_append]
    exact decide_eq_true starts
  have stops : decide ("//".toList <+: trimStart "fn main() \x7b\x7d".toList) = false := by decide
  have handed := (Choice.whileContinued_takesWhile "//").handOver_written
    (lineCommented_plain count) goes stops respond state
  rw [← lineCommented_eq] at handed
  have number : (comments "// " count).length = count := by simp [comments]
  have chosen : Choice.comment style = .whileContinued "//" := by rw [Choice.comment, slashes]
  rw [Source.extractComment, chosen]
  simpa [number] using handed

/-- No number holds the slash that would close the comment. -/
theorem extractComment_blockCommented (count : Nat) {style : Style}
    (stars : style.delimiters = .block "/*" "*/") :
    let source : Source := { data := utf8 (blockCommented count) }
    let comment := opened count ++ [" */"]
    source.extractComment style (Sink.granting respond) state =
      { result := .ok comment.length
        source := { source with position := (utf8 (Line.written comment)).length }
        sink := (comment.map Call.emit ++ [Call.separator]).foldl
          (fun state call => respond call state) state } := by
  intro source comment
  have goes : ∀ text ∈ opened count, decide (¬ "*/".toList <:+: text.toList) = true := by
    intro text member
    rcases List.mem_cons.mp member with rfl | inner
    · decide
    · have absent : '/' ∉ text.toList := not_mem_comments rfl (by decide) count text inner
      apply decide_eq_true
      intro closed
      exact absent (closed.subset (by decide))
  have stops : decide (¬ "*/".toList <:+: " */".toList) = false := by decide
  have handed := (Choice.untilClosed_takesWhile style "*/").handOver_written
    (blockCommented_plain count) goes stops respond state
  rw [← blockCommented_eq] at handed
  have chosen : Choice.comment style = .untilClosed style "*/" := by rw [Choice.comment, stars]
  rw [Source.extractComment, chosen]
  exact handed

/-- Detection sees the first line of the comment, or the code where there is no comment. -/
theorem process_lineCommented (catalog : Catalog) {style : Style} (slashes : style.delimiters = .line "//")
    (found : catalog.match? "// comment line 0\n".toList = some style)
    (unmatched : catalog.match? "fn main() \x7b\x7d\n".toList = none) (count : Nat) :
    let source : Source := { data := utf8 (lineCommented count) }
    source.process catalog .comment (Sink.granting respond) state =
      if count = 0 then { result := .ok none, source, sink := state, notes := [.unmatched] }
      else
        { result := .ok (some style)
          source := { source with position := source.data.length }
          sink := ((comments "// " count).map Call.emit ++ [Call.separator]).foldl
            (fun state call => respond call state) state
          notes := [.detected style] } := by
  intro source
  have plain := lineCommented_plain count
  cases count with
  | zero => exact Source.process_written_unmatched plain (Sink.granting respond) state unmatched
  | succ more =>
    have extracted := extractComment_lineCommented respond state (more + 1) slashes
    simp only [source] at extracted ⊢
    rw [if_neg (Nat.succ_ne_zero more)]
    rw [lineCommented_eq, comments_succ, List.cons_append] at extracted ⊢
    rw [comments_succ, List.cons_append] at plain
    rw [Source.process_written_detected plain (Sink.granting respond) state found, extracted]
    rfl

theorem process_blockCommented (catalog : Catalog) {style : Style}
    (stars : style.delimiters = .block "/*" "*/") (found : catalog.match? "/*\n".toList = some style)
    (count : Nat) :
    let source : Source := { data := utf8 (blockCommented count) }
    let comment := opened count ++ [" */"]
    source.process catalog .comment (Sink.granting respond) state =
      { result := .ok (some style)
        source := { source with position := (utf8 (Line.written comment)).length }
        sink := (comment.map Call.emit ++ [Call.separator]).foldl
          (fun state call => respond call state) state
        notes := [.detected style] } := by
  intro source comment
  have plain := blockCommented_plain count
  have extracted := extractComment_blockCommented respond state count stars
  simp only [source] at extracted ⊢
  rw [blockCommented_eq, opened, List.cons_append] at extracted ⊢
  rw [opened, List.cons_append] at plain
  rw [Source.process_written_detected plain (Sink.granting respond) state found, extracted]
  rfl

/-- Comment mode on the samples, for any number of lines. In line style it hands over exactly these lines and
reads the code behind them to find the end; where there are none it finds nothing. In block style the lines
that open and close the comment belong to it, and the code is still ahead. -/
theorem process_commented (count : Nat) {State : Type} (respond : Call → State → State) (state : State) :
    let process (text : String) :=
      ({ data := utf8 text } : Source).process .builtin .comment (Sink.granting respond) state
    let after (calls : List Call) := calls.foldl (fun state call => respond call state) state
    let emitted (start : String) : List Call :=
      (List.range count).map fun index => .emit (start ++ "comment line " ++ toString index)
    let line : Style := ⟨"C", .line "//", ["C++", "Java", "Kotlin", "Go", "Rust", "Swift", "Dart"]⟩
    let block : Style := ⟨"C", .block "/*" "*/", ["C++", "Java", "Kotlin", "Go", "Rust"]⟩
    (process (lineCommented count) =
      if count = 0 then
        { result := .ok none, source := { data := utf8 (lineCommented count) }, sink := state
          notes := [.unmatched] }
      else
        { result := .ok (some line)
          source := { data := utf8 (lineCommented count), position := (utf8 (lineCommented count)).length }
          sink := after (emitted "// " ++ [.separator])
          notes := [.detected line] }) ∧
    ∃ comment, blockCommented count = comment ++ "int main(void) \x7b return 0; \x7d\n" ∧
      process (blockCommented count) =
        { result := .ok (some block)
          source := { data := utf8 (blockCommented count), position := (utf8 comment).length }
          sink := after (.emit "/*" :: emitted " * " ++ [.emit " */", .separator])
          notes := [.detected block] } := by
  intro process after emitted line block
  have calls (start : String) : (comments start count).map Call.emit = emitted start := by
    rw [comments, List.map_map]
    rfl
  refine ⟨?_, Line.written (opened count ++ [" */"]), ?_, ?_⟩
  · rw [← calls "// "]
    exact process_lineCommented respond state .builtin rfl (by decide) (by decide) count
  · rw [blockCommented_eq, List.append_cons, Line.written_append]
    rfl
  · have handed : .emit "/*" :: emitted " * " ++ [Call.emit " */", Call.separator] =
        (opened count ++ [" */"]).map Call.emit ++ [Call.separator] := by
      rw [← calls " * ", opened]
      simp
    rw [handed]
    exact process_blockCommented respond state .builtin rfl (by decide) count

end Sample
end LeadingComment
