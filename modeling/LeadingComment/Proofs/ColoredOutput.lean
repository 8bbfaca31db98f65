import LeadingComment.Proofs.EscapeSequences
import LeadingComment.Proofs.FileSequence
import LeadingComment.Proofs.LosslessLines
import LeadingComment.Proofs.SinkProtocol

/-! Colors add escape sequences to what a run prints and nothing else. A run is told as spans: banners,
numbers, lines and separators; colors are set within a banner or a number and reset before it ends, so
that no line and no separator is written in a color. -/
namespace LeadingComment

namespace Ansi

theorem mark_not_mem_utf8 {text : String} (unmarked : escape ∉ text.toList) : mark ∉ utf8 text :=
  Utf8.not_mem_encode_of_ascii (by decide) unmarked

/-- A code is a number in decimal. -/
def IsDecimal (code : String) : Bool := !(utf8 code).isEmpty && (utf8 code).all isDigit

theorem Reads.sequences (set : List String) (decimal : ∀ code ∈ set, IsDecimal code = true) :
    Reads (utf8 (String.join (set.map Ansi.sequence))) [] (set.map utf8) := by
  induction set with
  | nil => exact .nothing
  | cons code set hyp =>
    obtain ⟨first, later⟩ := List.forall_mem_cons.mp decimal
    simp only [IsDecimal, Bool.and_eq_true, Bool.not_eq_true', List.isEmpty_eq_false_iff,
      List.all_eq_true] at first
    rw [List.map_cons, String.join_cons, utf8_append]
    exact (Reads.sequence first.1 first.2).append (hyp later)

theorem Reads.texts {pieces : List String} (unmarked : ∀ piece ∈ pieces, mark ∉ utf8 piece) :
    Reads (utf8 (String.join pieces)) (utf8 (String.join pieces)) [] := by
  induction pieces with
  | nil => exact .nothing
  | cons piece pieces hyp =>
    obtain ⟨first, later⟩ := List.forall_mem_cons.mp unmarked
    rw [String.join_cons, utf8_append]
    exact (Reads.clear first).append (hyp later)

theorem Reads.painted (set : List String) {body rest : List String}
    (decimal : ∀ code ∈ set, IsDecimal code = true) (inside : ∀ piece ∈ body, mark ∉ utf8 piece)
    (behind : ∀ piece ∈ rest, mark ∉ utf8 piece) :
    Reads (utf8 (String.join (set.map Ansi.sequence ++ body ++ [reset] ++ rest)))
      (utf8 (String.join (body ++ rest))) (set.map utf8 ++ [utf8 "0"]) := by
  have resets : Reads (utf8 (String.join [reset])) [] [utf8 "0"] :=
    Reads.sequences ["0"] (by decide)
  have painted := (Reads.sequences set decimal).append (.texts inside)
  have whole := (painted.append resets).append (.texts behind)
  simpa only [utf8_join, List.flatMap_append, List.nil_append, List.append_nil] using whole

end Ansi

theorem Console.mark_not_mem_numberText (number : Nat) : Ansi.mark ∉ utf8 (numberText number) := by
  apply Ansi.mark_not_mem_utf8
  have decimal : Ansi.escape ∉ Nat.toDigits 10 number := by
    intro member
    have digit := Nat.isDigit_of_mem_toDigits (by decide) (by decide) member
    exact absurd digit (by decide)
  have others : Ansi.escape ≠ '[' ∧ Ansi.escape ≠ ' ' ∧ Ansi.escape ≠ ']' := by decide
  rw [numberText, String.toList_append, String.toList_append, String.toList_ofList, List.leftpad]
  simp [decimal, others]

inductive Span where
  | banner (path : Path)
  | number (number : Nat)
  | line (text : String)
  | separator

namespace Span

def pieces (colored : Bool) : Span → List String
  | banner path => Console.bannerPieces colored path
  | number value => Console.label colored value
  | line text => [text, "\n"]
  | separator => ["\n"]

def bytes (colored : Bool) (span : Span) : Bytes := utf8 (String.join (span.pieces colored))

/-- What is shown without color in any case. -/
def IsPlain : Span → Prop
  | banner _ => False
  | number _ => False
  | line _ => True
  | separator => True

/-- No escape sequence is begun in the texts that come from outside. -/
def IsClear : Span → Prop
  | banner path => Ansi.mark ∉ utf8 path.display
  | number _ => True
  | line text => Ansi.mark ∉ utf8 text
  | separator => True

def codes : Span → List Bytes
  | banner _ => [utf8 "0", utf8 "1", utf8 "33", utf8 "0"]
  | number _ => [utf8 "0", utf8 "36", utf8 "0"]
  | line _ => []
  | separator => []

theorem reads {span : Span} (clear : span.IsClear) :
    Ansi.Reads (span.bytes true) (span.bytes false) span.codes := by
  cases span with
  | banner path =>
    have inside : ∀ piece ∈ [String.ofList (List.replicate Console.bannerWidth '*'), "\n", "*** ",
        path.display], Ansi.mark ∉ utf8 piece := by
      have stars : Ansi.mark ∉ utf8 (String.ofList (List.replicate Console.bannerWidth '*')) := by decide
      have blank : Ansi.mark ∉ utf8 "\n" ∧ Ansi.mark ∉ utf8 "*** " := by decide
      have shown : Ansi.mark ∉ utf8 path.display := clear
      simpa [stars, blank] using shown
    exact Ansi.Reads.painted ["0", "1", "33"] (by decide) inside (by decide)
  | number value =>
    have inside : ∀ piece ∈ [Console.numberText value], Ansi.mark ∉ utf8 piece := by
      simpa using Console.mark_not_mem_numberText value
    exact Ansi.Reads.painted ["0", "36"] (by decide) inside (by decide)
  | line text =>
    have ending : Ansi.mark ∉ utf8 "\n" := by decide
    have shown : Ansi.mark ∉ utf8 text := clear
    exact Ansi.Reads.texts (by simp [pieces, ending, shown])
  | separator => exact Ansi.Reads.texts (by decide)

theorem reads_all {spans : List Span} (clear : ∀ span ∈ spans, span.IsClear) :
    Ansi.Reads (spans.flatMap (bytes true)) (spans.flatMap (bytes false)) (spans.flatMap codes) := by
  induction spans with
  | nil => exact .nothing
  | cons span spans hyp =>
    obtain ⟨first, later⟩ := List.forall_mem_cons.mp clear
    exact (reads first).append (hyp later)

/-- Behind any number of spans the last code is the reset. -/
theorem getLast?_codes (spans : List Span) {code : Bytes}
    (last : (spans.flatMap codes).getLast? = some code) : code = utf8 "0" := by
  induction spans with
  | nil => cases last
  | cons span spans hyp =>
    rw [List.flatMap_cons, List.getLast?_append] at last
    cases later : (spans.flatMap codes).getLast? with
    | some other =>
      rw [later] at last hyp
      cases last
      exact hyp rfl
    | none =>
      rw [later] at last
      cases span <;> cases last <;> rfl

theorem mark_not_mem_bytes {span : Span} (clear : span.IsClear) (plain : span.IsPlain) :
    Ansi.mark ∉ span.bytes true := by
  cases span with
  | banner path => exact plain.elim
  | number value => exact plain.elim
  | line text =>
    have shown : Ansi.mark ∉ utf8 text := clear
    have ending : Ansi.mark ∉ utf8 "\n" := by decide
    simp [bytes, pieces, utf8_append, shown, ending]
  | separator => decide

/-- Before and within a line or a separator no color is set. -/
theorem isReset_within {before after : List Span} {span : Span}
    (clear : ∀ other ∈ before ++ span :: after, other.IsClear) (plain : span.IsPlain) {part : Bytes}
    (begun : part <+: span.bytes true) : Ansi.IsReset (before.flatMap (bytes true) ++ part) := by
  obtain ⟨first, others⟩ := List.forall_mem_append.mp clear
  have unmarked : Ansi.mark ∉ part := by
    intro member
    exact mark_not_mem_bytes (others span List.mem_cons_self) plain (begun.subset member)
  intro code last
  rw [((reads_all first).append (.clear unmarked)).codes_eq, List.append_nil] at last
  exact getLast?_codes before last

end Span

def Call.spans (numbering : Bool) (emitted : Nat) : Call → List Span
  | emit line => (if numbering then [.number (emitted + 1)] else []) ++ [.line line]
  | separator => [.separator]

namespace Console

def spans (numbering : Bool) (emitted : Nat) : List Call → List Span
  | [] => []
  | call :: calls => call.spans numbering emitted ++ spans numbering (emitted + call.size) calls

theorem pieces_eq_spans (colored numbering : Bool) (emitted : Nat) (calls : List Call) :
    pieces colored numbering emitted calls =
      (spans numbering emitted calls).flatMap (Span.pieces colored) := by
  induction calls generalizing emitted with
  | nil => rfl
  | cons call calls hyp =>
    rw [pieces, spans, hyp, List.flatMap_append]
    cases call with
    | separator => rfl
    | emit line => cases numbering <;> simp [callPieces, Call.spans, Span.pieces]

theorem spans_clear {calls : List Call}
    (unmarked : ∀ line, Call.emit line ∈ calls → Ansi.mark ∉ utf8 line) (numbering : Bool)
    (emitted : Nat) : ∀ span ∈ spans numbering emitted calls, span.IsClear := by
  induction calls generalizing emitted with
  | nil => exact List.forall_mem_nil _
  | cons call calls hyp =>
    have later := hyp (fun line member => unmarked line (List.mem_cons_of_mem call member))
    rw [spans]
    refine List.forall_mem_append.mpr ⟨?_, later _⟩
    cases call with
    | separator => simp [Call.spans, Span.IsClear]
    | emit line =>
      have shown := unmarked line List.mem_cons_self
      cases numbering <;> simpa [Call.spans, Span.IsClear] using shown

end Console

theorem Line.chomp_subset (text : List Char) : chomp text ⊆ text := by
  have dropped (mark : Char) (line : List Char) : dropFinal mark line ⊆ line := by
    rw [dropFinal]
    split
    · exact List.dropLast_subset line
    · exact List.Subset.refl line
  rw [chomp]
  exact List.Subset.trans (dropped '\r' _) (dropped '\n' text)

theorem Source.mem_ahead_of_planned {source : Source} {catalog : Catalog} {mode : Mode} {line : String}
    {byte : UInt8} (planned : .emit line ∈ (source.plan catalog mode).calls) (inLine : byte ∈ utf8 line) :
    byte ∈ source.ahead := by
  rw [Plan.calls] at planned
  cases chosen : (source.plan catalog mode).selection with
  | none =>
    rw [chosen] at planned
    cases planned
  | some selection =>
    simp only [chosen, Selection.calls] at planned
    have inLines : Call.emit line ∈ selection.lines.map Taken.call := by
      rcases List.mem_append.mp planned with inside | behind
      · exact inside
      · cases ended : selection.ending <;> simp [ended, Ending.calls] at behind
    obtain ⟨taken, found, same⟩ := List.mem_map.mp inLines
    obtain rfl : taken.text = line := Call.emit.inj same
    obtain ⟨index, at_index⟩ := List.mem_iff_getElem?.mp found
    obtain ⟨raw, cutLine, decoded, _⟩ := source.plan_line chosen at_index
    have inRaw : byte ∈ raw := by
      rw [Utf8.decode?_eq_some_iff.mp decoded]
      rw [utf8, Taken.text, String.toList_ofList] at inLine
      obtain ⟨char, inText, inBytes⟩ := List.mem_flatMap.mp inLine
      exact List.mem_flatMap.mpr ⟨char, Line.chomp_subset taken.raw inText, inBytes⟩
    rw [← Line.flatten_cut source.ahead]
    exact List.mem_flatten.mpr ⟨raw, List.mem_of_getElem? cutLine, inRaw⟩

namespace Files

/-- What is printed for one file, told without the colors. -/
def spansOf (files : Files) (settings : Settings) (path : Path) : List Span :=
  (if settings.banner then [Span.banner path] else []) ++
    Console.spans settings.numbering 0 (files.handedOver settings.mode path)

/-- What a text run prints. -/
def spans (files : Files) (settings : Settings) (paths : List Path) : List Span :=
  (files.reached settings.mode paths).flatMap (files.spansOf settings)

theorem sheet_eq_spans (files : Files) (settings : Settings) (colored : Bool) (path : Path) :
    files.sheet settings colored path = (files.spansOf settings path).flatMap (Span.pieces colored) := by
  rw [sheet, spansOf, Console.pieces_eq_spans, List.flatMap_append]
  cases settings.banner <;> simp [Span.pieces]

theorem utf8_sheets (files : Files) (settings : Settings) (colored : Bool) (paths : List Path) :
    utf8 (String.join ((files.reached settings.mode paths).flatMap (files.sheet settings colored))) =
      (files.spans settings paths).flatMap (Span.bytes colored) := by
  have each (path : Path) : (files.sheet settings colored path).flatMap utf8 =
      (files.spansOf settings path).flatMap (Span.bytes colored) := by
    rw [sheet_eq_spans, List.flatMap_assoc]
    simp only [← utf8_join]
    rfl
  rw [utf8_join, spans, List.flatMap_assoc, List.flatMap_assoc]
  simp only [each]

theorem mem_of_handedOver {files : Files} {mode : Mode} {path : Path} {line : String}
    (member : .emit line ∈ files.handedOver mode path) :
    ∃ source, files.openPath path = .ok source ∧ ∀ byte ∈ utf8 line, byte ∈ source.data := by
  cases opened : files.openPath path with
  | error fault =>
    rw [handedOver, opened] at member
    cases member
  | ok source =>
    refine ⟨source, rfl, ?_⟩
    intro byte inLine
    rw [handedOver_of_opened opened] at member
    exact List.mem_of_mem_drop (Source.mem_ahead_of_planned member inLine)

theorem spans_clear {files : Files} (settings : Settings) {paths : List Path}
    (named : ∀ path ∈ paths, Ansi.mark ∉ path.bytes)
    (unmarked : ∀ path ∈ paths, ∀ source, files.openPath path = .ok source → Ansi.mark ∉ source.data) :
    ∀ span ∈ files.spans settings paths, span.IsClear := by
  intro span member
  obtain ⟨path, reached, inSpans⟩ := List.mem_flatMap.mp member
  have given : path ∈ paths := List.mem_of_mem_take reached
  rcases List.mem_append.mp inSpans with heading | inCalls
  · obtain rfl : span = .banner path := by
      cases shown : settings.banner <;> simp [shown] at heading
      exact heading
    intro inDisplay
    rcases Utf8.mem_decodeLossy inDisplay with inPath | inReplacement
    · exact named path given inPath
    · exact absurd inReplacement (by decide)
  · refine Console.spans_clear ?_ settings.numbering 0 span inCalls
    intro line handed inLine
    obtain ⟨source, opened, inData⟩ := mem_of_handedOver handed
    exact unmarked path given source opened (inData Ansi.mark inLine)

/-- With and without colors a run ends the same, and erasing the escape sequences from what it prints in
color leaves what it prints without. All that is set is reset before any line and any separator, and
behind the last of them, also if the run fails midway. -/
theorem run_colored (files : Files) (mode : Mode) (banner numbering : Bool) (paths : List Path)
    (named : ∀ path ∈ paths, Ansi.mark ∉ path.bytes)
    (unmarked : ∀ path ∈ paths, ∀ source, files.openPath path = .ok source → Ansi.mark ∉ source.data) :
    let settings : Settings := { mode, banner, numbering }
    let run (colored : Bool) := files.run settings paths ({ colored } : Output)
    let spans := files.spans settings paths
    (run true).result = (run false).result ∧
      Ansi.erase (run true).output.bytes = (run false).output.bytes ∧
      (run true).output.bytes = spans.flatMap (Span.bytes true) ∧
      (∀ before span after part, spans = before ++ span :: after → span.IsPlain →
        part <+: span.bytes true → Ansi.IsReset (before.flatMap (Span.bytes true) ++ part)) ∧
      Ansi.IsReset (run true).output.bytes := by
  intro settings run spans
  obtain ⟨plainResult, plainBytes⟩ := files.run_sheets mode banner numbering false paths
  obtain ⟨coloredResult, coloredBytes⟩ := files.run_sheets mode banner numbering true paths
  rw [files.utf8_sheets settings] at plainBytes coloredBytes
  have clear : ∀ span ∈ spans, span.IsClear := spans_clear settings named unmarked
  have reads := Span.reads_all clear
  refine ⟨coloredResult.trans plainResult.symm, ?_, coloredBytes, ?_, ?_⟩
  · exact (congrArg Ansi.erase coloredBytes).trans (reads.erase_eq.trans plainBytes.symm)
  · intro before span after part split plain begun
    exact Span.isReset_within (split ▸ clear) plain begun
  · intro code last
    rw [coloredBytes, reads.codes_eq] at last
    exact Span.getLast?_codes spans last

/-- A run in color that fails at the second line of its file. -/
theorem run_colored_invalid_line :
    let path : Path := .ofString "/b.py"
    let source : Source := { data := utf8 "# b\n" ++ [0xff, 0x0a] }
    let files : Files := { openPath _ := .ok source }
    let run (colored : Bool) :=
      files.run { mode := .comment, banner := true, numbering := true } [path] ({ colored } : Output)
    (∀ given ∈ [path], Ansi.mark ∉ given.bytes) ∧ Ansi.mark ∉ source.data ∧
      (run true).result = .error (.file path .invalidText) ∧
      (run true).result = (run false).result ∧
      Ansi.erase (run true).output.bytes = (run false).output.bytes ∧
      Ansi.IsReset (run true).output.bytes := by
  intro path source files run
  have named : ∀ given ∈ [path], Ansi.mark ∉ given.bytes := by decide
  have unmarked : Ansi.mark ∉ source.data := by decide
  have opened : ∀ given ∈ [path], ∀ other, files.openPath given = .ok other → Ansi.mark ∉ other.data := by
    intro given _ other same
    cases same
    exact unmarked
  obtain ⟨same, erased, _, _, reset⟩ := files.run_colored .comment true true [path] named opened
  have failed : files.verdict .comment [path] = .error (.file path .invalidText) := by decide
  have result := (files.run_sheets .comment true true true [path]).1.trans failed
  exact ⟨named, unmarked, result, same, erased, reset⟩

end Files
end LeadingComment
