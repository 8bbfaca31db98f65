import LeadingComment.Output
import LeadingComment.Proofs.JsonWriting
import LeadingComment.Report
import LeadingComment.Text.Utf8.RoundTrip

namespace LeadingComment

namespace Json

def text? : Json → Option String
  | .text value => some value
  | _ => none

def items? : Json → Option (List Json)
  | .list items => some items
  | _ => none

def field? (name : String) : Json → Option Json
  | .object fields => fields.lookup name
  | _ => none

def texts? (value : Json) : Option (List String) := value.items?.bind fun items => items.mapM text?

def textField? (name : String) (value : Json) : Option String := (value.field? name).bind text?

def textsField? (name : String) (value : Json) : Option (List String) :=
  (value.field? name).bind texts?

def ofBytes? (bytes : Bytes) : Option Json := (Utf8.decode? bytes).bind read?

/-- Bytes that are one list from bracket to bracket, and one newline. -/
def IsListDocument (bytes : Bytes) : Prop :=
  ∃ (items : List Json) (body : String), (∀ item ∈ items, Writable item) ∧
    Spells (list items).symbols ("[" ++ body ++ "]").toList ∧ bytes = utf8 ("[" ++ body ++ "]" ++ "\n")

end Json

/-- A line style has no closing token, and a block style has one. -/
def Delimiters.ofJson? (value : Json) : Option Delimiters := do
  let kind ← value.textField? "kind"
  let opening ← value.textField? "opening"
  match kind, value.field? "closing" with
  | "line", none => some (.line opening)
  | "block", some closing => closing.text?.map (.block opening)
  | _, _ => none

def Style.ofJson? (value : Json) : Option Style := do
  let name ← value.textField? "name"
  let delimiters ← Delimiters.ofJson? value
  let languages ← value.textsField? "languages"
  some { name, delimiters, languages }

def ReportMode.ofWord? : String → Option ReportMode
  | "comment" => some .comment
  | "head" => some .head
  | "cat" => some .cat
  | _ => none

theorem ReportMode.ofWord?_word (mode : ReportMode) : ofWord? mode.word = some mode := by
  cases mode <;> rfl

def Report.ofJson? (value : Json) : Option Report := do
  let path ← value.textField? "path"
  let word ← value.textField? "mode"
  let mode ← ReportMode.ofWord? word
  let style ← match value.field? "style" with
    | none => some none
    | some style => (Style.ofJson? style).map some
  let lines ← value.textsField? "lines"
  some { path := .ofString path, mode, style, lines := lines.toArray }

def readReports? (bytes : Bytes) : Option (List Report) :=
  ((Json.ofBytes? bytes).bind Json.items?).bind fun items => items.mapM Report.ofJson?

def readNames? (bytes : Bytes) : Option (List String) := (Json.ofBytes? bytes).bind Json.texts?

theorem mapM_map_of_read {Item Value : Type} {write : Item → Value} {read : Value → Option Item}
    {items : List Item} (each : ∀ item ∈ items, read (write item) = some item) :
    (items.map write).mapM read = some items := by
  induction items with
  | nil => rfl
  | cons item items hyp =>
    have later := hyp fun other member => each other (List.mem_cons_of_mem item member)
    have first := each item List.mem_cons_self
    simp [first, later]

namespace Json

@[simp] theorem texts?_list (texts : List String) : texts? (.list (texts.map .text)) = some texts :=
  mapM_map_of_read fun _ _ => rfl

theorem writable_texts (texts : List String) : ∀ item ∈ texts.map Json.text, Writable item := by
  intro item member
  obtain ⟨text, _, rfl⟩ := List.mem_map.mp member
  exact .text

end Json

theorem Style.ofJson?_json (style : Style) : Style.ofJson? style.json = some style := by
  obtain ⟨name, delimiters, languages⟩ := style
  cases delimiters with
  | line opening =>
    simp [Style.ofJson?, Style.json, Delimiters.ofJson?, Delimiters.fields, Json.textField?,
      Json.textsField?, Json.field?, Json.text?, List.lookup_cons]
  | block opening closing =>
    simp [Style.ofJson?, Style.json, Delimiters.ofJson?, Delimiters.fields, Json.textField?,
      Json.textsField?, Json.field?, Json.text?, List.lookup_cons]

private theorem Delimiters.writable_fields (delimiters : Delimiters) :
    ∀ field ∈ delimiters.fields, Json.Writable field.2 := by
  intro field member
  cases delimiters with
  | line opening =>
    simp only [fields, List.mem_cons, List.not_mem_nil, or_false] at member
    rcases member with rfl | rfl <;> exact .text
  | block opening closing =>
    simp only [fields, List.mem_cons, List.not_mem_nil, or_false] at member
    rcases member with rfl | rfl | rfl <;> exact .text

theorem Style.writable_json (style : Style) : Json.Writable style.json := by
  apply Json.Writable.object
  intro field member
  rcases List.mem_append.mp member with front | last
  · rcases List.mem_cons.mp front with rfl | delimiter
    · exact .text
    · exact style.delimiters.writable_fields field delimiter
  · rw [List.mem_singleton.mp last]
    exact .list (Json.writable_texts style.languages)

def Path.isText (path : Path) : Bool := (Utf8.decode? path.bytes).isSome

theorem Path.json_of_isText {path : Path} (named : path.isText = true) :
    ∃ text, path.json = .text text ∧ Path.ofString text = path := by
  obtain ⟨chars, decoded⟩ := Option.isSome_iff_exists.mp named
  refine ⟨String.ofList chars, by rw [json, decoded], ?_⟩
  have bytes := Utf8.decode?_eq_some_iff.mp decoded
  rw [ofString, utf8, String.toList_ofList, ← bytes]

namespace Report

theorem ofJson?_json {report : Report} (named : report.path.isText = true) :
    ofJson? report.json = some report := by
  obtain ⟨text, written, same⟩ := Path.json_of_isText named
  obtain ⟨path, mode, style, lines⟩ := report
  cases style with
  | none =>
    simp [ofJson?, json, Json.textField?, Json.textsField?, Json.field?, written, Json.text?,
      List.lookup_cons, same, ReportMode.ofWord?_word]
  | some style =>
    simp [ofJson?, json, Json.textField?, Json.textsField?, Json.field?, written, Json.text?,
      List.lookup_cons, same, ReportMode.ofWord?_word, Style.ofJson?_json]

theorem writable_json {report : Report} (named : report.path.isText = true) : Json.Writable report.json := by
  obtain ⟨text, written, _⟩ := Path.json_of_isText named
  apply Json.Writable.object
  intro field member
  rcases List.mem_append.mp member with front | last
  · rcases List.mem_append.mp front with heading | styled
    · simp only [List.mem_cons, List.not_mem_nil, or_false] at heading
      rcases heading with rfl | rfl
      · exact written ▸ .text
      · exact .text
    · obtain ⟨style, _, rfl⟩ := Option.map_eq_some_iff.mp (Option.mem_toList.mp styled)
      exact style.writable_json
  · rw [List.mem_singleton.mp last]
    exact .list (Json.writable_texts report.lines.toList)

theorem writable_map_json {reports : List Report} (named : ∀ report ∈ reports, report.path.isText = true) :
    ∀ item ∈ reports.map json, Json.Writable item := by
  intro item member
  obtain ⟨report, present, rfl⟩ := List.mem_map.mp member
  exact writable_json (named report present)

end Report

theorem Output.writeDraft_unlimited {output : Output} (unlimited : output.limit = none)
    (fresh : output.bytes = []) (draft : Draft) :
    (Writer.writeDraft output draft).1 = draft.stop ∧ (Writer.writeDraft output draft).2.bytes = utf8 draft.text := by
  have taken := writePieces_unlimited unlimited draft.pieces
  have bytes := output.bytes_writePieces draft.pieces
  rw [unlimited, fresh] at bytes
  rw [Writer.writeDraft]
  rcases written : Writer.writePieces output draft.pieces with ⟨refusal, next⟩
  rw [written] at taken bytes
  cases taken
  exact ⟨rfl, bytes⟩

theorem Output.writeDraft_list {output : Output} (unlimited : output.limit = none)
    (fresh : output.bytes = []) {items : List Json} (each : ∀ item ∈ items, Json.Writable item) :
    let written := Writer.writeDraft output (Json.document (.list items))
    written.1 = none ∧ Json.IsListDocument written.2.bytes ∧
      Json.ofBytes? written.2.bytes = some (.list items) := by
  intro written
  obtain ⟨refusal, bytes⟩ := writeDraft_unlimited unlimited fresh (Json.document (.list items))
  obtain ⟨body, text, stop, spells⟩ := Json.document_list each
  refine ⟨refusal.trans stop, ⟨items, body, each, spells, ?_⟩, ?_⟩
  · rw [bytes, text]
  · rw [bytes, Json.ofBytes?, utf8, Utf8.decode?_encode]
    exact Json.read?_document_list each

theorem Output.readReports?_writeReports {output : Output} (unlimited : output.limit = none)
    (fresh : output.bytes = []) {reports : List Report} (named : ∀ report ∈ reports, report.path.isText = true) :
    let written := Writer.writeReports output reports
    written.1 = none ∧ Json.IsListDocument written.2.bytes ∧
      readReports? written.2.bytes = some reports := by
  intro written
  obtain ⟨complete, document, read⟩ : written.1 = none ∧ Json.IsListDocument written.2.bytes ∧
      Json.ofBytes? written.2.bytes = some (.list (reports.map Report.json)) :=
    writeDraft_list unlimited fresh (Report.writable_map_json named)
  refine ⟨complete, document, ?_⟩
  rw [readReports?, read]
  exact mapM_map_of_read fun report present => Report.ofJson?_json (named report present)

theorem Output.readNames?_writeNamesJson {output : Output} (unlimited : output.limit = none)
    (fresh : output.bytes = []) (names : List String) :
    let written := Writer.writeNamesJson output names
    written.1 = none ∧ Json.IsListDocument written.2.bytes ∧ readNames? written.2.bytes = some names := by
  intro written
  obtain ⟨complete, document, read⟩ : written.1 = none ∧ Json.IsListDocument written.2.bytes ∧
      Json.ofBytes? written.2.bytes = some (.list (names.map .text)) :=
    writeDraft_list unlimited fresh (Json.writable_texts names)
  refine ⟨complete, document, ?_⟩
  rw [readNames?, read]
  exact Json.texts?_list names

/-- What is written of reports is one list and one newline, and they are read back from it, so that
different reports are never written alike. The same goes for names. -/
theorem Output.written_lists_read_back (output : Output) (unlimited : output.limit = none)
    (fresh : output.bytes = []) :
    (∀ reports : List Report, (∀ report ∈ reports, report.path.isText = true) →
      let written := Writer.writeReports output reports
      written.1 = none ∧ Json.IsListDocument written.2.bytes ∧
        readReports? written.2.bytes = some reports) ∧
    (∀ first second : List Report, (∀ report ∈ first ++ second, report.path.isText = true) →
      (Writer.writeReports output first).2.bytes = (Writer.writeReports output second).2.bytes →
      first = second) ∧
    (∀ names : List String,
      let written := Writer.writeNamesJson output names
      written.1 = none ∧ Json.IsListDocument written.2.bytes ∧
        readNames? written.2.bytes = some names) ∧
    (∀ first second : List String,
      (Writer.writeNamesJson output first).2.bytes = (Writer.writeNamesJson output second).2.bytes →
      first = second) := by
  refine ⟨?_, ?_, ?_, ?_⟩
  · intro reports named
    exact readReports?_writeReports unlimited fresh named
  · intro first second named same
    have front : ∀ report ∈ first, report.path.isText = true :=
      fun report member => named report (List.mem_append_left second member)
    have back : ∀ report ∈ second, report.path.isText = true :=
      fun report member => named report (List.mem_append_right first member)
    have one := (readReports?_writeReports unlimited fresh front).2.2
    have other := (readReports?_writeReports unlimited fresh back).2.2
    rw [same] at one
    exact Option.some.inj (one.symm.trans other)
  · intro names
    exact readNames?_writeNamesJson unlimited fresh names
  · intro first second same
    have one := (readNames?_writeNamesJson unlimited fresh first).2.2
    have other := (readNames?_writeNamesJson unlimited fresh second).2.2
    rw [same] at one
    exact Option.some.inj (one.symm.trans other)

/-- Quotes, backslashes, control characters and a style with delimiters of its own. -/
theorem Output.written_lists_read_back_escaped :
    let output : Output := {}
    let style : Style := ⟨"C \"block\"", .block "/*" "\n*/", ["C++", ""]⟩
    let reports : List Report := [
      { path := .ofString "/a\\b.c", mode := .comment, style := some style, lines := #["/* \x01\t\x7f", "é\\"] },
      { path := .ofString "/ü", mode := .head }]
    output.limit = none ∧ output.bytes = [] ∧ (∀ report ∈ reports, report.path.isText = true) ∧
      (Writer.writeReports output reports).1 = none ∧
      Json.IsListDocument (Writer.writeReports output reports).2.bytes ∧
      readReports? (Writer.writeReports output reports).2.bytes = some reports := by
  intro output style reports
  have named : ∀ report ∈ reports, report.path.isText = true := by decide
  exact ⟨rfl, rfl, named, (written_lists_read_back output rfl rfl).1 reports named⟩

end LeadingComment
