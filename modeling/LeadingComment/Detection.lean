import LeadingComment.Catalog
import LeadingComment.Extraction

namespace LeadingComment

structure Detection where
  result : Except Fault (Option Style)
  source : Source
  notes : List Note := []

namespace Detection

/-- What the first line says; `none` stands for the end of input. -/
def judge (catalog : Catalog) : Option (List Char) → Option Style × Note
  | none => (none, .emptyInput)
  | some line =>
    match catalog.match? line with
    | some style => (some style, .detected style)
    | none => (none, .unmatched)

end Detection

/-- One seek learns the position and one restores it. When reading fails nothing is restored, and
when restoring fails the line stays consumed; neither is noted. -/
def Source.detect (source : Source) (catalog : Catalog) : Detection :=
  match source.spendSeek? with
  | none => { result := .error .seekFailed, source }
  | some located =>
    match located.firstLine with
    | .error (fault, place) => { result := .error fault, source := located.moveTo place }
    | .ok (line, place) =>
      let consumed := located.moveTo place
      match consumed.spendSeek? with
      | none => { result := .error .seekFailed, source := consumed }
      | some restored =>
        let (style, note) := Detection.judge catalog line
        { result := .ok style
          source := restored.reposition source.position
          notes := [note] }

/-- Applies a mode to a source. In comment mode the value is the detected style; without one the
sink is not called at all. -/
def Source.process {State : Type} (source : Source) (catalog : Catalog) (mode : Mode)
    (sink : Sink State) (state : State) : Outcome State (Option Style) :=
  match mode with
  | .cat => (source.cat sink state).map fun _ => none
  | .head count => (source.head count sink state).map fun _ => none
  | .comment =>
    let detection := source.detect catalog
    match detection.result with
    | .error fault =>
      { result := .error (.read fault), source := detection.source, sink := state,
        notes := detection.notes }
    | .ok none =>
      { result := .ok none, source := detection.source, sink := state, notes := detection.notes }
    | .ok (some style) =>
      ((detection.source.extractComment style sink state).map fun _ => some style).noteFirst
        detection.notes

end LeadingComment
