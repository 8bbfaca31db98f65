import LeadingComment.Json
import LeadingComment.Mode
import LeadingComment.Sink
import LeadingComment.Style
import LeadingComment.Writer

namespace LeadingComment

structure Report where
  path : Path
  mode : ReportMode
  /-- The detected style, in comment mode. -/
  style : Option Style := none
  lines : Array String := #[]
deriving DecidableEq, Repr

def Delimiters.fields : Delimiters → List (String × Json)
  | line opening => [("kind", .text "line"), ("opening", .text opening)]
  | block opening closing =>
    [("kind", .text "block"), ("opening", .text opening), ("closing", .text closing)]

def Style.json (style : Style) : Json :=
  .object (("name", .text style.name) :: style.delimiters.fields
    ++ [("languages", .list (style.languages.map .text))])

/-- Only a path that is text can be written. -/
def Path.json (path : Path) : Json :=
  match Utf8.decode? path.bytes with
  | some chars => .text (String.ofList chars)
  | none => .unwritable .unwritablePath

namespace Report

/-- Separators leave no trace in a report. -/
def sink : Sink Report where
  emit line report := (none, { report with lines := report.lines.push line })
  separator report := (none, report)

def json (report : Report) : Json :=
  .object ([("path", report.path.json), ("mode", .text report.mode.word)]
    ++ (report.style.map fun style => ("style", style.json)).toList
    ++ [("lines", .list (report.lines.toList.map .text))])

end Report

namespace Writer

variable {Target : Type} [Writer Target]

/-- Writes a draft as far as it goes; a write that is refused comes before the draft's own stop. -/
def writeDraft (target : Target) (draft : Draft) : Option Fault × Target :=
  match writePieces target draft.pieces with
  | (none, target) => (draft.stop, target)
  | refused => refused

def writeReports (target : Target) (reports : List Report) : Option Fault × Target :=
  writeDraft target (Json.document (.list (reports.map Report.json)))

def writeNamesJson (target : Target) (names : List String) : Option Fault × Target :=
  writeDraft target (Json.document (.list (names.map .text)))

end Writer
end LeadingComment
