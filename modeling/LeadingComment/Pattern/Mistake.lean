import LeadingComment.Text.Split

namespace LeadingComment.Pattern

/-- A part of a text, from the character at `start` to the one before `stop`. -/
structure Span where
  start : Nat
  stop : Nat
deriving DecidableEq, Repr

def depthLimit : Nat := 250

inductive MistakeKind where
  | escapeCut | escapeUnknown | backReference
  | hexEmpty | hexDigit | hexNoScalar
  | wordEdgeCut | wordEdgeUnclosed | wordEdgeUnknown
  | decimalMissing | decimalTooLarge
  | nothingToRepeat | countUnclosed | countReversed
  | groupUnclosed | groupUnopened | lookAround
  | nameCut | nameEmpty | nameChar | nameTaken
  | flagsCut | flagUnknown | flagTwice | negationTwice | negationLast
  | setUnclosed | setEscape | rangeReversed | rangeNoLiteral | propertyEscape
  | tooDeep
  | beyondAscii | notUtf8 | noProperty | noPropertyValue | noClassTable | noCaseTable
deriving DecidableEq, Repr

def MistakeKind.message : MistakeKind → String
  | escapeCut => "incomplete escape sequence, reached end of pattern prematurely"
  | escapeUnknown => "unrecognized escape sequence"
  | backReference => "backreferences are not supported"
  | hexEmpty => "hexadecimal literal empty"
  | hexDigit => "invalid hexadecimal digit"
  | hexNoScalar => "hexadecimal literal is not a Unicode scalar value"
  | wordEdgeCut =>
    "found either the beginning of a special word boundary or a bounded repetition on a \\b with "
      ++ "an opening brace, but no closing brace"
  | wordEdgeUnclosed =>
    "special word boundary assertion is either unclosed or contains an invalid character"
  | wordEdgeUnknown =>
    "unrecognized special word boundary assertion, valid choices are: start, end, start-half or "
      ++ "end-half"
  | decimalMissing => "repetition quantifier expects a valid decimal"
  | decimalTooLarge => "decimal literal invalid"
  | nothingToRepeat => "repetition operator missing expression"
  | countUnclosed => "unclosed counted repetition"
  | countReversed => "invalid repetition count range, the start must be <= the end"
  | groupUnclosed => "unclosed group"
  | groupUnopened => "unopened group"
  | lookAround => "look-around, including look-ahead and look-behind, is not supported"
  | nameCut => "unclosed capture group name"
  | nameEmpty => "empty capture group name"
  | nameChar => "invalid capture group character"
  | nameTaken => "duplicate capture group name"
  | flagsCut => "expected flag but got end of regex"
  | flagUnknown => "unrecognized flag"
  | flagTwice => "duplicate flag"
  | negationTwice => "flag negation operator repeated"
  | negationLast => "dangling flag negation operator"
  | setUnclosed => "unclosed character class"
  | setEscape => "invalid escape sequence found in character class"
  | rangeReversed => "invalid character class range, the start must be <= the end"
  | rangeNoLiteral => "invalid range boundary, must be a literal"
  | propertyEscape => "invalid Unicode character class"
  | tooDeep => "exceed the maximum number of nested parentheses/brackets (" ++ toString depthLimit ++ ")"
  | beyondAscii => "Unicode not allowed here"
  | notUtf8 => "pattern can match invalid UTF-8"
  | noProperty => "Unicode property not found"
  | noPropertyValue => "Unicode property value not found"
  | noClassTable =>
    "Unicode-aware Perl class not found (make sure the unicode-perl feature is enabled)"
  | noCaseTable =>
    "Unicode-aware case insensitivity matching is not available (make sure the unicode-case "
      ++ "feature is enabled)"

structure Mistake where
  kind : MistakeKind
  span : Span
  /-- Where the same thing stands for the first time. -/
  earlier : Option Span := none
deriving DecidableEq, Repr

/-- The lines of a text without their ends; a carriage return belongs to a newline after it. -/
def linesOf (text : List Char) : List (List Char) :=
  match (splitAt '\n' text).reverse with
  | [] => []
  | last :: earlier =>
    let ended := earlier.reverse.map fun line =>
      if line.getLast? = some '\r' then line.dropLast else line
    if last.isEmpty then ended else ended ++ [last]

/-- A place as people count it: line and column, both from one. -/
structure Spot where
  line : Nat
  column : Nat
deriving DecidableEq, Repr

def spotOf (text : List Char) (position : Nat) : Spot :=
  let before := text.take position
  { line := before.count '\n' + 1
    column := (before.reverse.takeWhile (· != '\n')).length + 1 }

def spaces (count : Nat) : List Char := List.replicate count ' '

/-- Marks below a line, the earlier first; even an empty part is marked once. -/
def marksFrom (column : Nat) : List (Nat × Nat) → List Char
  | [] => []
  | (start, stop) :: later =>
    let width := max 1 (stop - start)
    spaces (start - 1 - column) ++ List.replicate width '^'
      ++ marksFrom (max column (start - 1) + width) later

namespace Mistake

def spans (mistake : Mistake) : List Span :=
  match mistake.earlier with
  | none => [mistake.span]
  | some earlier =>
    if earlier.start ≤ mistake.span.start then [earlier, mistake.span] else [mistake.span, earlier]

def limits (mistake : Mistake) (text : List Char) : List (Spot × Spot) :=
  mistake.spans.map fun span => (spotOf text span.start, spotOf text span.stop)

end Mistake

def columnsOn (limits : List (Spot × Spot)) (line : Nat) : List (Nat × Nat) :=
  limits.filterMap fun (start, stop) =>
    if start.line = line && stop.line = line then some (start.column, stop.column) else none

/-- Parts that begin on one line and end on another are told in words. -/
def acrossLines (limits : List (Spot × Spot)) : String :=
  String.join (limits.filterMap fun (start, stop) =>
    if start.line = stop.line then none
    else some ("on line " ++ toString start.line ++ " (column " ++ toString start.column
      ++ ") through line " ++ toString stop.line ++ " (column " ++ toString (stop.column - 1)
      ++ ")\n"))

/-- The lines of a text, each behind its `label` and above its marks. -/
def marked (text : List Char) (limits : List (Spot × Spot)) (label : Nat → List Char) : String :=
  String.ofList ((linesOf text).zipIdx 1 |>.flatMap fun (line, number) =>
    let label := label number
    label ++ line ++ ['\n'] ++
      match columnsOn limits number with
      | [] => []
      | columns => spaces label.length ++ marksFrom 0 columns ++ ['\n'])

/-- Lines are numbered if there are several, the last one included that begins after a newline. -/
def Mistake.message (mistake : Mistake) (text : List Char) : String :=
  let limits := mistake.limits text
  let ending := "error: " ++ mistake.kind.message
  if text.contains '\n' then
    let count := (linesOf text).length + if text.getLast? = some '\n' then 1 else 0
    let width := (toString count).length
    let label := fun number =>
      let digits := (toString (number : Nat)).toList
      spaces (width - digits.length) ++ digits ++ [':', ' ']
    let divider := String.ofList (List.replicate 79 '~') ++ "\n"
    "regex parse error:\n" ++ divider ++ marked text limits label ++ divider
      ++ acrossLines limits ++ ending
  else
    "regex parse error:\n" ++ marked text limits (fun _ => spaces 4) ++ ending

end LeadingComment.Pattern
