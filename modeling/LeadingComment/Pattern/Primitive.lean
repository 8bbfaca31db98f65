import LeadingComment.Pattern.Reader

namespace LeadingComment.Pattern

inductive ClassLetter where
  | digit | blank | word
deriving DecidableEq, Repr

def ClassLetter.set : ClassLetter → CharSet
  | digit => .digits
  | blank => .blanks
  | word => .wordChars

inductive Primitive where
  /-- A character; `byte` if it was given as the number of a byte. -/
  | char (char : Char) (byte : Bool)
  | dot
  | look (place : Look)
  | classLetter (letter : ClassLetter) (negated : Bool)
  | property (name : List Char)
deriving DecidableEq, Repr

def isMeta (char : Char) : Bool := "\\.+*?()|[]\x7b\x7d^$#&-~".toList.contains char

/-- Any mark may be escaped, except two that are kept for the edges of words. -/
def isEscapable (char : Char) : Bool :=
  isMeta char || (char.toNat < 128 && !char.isAlphanum && char != '<' && char != '>')

def isHexDigit (char : Char) : Bool :=
  char.isDigit || ('a' ≤ char && char ≤ 'f') || ('A' ≤ char && char ≤ 'F')

def hexDigitValue (char : Char) : Nat :=
  if char.isDigit then char.toNat - '0'.toNat else char.toLower.toNat - 'a'.toNat + 10

/-- The number that digits stand for, or `limit` if it is no smaller than that. -/
def numberBelow (limit base : Nat) (digits : List Nat) : Nat :=
  digits.foldl (fun value digit => min limit (value * base + digit)) 0

def hexChar? (digits : List Char) : Option Char :=
  let value := numberBelow 0x110000 16 (digits.map hexDigitValue)
  if value < 0xD800 || (0xE000 ≤ value && value < 0x110000) then some (Char.ofNat value) else none

/-- The name of a property as names are compared: without `is` in front, without blanks, dashes and
low lines, without anything beyond ASCII, and in small letters. -/
def plainName (name : List Char) : List Char :=
  let name :=
    match name with
    | first :: second :: rest =>
      if first.toLower = 'i' && second.toLower = 's' then rest else name
    | _ => name
  (name.filter fun char => char.toNat < 128 && char != ' ' && char != '_' && char != '-').map
    Char.toLower

/-- No property is known. Three names are those of properties as well as of values, and they are
looked up as values. -/
def propertyMistake (name : List Char) : MistakeKind :=
  if ["cf", "sc", "lc"].contains (String.ofList (plainName name)) then .noPropertyValue
  else .noProperty

namespace Reader

/-! ### Escapes -/

def hexDigits (isFirst : Bool) : Nat → Reader (List Char)
  | 0 => return []
  | count + 1 => do
    if !isFirst then step
    match ← rest with
    | [] => fail .escapeCut (← here)
    | char :: _ =>
      if isHexDigit char then return char :: (← hexDigits false count)
      else fail .hexDigit (← onNext)

/-- A character by its number, after the letter that says how many digits it has. -/
def hexEscape (count : Nat) : Reader Primitive := do
  step
  match ← rest with
  | [] => fail .escapeCut (← here)
  | '\x7b' :: _ =>
    let brace ← position
    step
    let digits ← takeWhile isHexDigit
    match ← rest with
    | [] => fail .escapeCut (← since brace)
    | '\x7d' :: _ =>
      let stop ← position
      step
      if digits.isEmpty then fail .hexEmpty (← since brace)
      match hexChar? digits with
      | some char => return .char char false
      | none => fail .hexNoScalar ⟨brace + 1, stop⟩
    | _ :: _ => fail .hexDigit (← onNext)
  | _ :: _ =>
    let start ← position
    let digits ← hexDigits true count
    step
    match hexChar? digits with
    | some char => return .char char (count == 2)
    | none => fail .hexNoScalar (← since start)

def propertyEscape : Reader Primitive := do
  step
  match ← rest with
  | [] => fail .escapeCut (← here)
  | '\\' :: _ => fail .propertyEscape (← onNext)
  | '\x7b' :: _ =>
    step
    let name ← takeWhile (· != '\x7d')
    match ← rest with
    | [] => fail .escapeCut (← here)
    | _ :: _ =>
      advance 1
      return .property name
  | char :: _ =>
    step
    return .property [char]

def isEdgeChar (char : Char) : Bool := char.isAlpha || char == '-'

/-- The edge that is named in braces after `\b`. Braces that do not begin with a letter are left to
count a repetition. -/
def wordEdge (start : Nat) : Reader WordEdge := do
  match ← rest with
  | '\x7b' :: _ =>
    let before ← get
    let brace ← position
    step
    match ← rest with
    | [] => fail .wordEdgeCut (← since start)
    | first :: _ =>
      if !isEdgeChar first then
        set before
        return .boundary
      let nameStart ← position
      let name ← takeWhile isEdgeChar
      match ← rest with
      | '\x7d' :: _ =>
        let span ← since nameStart
        advance 1
        match String.ofList name with
        | "start" => return .start
        | "end" => return .stop
        | "start-half" => return .startHalf
        | "end-half" => return .stopHalf
        | _ => fail .wordEdgeUnknown span
      | _ => fail .wordEdgeUnclosed (← since brace)
  | _ => return .boundary

def look (place : Look) : Reader Primitive := return .look place

def wordLook (edge : WordEdge) : Reader Primitive :=
  return .look (.word edge (← flags).beyondAscii)

def letterEscape (start : Nat) (letter : Char) : Reader Primitive :=
  match letter with
  | 'a' => return .char '\x07' false
  | 'f' => return .char '\x0c' false
  | 't' => return .char '\t' false
  | 'n' => return .char '\n' false
  | 'r' => return .char '\r' false
  | 'v' => return .char '\x0b' false
  | 'A' => look .textStart
  | 'z' => look .textEnd
  | 'b' => do wordLook (← wordEdge start)
  | 'B' => wordLook .inside
  | '<' => wordLook .start
  | '>' => wordLook .stop
  | _ => do fail .escapeUnknown (← since start)

def escape : Reader Primitive := do
  let start ← position
  advance 1
  match ← rest with
  | [] => fail .escapeCut (← since start)
  | letter :: _ =>
    if letter.isDigit then fail .backReference ⟨start, start + 2⟩
    match letter with
    | 'x' => hexEscape 2
    | 'u' => hexEscape 4
    | 'U' => hexEscape 8
    | 'p' | 'P' => propertyEscape
    | _ =>
      advance 1
      match letter with
      | 'd' => return .classLetter .digit false
      | 's' => return .classLetter .blank false
      | 'w' => return .classLetter .word false
      | 'D' => return .classLetter .digit true
      | 'S' => return .classLetter .blank true
      | 'W' => return .classLetter .word true
      | _ =>
        if isEscapable letter then return .char letter false else letterEscape start letter

def primitive : Reader (Primitive × Span) := do
  let start ← position
  let flags ← flags
  let primitive ← match ← rest with
    | '\\' :: _ => escape
    | char :: _ =>
      advance 1
      match char with
      | '.' => pure .dot
      | '^' => look (if flags.manyLines then .lineStart flags.carriageReturns else .textStart)
      | '$' => look (if flags.manyLines then .lineEnd flags.carriageReturns else .textEnd)
      | _ => pure (.char char false)
    | [] => fail .escapeCut (← here)
  return (primitive, ← since start)

/-! ### What a primitive matches -/

/-- There are no tables of classes beyond ASCII. -/
def classSet (letter : ClassLetter) (negated : Bool) (span : Span) : Reader CharSet := do
  let set := if negated then letter.set.outside else letter.set
  if (← flags).beyondAscii then refuse .noClassTable span
  else if !set.isAscii then refuse .notUtf8 span
  return set

def propertySet (name : List Char) (span : Span) : Reader CharSet := do
  refuse (if (← flags).beyondAscii then propertyMistake name else .beyondAscii) span
  return .none

def dotSet (span : Span) : Reader CharSet := do
  let flags ← flags
  if !flags.beyondAscii then refuse .notUtf8 span
  if flags.dotTakesNewline then return CharSet.none.outside
  else if flags.carriageReturns then return (CharSet.ofList [('\n', '\n'), ('\r', '\r')]).outside
  else return (CharSet.single '\n').outside

def charSet (char : Char) (byte : Bool) (span : Span) : Reader CharSet := do
  let flags ← flags
  if flags.beyondAscii && flags.anyCase then refuse .noCaseTable span
  if !flags.beyondAscii && byte && 127 < char.toNat then refuse .notUtf8 span
  return if flags.anyCase then (CharSet.single char).anyCase else .single char

def setPattern (set : CharSet) : Reader Pattern := return ofSet set (!(← flags).beyondAscii)

def patternOf (primitive : Primitive) (span : Span) : Reader Pattern := do
  match primitive with
  | .char char byte => setPattern (← charSet char byte span)
  | .dot => setPattern (← dotSet span)
  | .look place => return .look place
  | .classLetter letter negated => setPattern (← classSet letter negated span)
  | .property name => setPattern (← propertySet name span)

end Reader
end LeadingComment.Pattern
