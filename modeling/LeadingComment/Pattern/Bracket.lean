import LeadingComment.Pattern.Primitive

namespace LeadingComment.Pattern

inductive SetOperator where
  | both | less | butNotBoth
deriving DecidableEq, Repr

def SetOperator.apply (operator : SetOperator) (left right : CharSet) : CharSet :=
  match operator with
  | both => left.both right
  | less => left.less right
  | butNotBoth => left.butNotBoth right

structure Operand where
  set : CharSet
  /-- Whether all that is in it has been completed before. -/
  closed : Bool
  span : Span
  nesting : Nesting
deriving DecidableEq, Repr

/-- Members in a row, the place of which reaches from the first to the last. -/
structure Members where
  /-- The last one comes first. -/
  sets : List CharSet := []
  closed : Bool := true
  span : Span
  nesting : Nesting := []
deriving DecidableEq, Repr

namespace Members

def add (members : Members) (member : Operand) : Members where
  sets := (if member.nesting.isTooDeep then .none else member.set) :: members.sets
  closed := members.closed && member.closed
  span := ⟨if members.sets.isEmpty then member.span.start else members.span.start, member.span.stop⟩
  nesting := members.nesting.beside member.nesting

def addPlain (members : Members) (set : CharSet) (span : Span) : Members :=
  members.add { set, closed := false, span, nesting := [] }

def operand (members : Members) : Operand where
  set := .unionOf members.sets
  closed := members.closed
  span := members.span
  nesting :=
    if 1 < members.sets.length then members.nesting.within members.span else members.nesting

end Members

/-- What the members at hand are read in. -/
inductive Level where
  /-- Brackets, whose beginning takes `span`, among the members `outer` of other ones. -/
  | opened (outer : Members) (negated : Bool) (span : Span)
  | operator (operator : SetOperator) (left : Operand)
deriving DecidableEq, Repr

def namedSets : List (String × CharSet) := [
  ("alnum", .either .letters .digits), ("alpha", .letters), ("ascii", .range '\x00' '\x7f'),
  ("blank", .ofList [('\t', '\t'), (' ', ' ')]),
  ("cntrl", .ofList [('\x00', '\x1f'), ('\x7f', '\x7f')]), ("digit", .digits),
  ("graph", .range '!' '~'), ("lower", .range 'a' 'z'), ("print", .range ' ' '~'),
  ("punct", .ofList [('!', '/'), (':', '@'), ('[', '\x60'), ('\x7b', '~')]), ("space", .blanks),
  ("upper", .range 'A' 'Z'), ("word", .wordChars),
  ("xdigit", .ofList [('0', '9'), ('A', 'F'), ('a', 'f')])]

/-- A named set such as `[:alpha:]` at the beginning of a text: the set, whether its opposite is
meant, and how long its name is with all that encloses it. -/
def namedSet? (text : List Char) : Option (CharSet × Bool × Nat) :=
  match text with
  | '[' :: ':' :: text =>
    let negated := text.head? = some '^'
    let text := if negated then text.drop 1 else text
    let name := text.takeWhile (· != ':')
    if [':', ']'].isPrefixOf (text.drop name.length) then
      (namedSets.lookup (String.ofList name)).map fun set =>
        (set, negated, name.length + if negated then 5 else 4)
    else none
  | _ => none

/-- The character that decides whether a dash stands in a range. Where white space does not count it
is the next one behind it, and behind one number sign at most. -/
def decider? (skipsBlanks : Bool) (text : List Char) : Option Char :=
  if skipsBlanks then
    let found :=
      match text.dropWhile isBlank with
      | '#' :: text => text.dropWhile isBlank
      | text => text
    found.head? <|> text.head?
  else text.head?

namespace Reader

/-- A single byte of a set has to be a character of ASCII. -/
def checkMember (char : Char) (byte : Bool) (span : Span) : Reader Unit := do
  if !(← flags).beyondAscii && 127 < char.toNat then
    refuse (if byte then .notUtf8 else .beyondAscii) span

def member : Reader (Primitive × Span) := do
  let start ← position
  let primitive ← match ← rest with
    | '\\' :: _ => escape
    | char :: _ => do
      advance 1
      pure (.char char false)
    | [] => fail .escapeCut (← here)
  return (primitive, ← since start)

def memberSet (primitive : Primitive) (span : Span) : Reader CharSet := do
  match primitive with
  | .char char byte =>
    checkMember char byte span
    return .single char
  | .classLetter letter negated => classSet letter negated span
  | .property name => propertySet name span
  | .dot | .look _ => fail .setEscape span

def limit (primitive : Primitive) (span : Span) : Reader (Char × Bool) :=
  match primitive with
  | .char char byte => return (char, byte)
  | _ => fail .rangeNoLiteral span

def unclosed {Value : Type} (levels : List Level) : Reader Value := do
  let span? := levels.findSome? fun level =>
    match level with
    | .opened _ _ span => some span
    | .operator _ _ => none
  fail .setUnclosed (span?.getD (← here))

def isRangeDash : Reader Bool := do
  match ← rest with
  | '-' :: later =>
    let decider := decider? (← flags).skipsBlanks later
    return decider != some ']' && decider != some '-'
  | _ => return false

def memberOrRange (levels : List Level) : Reader (CharSet × Span) := do
  let (low, lowSpan) ← member
  skipIdle
  if (← rest).isEmpty then unclosed levels
  if ← isRangeDash then
    step
    if (← rest).isEmpty then unclosed levels
    let (high, highSpan) ← member
    let span : Span := ⟨lowSpan.start, highSpan.stop⟩
    let (low, lowByte) ← limit low lowSpan
    let (high, highByte) ← limit high highSpan
    if high < low then fail .rangeReversed span
    checkMember low lowByte lowSpan
    checkMember high highByte highSpan
    return (.range low high, span)
  else return (← memberSet low lowSpan, lowSpan)

/-- Dashes that come first in brackets are members. -/
def dashes (start : Nat) (members : Members) : (bound : List Char) → Reader Members
  | [] => return members
  | _ :: bound => do
    if (← rest).head? = some '-' then
      let members := members.addPlain (.single '-') (← onNext)
      step
      if (← rest).isEmpty then fail .setUnclosed ⟨start, start⟩
      dashes start members bound
    else return members

/-- Opening brackets. A closing bracket that comes first is a member. -/
def openBracket (outer : Members) : Reader (Level × Members) := do
  let start ← position
  step
  if (← rest).isEmpty then fail .setUnclosed (← since start)
  let negated := (← rest).head? = some '^'
  if negated then
    step
    if (← rest).isEmpty then fail .setUnclosed (← since start)
  let members ← dashes start { span := ← here } (← rest)
  if members.sets.isEmpty && (← rest).head? = some ']' then
    let members := members.addPlain (.single ']') (← onNext)
    step
    if (← rest).isEmpty then fail .setUnclosed (← since start)
    return (.opened outer negated (← since start), members)
  else return (.opened outer negated (← since start), members)

/-- Applies the operator before the members at hand, if there is one. -/
def settle (members : Members) : List Level → Reader (Operand × List Level)
  | .operator operator left :: levels => do
    let right := members.operand
    let rightSet ← completeSet right.set right.closed false right.span
    let leftSet ← completeSet left.set left.closed false left.span
    let span : Span := ⟨left.span.start, right.span.stop⟩
    let nesting := (left.nesting.beside right.nesting).within span
    let set := if nesting.isTooDeep then .none else operator.apply leftSet rightSet
    return ({ set, closed := true, span, nesting }, levels)
  | levels => return (members.operand, levels)

def operator? (text : List Char) : Option SetOperator :=
  match text with
  | '&' :: '&' :: _ => some .both
  | '-' :: '-' :: _ => some .less
  | '~' :: '~' :: _ => some .butNotBoth
  | _ => none

/-- Reads on inside brackets until the outermost are closed. Every turn passes over a character of
`bound` at least. -/
def bracketFrom : (bound : List Char) → List Level → Members → Reader Operand
  | [], levels, _ => unclosed levels
  | _ :: bound, levels, members => do
    skipIdle
    let rest ← rest
    match rest.head?, namedSet? rest, operator? rest with
    | none, _, _ => unclosed levels
    | some _, some (set, negated, length), _ =>
      let start ← position
      advance length
      let span ← since start
      bracketFrom bound levels (members.addPlain (← completeSet set false negated span) span)
    | some '[', none, _ =>
      let (level, inner) ← openBracket members
      bracketFrom bound (level :: levels) inner
    | some ']', none, _ =>
      let (content, levels) ← settle members levels
      advance 1
      match levels with
      | .opened outer negated opening :: levels =>
        let span ← since opening.start
        let set ← completeSet content.set content.closed negated span
        let operand : Operand := { set, closed := true, span, nesting := content.nesting.within span }
        if levels.isEmpty then return operand
        else bracketFrom bound levels (outer.add operand)
      | levels => unclosed levels
    | some _, none, some operator =>
      let (left, levels) ← settle members levels
      advance 2
      bracketFrom bound (.operator operator left :: levels) { span := ← here }
    | some _, none, none =>
      let (set, span) ← memberOrRange levels
      bracketFrom bound levels (members.addPlain set span)

def bracket : Reader Operand := do
  let (level, members) ← openBracket { span := ← here }
  bracketFrom (← rest) [level] members

end Reader
end LeadingComment.Pattern
