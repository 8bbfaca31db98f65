import LeadingComment.Pattern.Bracket
import LeadingComment.Pattern.Machine
import LeadingComment.Text.Alphabetic

namespace LeadingComment.Pattern

/-- A part of a sequence; one without a pattern is a change of flags. -/
structure Part where
  pattern : Option Pattern
  span : Span
  nesting : Nesting := []
deriving DecidableEq, Repr

/-- The alternative at hand, and those before it. -/
structure Branch where
  /-- Where the first alternative begins. -/
  start : Nat
  /-- The last one comes first. -/
  earlier : List (Pattern × Nesting) := []
  /-- Where the alternative at hand begins. -/
  restart : Nat := start
  /-- The last part comes first. -/
  parts : List Part := []
deriving DecidableEq, Repr

namespace Branch

def add (branch : Branch) (part : Part) : Branch :=
  let part :=
    if part.nesting.isTooDeep then { part with pattern := part.pattern.map fun _ => empty } else part
  { branch with parts := part :: branch.parts }

/-- The alternative at hand, which ends at `stop`. Several parts are a part of their own. -/
def alternative (branch : Branch) (stop : Nat) : Pattern × Nesting :=
  let nesting : Nesting :=
    branch.parts.foldl (fun nesting part => part.nesting.beside nesting) []
  (sequence (branch.parts.reverse.filterMap Part.pattern),
    if 1 < branch.parts.length then nesting.within ⟨branch.restart, stop⟩ else nesting)

def nextAlternative (branch : Branch) (stop : Nat) : Branch where
  start := branch.start
  earlier := branch.alternative stop :: branch.earlier
  restart := stop + 1

def whole (branch : Branch) (stop : Nat) : Pattern × Nesting :=
  let last := branch.alternative stop
  match branch.earlier with
  | [] => last
  | earlier =>
    let all := last :: earlier
    let nesting : Nesting :=
      all.foldl (fun nesting alternative => alternative.2.beside nesting) []
    (alternation (all.reverse.map Prod.fst), nesting.within ⟨branch.start, stop⟩)

end Branch

structure Group where
  /-- Where its opening parenthesis stands. -/
  start : Span
  outer : Branch
  /-- The flags outside, which come back when it is closed. -/
  flags : Flags
  number : Option Nat
deriving DecidableEq, Repr

inductive Flag where
  | anyCase | manyLines | dotTakesNewline | swapsGreed | beyondAscii | carriageReturns | skipsBlanks
deriving DecidableEq, Repr

def Flag.ofLetter? : Char → Option Flag
  | 'i' => some anyCase
  | 'm' => some manyLines
  | 's' => some dotTakesNewline
  | 'U' => some swapsGreed
  | 'u' => some beyondAscii
  | 'R' => some carriageReturns
  | 'x' => some skipsBlanks
  | _ => none

def Flags.set (flags : Flags) (flag : Flag) (value : Bool) : Flags :=
  match flag with
  | .anyCase => { flags with anyCase := value }
  | .manyLines => { flags with manyLines := value }
  | .dotTakesNewline => { flags with dotTakesNewline := value }
  | .swapsGreed => { flags with swapsGreed := value }
  | .beyondAscii => { flags with beyondAscii := value }
  | .carriageReturns => { flags with carriageReturns := value }
  | .skipsBlanks => { flags with skipsBlanks := value }

/-- Where there are flags, the letters and the dash are remembered with their places. -/
structure FlagItem where
  /-- Nothing for the dash, behind which flags are switched off. -/
  flag : Option Flag
  span : Span
deriving DecidableEq, Repr

def Flags.apply (flags : Flags) (items : List FlagItem) : Flags :=
  (items.foldl (fun (flags, value) item =>
    match item.flag with
    | none => (flags, false)
    | some flag => (Flags.set flags flag value, value)) (flags, true)).1

/-- Names consist of letters and low lines, and behind the first character also of numbers, points
and brackets. -/
def isNameChar (isFirst : Bool) (char : Char) : Bool :=
  char == '_' || isAlphabetic char
    || (!isFirst && (isNumber char || char == '.' || char == '[' || char == ']'))

def decimalLimit : Nat := 4294967296

namespace Reader

/-! ### Groups -/

def failTwice {Value : Type} (kind : MistakeKind) (span earlier : Span) : Reader Value :=
  throw { kind, span, earlier := some earlier }

/-- Flags up to the colon or the parenthesis that ends them, no more than there are characters in
`bound`. -/
def flagItems (items : List FlagItem) : (bound : List Char) → Reader (List FlagItem)
  | [] => do fail .flagsCut (← here)
  | _ :: bound => do
    let span ← onNext
    match ← rest with
    | [] => fail .flagsCut (← here)
    | letter :: _ =>
      if letter = ':' || letter = ')' then
        match items.getLast? with
        | some { flag := none, span } => fail .negationLast span
        | _ => return items
      else
        let flag ← if letter = '-' then pure none else
          match Flag.ofLetter? letter with
          | some flag => pure (some flag)
          | none => fail .flagUnknown span
        match items.find? fun item => item.flag == flag with
        | some item =>
          failTwice (if flag.isNone then .negationTwice else .flagTwice) span item.span
        | none =>
          advance 1
          flagItems (items ++ [{ flag, span }]) bound

def groupName : Reader Unit := do
  let start ← position
  let text ← rest
  let name := text.takeWhile (· != '>')
  match name.zipIdx.find? fun (char, index) => !isNameChar (index == 0) char with
  | some (_, index) => fail .nameChar ⟨start + index, start + index + 1⟩
  | none =>
    advance name.length
    if (← rest).isEmpty then fail .nameCut (← here)
    advance 1
    if name.isEmpty then fail .nameEmpty ⟨start, start⟩
    let span : Span := ⟨start, start + name.length⟩
    let cursor ← get
    match cursor.names.lookup name with
    | some earlier => failTwice .nameTaken span earlier
    | none => set { cursor with names := (name, span) :: cursor.names }

def enter (group : Group) (groups : List Group) : Reader (List Group × Branch) :=
  return (group :: groups, { start := ← position })

def numbered (group : Group) : Reader Group := do
  let cursor ← get
  set { cursor with numbered := cursor.numbered + 1 }
  return { group with number := some cursor.numbered }

/-- What an opening parenthesis begins: a group, or a change of flags up to the end of the group
around it. -/
def openGroup (groups : List Group) (branch : Branch) : Reader (List Group × Branch) := do
  let start ← onNext
  let outside ← flags
  let group : Group := { start, outer := branch, flags := outside, number := none }
  step
  if ← takeAny ["?=", "?!", "?<=", "?<!"] then
    fail .lookAround (← since start.start)
  let inner ← here
  if ← takeAny ["?P<", "?<"] then
    let group ← numbered group
    groupName
    enter group groups
  else if ← takeIf "?" then
    if (← rest).isEmpty then fail .groupUnclosed start
    let items ← flagItems [] (← rest)
    let isClosed := (← rest).head? = some ')'
    advance 1
    if isClosed && items.isEmpty then fail .nothingToRepeat inner
    setFlags (outside.apply items)
    if isClosed then
      return (groups, branch.add { pattern := none, span := ← since start.start })
    else enter group groups
  else enter (← numbered group) groups

def closeGroup (groups : List Group) (branch : Branch) : Reader (List Group × Branch) := do
  match groups with
  | [] => fail .groupUnopened (← onNext)
  | opened :: groups =>
    setFlags opened.flags
    let (inner, nesting) := branch.whole (← position)
    advance 1
    let span ← since opened.start.start
    let pattern :=
      match opened.number with
      | some number => group number inner
      | none => inner
    return (groups, opened.outer.add { pattern, span, nesting := nesting.within span })

/-! ### Repetitions -/

/-- A number, or why there is none. White space around it does not count. -/
def decimal : Reader (Except Mistake Nat) := do
  let _ ← takeWhile isBlank
  let start ← position
  let digits ← takeWhile Char.isDigit
  let span ← since start
  let _ ← takeWhile isBlank
  let value := numberBelow decimalLimit 10 (digits.map fun digit => digit.toNat - '0'.toNat)
  if digits.isEmpty then return .error { kind := .decimalMissing, span }
  else if decimalLimit ≤ value then return .error { kind := .decimalTooLarge, span }
  else return .ok value

/-- The part that a repetition applies to, with its pattern, and the branch without it. -/
def operand (branch : Branch) : Reader (Pattern × Part × Branch) := do
  match branch.parts with
  | part :: parts =>
    match part.pattern with
    | some pattern => return (pattern, part, { branch with parts })
    | none => fail .nothingToRepeat (← here)
  | [] => fail .nothingToRepeat (← here)

/-- The part with its repetition, of which all has been read. A question mark and the flag both turn
a preference for many turns into one for few. -/
def repeatPart (branch : Branch) (pattern : Pattern) (part : Part) (least : Nat) (most : Option Nat)
    (marked : Bool) : Reader Branch := do
  let span ← since part.span.start
  let few := marked != (← flags).swapsGreed
  return branch.add
    { pattern := repeated pattern least most few, span, nesting := part.nesting.within span }

def repeatSimply (branch : Branch) (least : Nat) (most : Option Nat) : Reader Branch := do
  let (pattern, part, branch) ← operand branch
  advance 1
  repeatPart branch pattern part least most (← takeIf "?")

def turns (start : Nat) : Reader (Nat × Option Nat) := do
  let least ← decimal
  match ← rest with
  | [] => fail .countUnclosed (← since start)
  | ',' :: _ =>
    step
    match ← rest with
    | [] => fail .countUnclosed (← since start)
    | '\x7d' :: _ => return (← least, none)
    | _ :: _ =>
      let least ← least
      let most ← decimal
      return (least, some (← most))
  | _ :: _ =>
    let count ← least
    return (count, some count)

def repeatCounted (branch : Branch) : Reader Branch := do
  let start ← position
  let (pattern, part, branch) ← operand branch
  step
  if (← rest).isEmpty then fail .countUnclosed (← since start)
  let (least, most) ← turns start
  if (← rest).head? != some '\x7d' then fail .countUnclosed (← since start)
  step
  let marked ← takeIf "?"
  if most.any (· < least) then fail .countReversed (← since start)
  repeatPart branch pattern part least most marked

/-! ### The whole -/

/-- Reads on inside the groups that are open. Every turn passes over a character at least. -/
def expressionFrom : Nat → List Group → Branch → Reader (Pattern × Nesting)
  | 0, _, branch => return branch.whole (← position)
  | fuel + 1, groups, branch => do
    skipIdle
    match ← rest with
    | [] =>
      match groups with
      | opened :: _ => fail .groupUnclosed opened.start
      | [] => return branch.whole (← position)
    | '(' :: _ =>
      let (groups, branch) ← openGroup groups branch
      expressionFrom fuel groups branch
    | ')' :: _ =>
      let (groups, branch) ← closeGroup groups branch
      expressionFrom fuel groups branch
    | '|' :: _ =>
      let stop ← position
      advance 1
      expressionFrom fuel groups (branch.nextAlternative stop)
    | '[' :: _ => do
      let operand ← bracket
      let pattern ← setPattern operand.set
      expressionFrom fuel groups
        (branch.add { pattern, span := operand.span, nesting := operand.nesting })
    | '?' :: _ => do expressionFrom fuel groups (← repeatSimply branch 0 (some 1))
    | '*' :: _ => do expressionFrom fuel groups (← repeatSimply branch 0 none)
    | '+' :: _ => do expressionFrom fuel groups (← repeatSimply branch 1 none)
    | '\x7b' :: _ => do expressionFrom fuel groups (← repeatCounted branch)
    | _ :: _ => do
      let (primitive, span) ← primitive
      expressionFrom fuel groups (branch.add { pattern := ← patternOf primitive span, span })

/-- Reads a whole pattern. What stands too deep counts after all that is wrong with its form. -/
def expression : Reader Pattern := do
  let (pattern, nesting) ← expressionFrom ((← rest).length + 1) [] { start := 0 }
  match nesting[depthLimit]? with
  | some span => fail .tooDeep span
  | none => return pattern

end Reader

inductive Refusal where
  | mistake (text : List Char) (mistake : Mistake)
  | tooLarge
  | wordTable
deriving DecidableEq, Repr

def Refusal.message : Refusal → String
  | .mistake text found => found.message text
  | .tooLarge => "Compiled regex exceeds size limit of " ++ toString Machine.roomLimit ++ " bytes."
  | .wordTable => "error building NFA"

/-- The pattern that a text describes. Of its two machines the one that reads forwards is made first,
and words beyond ASCII are refused on the way from that one to the other. -/
def ofText (text : List Char) : Except Refusal Pattern :=
  match Reader.expression.run { rest := text } with
  | .error mistake => .error (.mistake text mistake)
  | .ok (pattern, cursor) =>
    match cursor.refused with
    | some mistake => .error (.mistake text mistake)
    | none =>
      if Machine.isTooLarge false pattern then .error .tooLarge
      else if pattern.needsWordTable then .error .wordTable
      else if Machine.isTooLarge true pattern then .error .tooLarge
      else .ok pattern

end LeadingComment.Pattern
