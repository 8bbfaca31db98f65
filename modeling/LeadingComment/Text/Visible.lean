import LeadingComment.Text.Utf8

namespace LeadingComment
namespace Visible

inductive Phase where
  | text
  | escape
  /-- After a blank or a punctuation mark that follows an escape. -/
  | escapeTail
  | control
  | deviceEntry
  | deviceParameter
  | deviceTail
  /-- The content of a device control string, or of a string that has no meaning. -/
  | content
  | command
deriving DecidableEq, Repr

/-- Tab, newline, form feed and carriage return are shown where they end a sequence. -/
def isBlankControl (code : Nat) : Bool := code == 9 || code == 10 || code == 12 || code == 13

def isWithin (low high code : Nat) : Bool := low ≤ code && code ≤ high

/-- A string ends at the one-byte string terminator, which can only be found inside a character. -/
def holdsTerminator (char : Char) : Bool := (Utf8.encodeChar char).contains 0x9C

namespace Phase

def afterEscape (code : Nat) : Phase :=
  if isBlankControl code then text
  else if isWithin 0x20 0x2F code then escapeTail
  else if code = 0x5B then control
  else if code = 0x5D then command
  else if code = 0x50 then deviceEntry
  else if code = 0x58 || code = 0x5E || code = 0x5F then content
  else if isWithin 0x30 0x7E code then text
  else escape

/-- Where a device control string goes on; `parameters` are the codes that may stand here. -/
def inDevice (stay : Phase) (toTail : Bool) (parameters contents : Nat → Bool) (code : Nat) : Phase :=
  if toTail && isWithin 0x20 0x2F code then deviceTail
  else if parameters code then deviceParameter
  else if contents code then content
  else stay

/-- An escape begins a new sequence wherever it stands, and two controls break any sequence off. -/
def next (phase : Phase) (char : Char) : Phase :=
  let code := char.toNat
  if code = 0x1B then escape
  else if code = 0x18 || code = 0x1A then text
  else
    match phase with
    | text => text
    | escape => afterEscape code
    | escapeTail => if isBlankControl code || isWithin 0x30 0x7E code then text else escapeTail
    | control => if isBlankControl code || isWithin 0x40 0x7E code then text else control
    | deviceEntry =>
      inDevice deviceEntry true (isWithin 0x30 0x3F) (isWithin 0x40 0x7E) code
    | deviceParameter =>
      inDevice deviceParameter true (fun _ => false) (isWithin 0x3C 0x7E) code
    | deviceTail => inDevice deviceTail false (fun _ => false) (isWithin 0x30 0x7E) code
    | content => if holdsTerminator char then text else content
    | command => if code = 7 then text else command

def shows (phase : Phase) (char : Char) : Bool :=
  let code := char.toNat
  match phase with
  | text => isBlankControl code || (0x20 ≤ code && code != 0x7F)
  | escape | escapeTail | control => isBlankControl code
  | deviceEntry | deviceParameter | deviceTail | content | command => false

end Phase

def readFrom (phase : Phase) : List Char → List Char
  | [] => []
  | char :: chars =>
    let later := readFrom (phase.next char) chars
    if phase.shows char then char :: later else later

end Visible

/-- What is left of a text when its control sequences and control characters are taken out. -/
def visible (text : String) : String := String.ofList (Visible.readFrom .text text.toList)

end LeadingComment
