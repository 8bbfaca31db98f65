import LeadingComment.Fault

namespace LeadingComment

inductive Json where
  | text (value : String)
  | list (items : List Json)
  | object (fields : List (String × Json))
  /-- A value that has no written form; writing stops where it would stand. -/
  | unwritable (fault : Fault)

/-- Text to be written, in pieces, and the fault that stops it if it cannot be completed. -/
structure Draft where
  pieces : List String := []
  stop : Option Fault := none
deriving DecidableEq, Repr

namespace Draft

def text (draft : Draft) : String := String.join draft.pieces

def put (piece : String) (draft : Draft) : Draft := { draft with pieces := piece :: draft.pieces }

end Draft

namespace Json

def hexDigit (value : Nat) : Char := "0123456789abcdef".toList.getD value '0'

/-- Quotes, backslashes and control characters are escaped, nothing else. -/
def escape (char : Char) : List Char :=
  let code := char.toNat
  if char = '"' then ['\\', '"']
  else if char = '\\' then ['\\', '\\']
  else if code = 8 then ['\\', 'b']
  else if code = 9 then ['\\', 't']
  else if code = 10 then ['\\', 'n']
  else if code = 12 then ['\\', 'f']
  else if code = 13 then ['\\', 'r']
  else if code < 0x20 then ['\\', 'u', '0', '0', hexDigit (code / 16), hexDigit (code % 16)]
  else [char]

def quote (value : String) : String :=
  String.ofList ('"' :: (value.toList.flatMap escape ++ ['"']))

/-- A new line at a level of nesting. -/
def lineBreak (level : Nat) : String := String.ofList ('\n' :: List.replicate (2 * level) ' ')

mutual

/-- A value that stands at a level of nesting, in front of what follows it. Nothing follows a value that
cannot be written. -/
def render (level : Nat) (rest : Draft) : Json → Draft
  | text value => rest.put (quote value)
  | list [] => rest.put "[]"
  | list (item :: items) =>
    let last := (rest.put "]").put (lineBreak level)
    let first := render (level + 1) (renderItems (level + 1) last items) item
    (first.put (lineBreak (level + 1))).put "["
  | object [] => rest.put "\x7b\x7d"
  | object ((key, value) :: fields) =>
    let last := (rest.put "\x7d").put (lineBreak level)
    let first := render (level + 1) (renderFields (level + 1) last fields) value
    (first.put (lineBreak (level + 1) ++ quote key ++ ": ")).put "\x7b"
  | unwritable fault => { stop := some fault }

def renderItems (level : Nat) (rest : Draft) : List Json → Draft
  | [] => rest
  | item :: items =>
    (render level (renderItems level rest items) item).put ("," ++ lineBreak level)

def renderFields (level : Nat) (rest : Draft) : List (String × Json) → Draft
  | [] => rest
  | (key, value) :: fields =>
    (render level (renderFields level rest fields) value).put
      ("," ++ lineBreak level ++ quote key ++ ": ")

end

/-- A document is one value and a newline. -/
def document (value : Json) : Draft := render 0 { pieces := ["\n"] } value

end Json
end LeadingComment
