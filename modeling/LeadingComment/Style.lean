namespace LeadingComment

inductive Delimiters where
  /-- The comment goes on while each line starts with `opening`. -/
  | line (opening : String)
  /-- The comment ends with the first line that contains `closing`. -/
  | block (opening closing : String)
deriving DecidableEq, Repr

namespace Delimiters

def opening : Delimiters → String
  | line opening => opening
  | block opening _ => opening

def closing? : Delimiters → Option String
  | line _ => none
  | block _ closing => some closing

def isBlock : Delimiters → Bool
  | line _ => false
  | block _ _ => true

end Delimiters

structure Style where
  name : String
  delimiters : Delimiters
  languages : List String := []
deriving DecidableEq, Repr

namespace Style

def opening (style : Style) : String := style.delimiters.opening

def display (style : Style) : String :=
  match style.delimiters with
  | .line opening => style.name ++ " line (" ++ opening ++ ")"
  | .block opening closing => style.name ++ " block (" ++ opening ++ " ... " ++ closing ++ ")"

def names (style : Style) : List String := style.name :: style.languages

end Style
end LeadingComment
