namespace LeadingComment

inductive Mode where
  /-- The leading comment, in the style of the first line. -/
  | comment
  /-- The first `count` lines. -/
  | head (count : Nat)
  /-- Every line. -/
  | cat
deriving DecidableEq, Repr

/-- The modes that reports tell apart. -/
inductive ReportMode where
  | comment | head | cat
deriving DecidableEq, Repr

def ReportMode.word : ReportMode → String
  | comment => "comment"
  | head => "head"
  | cat => "cat"

namespace Mode

/-- Asking for the whole file wins; zero lines are no request. -/
def ofFlags (cat : Bool) (lines : Nat) : Mode :=
  if cat then .cat else if lines = 0 then .comment else .head lines

def reportMode : Mode → ReportMode
  | comment => .comment
  | head _ => .head
  | cat => .cat

/-- The form that log records use. -/
def label : Mode → String
  | comment => "Comment"
  | head count => "Head(" ++ toString count ++ ")"
  | cat => "Cat"

end Mode
end LeadingComment
