namespace LeadingComment

/-- The parts between the marks, empty ones included. -/
def splitAt (mark : Char) (text : List Char) : List (List Char) :=
  text.foldr (fun char parts =>
    match parts with
    | [] => [[char]]
    | part :: later => if char = mark then [] :: part :: later else (char :: part) :: later) [[]]

end LeadingComment
