import LeadingComment.CommandLine.Option

namespace LeadingComment.CommandLine

inductive Reply where
  /-- The help or the version that they ask for. -/
  | inform (text : String)
  /-- A report on what is wrong with them. -/
  | refuse (report : String)
deriving DecidableEq, Repr

/-- Whoever reads the arguments for the program. -/
structure Reader where
  read : List Bytes → Except Reply Arguments
  /-- The help that follows every report. -/
  help : String

end LeadingComment.CommandLine
