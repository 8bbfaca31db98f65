import LeadingComment.CommandLine.Help
import LeadingComment.CommandLine.Option
import LeadingComment.Text.Visible

namespace LeadingComment.CommandLine

inductive CountError where
  | empty
  | notDigit
  | tooLarge
deriving DecidableEq, Repr

def CountError.message : CountError → String
  | empty => "cannot parse integer from empty string"
  | notDigit => "invalid digit found in string"
  | tooLarge => "number too large to fit in target type"

inductive UsageError where
  | badCount (value : String) (reason : CountError)
  | badColor (value : String)
  | valueMissing (option : Valued)
  | emptyFile
  | unknown (argument : String)
  | valueNotTaken (value : String) (action : Action)
  | notText
deriving DecidableEq, Repr

namespace UsageError

def wanting (target : String) : String :=
  "a value is required for '" ++ target ++ "' but none was supplied"

def reason : UsageError → String
  | badCount value reason =>
    "invalid value '" ++ visible value ++ "' for '" ++ Valued.display .lines ++ "': " ++ reason.message
  | badColor value =>
    if value.isEmpty then wanting (Valued.display .color)
    else "invalid value '" ++ visible value ++ "' for '" ++ Valued.display .color ++ "'"
  | valueMissing option => wanting option.display
  | emptyFile => wanting "[FILES]..."
  | unknown argument => "unexpected argument '" ++ visible argument ++ "' found"
  | valueNotTaken value action =>
    "unexpected value '" ++ visible value ++ "' for '--" ++ action.long
      ++ "' found; no more were expected"
  | notText => "invalid UTF-8 was detected in one or more arguments"

def message (error : UsageError) : String := "error: " ++ error.reason

/-- What the report adds to the message. -/
def advice : UsageError → String
  | badCount .. | valueMissing .lines | emptyFile => ""
  | badColor _ | valueMissing .color => "\n  [possible values: auto, always, never]"
  | unknown argument =>
    "\n\n  tip: to pass '" ++ visible argument ++ "' as a value, use '-- " ++ visible argument
      ++ "'\n\n" ++ usageLine
  | valueNotTaken .. | notText => "\n\n" ++ usageLine

def report (error : UsageError) : String :=
  error.message ++ error.advice ++ "\n\nFor more information, try '--help'.\n"

end UsageError
end LeadingComment.CommandLine
