import LeadingComment.Text.Utf8

namespace LeadingComment

/-- Variables of the environment, `none` where one is not set. -/
structure Environment where
  home : Option Bytes := none
  noColor : Option Bytes := none
  forceColor : Option Bytes := none
  terminalType : Option Bytes := none
  logFilter : Option Bytes := none
  backtrace : Option Bytes := none
deriving DecidableEq, Repr

inductive ColorMode where
  | auto | always | never
deriving DecidableEq, Repr

namespace ColorMode

def word : ColorMode → String
  | auto => "auto"
  | always => "always"
  | never => "never"

def all : List ColorMode := [auto, always, never]

def ofWord? (word : String) : Option ColorMode := all.find? fun mode => mode.word == word

/-- Letters outside ASCII have no case here. -/
def ofWordAnyCase? (word : String) : Option ColorMode :=
  all.find? fun mode => mode.word.toList == word.toList.map Char.toLower

/-- `NO_COLOR` wins over `FORCE_COLOR`, both by being set at all, and both over a dumb terminal. -/
def isColored (mode : ColorMode) (environment : Environment) (onTerminal : Bool) : Bool :=
  match mode with
  | always => true
  | never => false
  | auto =>
    if environment.noColor.isSome then false
    else if environment.forceColor.isSome then true
    else if environment.terminalType == some (utf8 "dumb") then false
    else onTerminal

end ColorMode
end LeadingComment
