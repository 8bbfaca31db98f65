import LeadingComment.Color
import LeadingComment.Path

namespace LeadingComment.CommandLine

inductive Switch where
  | cat | quiet | enumerate | listing | json
deriving DecidableEq, Repr

inductive Valued where
  | lines | color
deriving DecidableEq, Repr

inductive Action where
  | switch (option : Switch)
  | valued (option : Valued)
  | help
  | version
deriving DecidableEq, Repr

namespace Switch

def long : Switch → String
  | cat => "cat"
  | quiet => "quite"
  | enumerate => "enum"
  | listing => "lang"
  | json => "json"

end Switch

namespace Valued

def long : Valued → String
  | lines => "lines"
  | color => "color"

/-- The option as messages show it, with the name of its value. -/
def display : Valued → String
  | lines => "--lines <N>"
  | color => "--color <WHEN>"

end Valued

namespace Action

def long : Action → String
  | switch option => option.long
  | valued option => option.long
  | help => "help"
  | version => "version"

/-- Long names have to be given in full; one switch has two of them. -/
def ofLong? (name : String) : Option Action :=
  if name = "quiet" then some (.switch .quiet)
  else
    [.switch .cat, .switch .quiet, .switch .enumerate, .switch .listing, .switch .json,
      .valued .lines, .valued .color, .help, .version].find? fun action => action.long == name

def ofShort? : Char → Option Action
  | 'n' => some (.valued .lines)
  | 'c' => some (.switch .cat)
  | 'q' => some (.switch .quiet)
  | 'e' => some (.switch .enumerate)
  | 'h' => some .help
  | 'V' => some .version
  | _ => none

end Action

/-- Line counts are smaller. -/
def countLimit : Nat := 18446744073709551616

structure Arguments where
  files : List Path := []
  lines : Nat := 0
  cat : Bool := false
  quiet : Bool := false
  numbering : Bool := false
  listing : Bool := false
  json : Bool := false
  color : ColorMode := .auto
deriving DecidableEq, Repr

def Arguments.set (arguments : Arguments) : Switch → Arguments
  | .cat => { arguments with cat := true }
  | .quiet => { arguments with quiet := true }
  | .enumerate => { arguments with numbering := true }
  | .listing => { arguments with listing := true }
  | .json => { arguments with json := true }

end LeadingComment.CommandLine
