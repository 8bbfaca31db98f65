import LeadingComment.Sink
import LeadingComment.Writer

namespace LeadingComment

namespace Ansi

def escape : Char := Char.ofNat 27

def sequence (code : String) : String := String.singleton escape ++ "[" ++ code ++ "m"

def reset : String := sequence "0"

def number : List String := [reset, sequence "36"]

def banner : List String := [reset, sequence "1", sequence "33"]

/-- Escape sequences, where colors are shown. -/
def paint (colored : Bool) (sequences : List String) : List String := if colored then sequences else []

end Ansi

structure Console (Target : Type) where
  output : Target
  numbering : Bool
  /-- Lines handed over so far, refused ones included. -/
  emitted : Nat := 0

namespace Console

def bannerWidth : Nat := 60

/-- The header before each file; the colors are reset before its second line ends. -/
def bannerPieces (colored : Bool) (path : Path) : List String :=
  Ansi.paint colored Ansi.banner
    ++ [String.ofList (List.replicate bannerWidth '*'), "\n", "*** ", path.display]
    ++ Ansi.paint colored [Ansi.reset] ++ ["\n", "\n"]

/-- A number takes at least four places. -/
def numberText (number : Nat) : String :=
  "[" ++ String.ofList (List.leftpad 4 ' ' (toString number).toList) ++ "]"

def label (colored : Bool) (number : Nat) : List String :=
  Ansi.paint colored Ansi.number ++ [numberText number] ++ Ansi.paint colored [Ansi.reset] ++ [" "]

variable {Target : Type} [Writer Target]

/-- The line counts before anything is written. -/
def emit (line : String) (console : Console Target) : Option Fault × Console Target :=
  let number := console.emitted + 1
  let start := if console.numbering then label (Writer.colored console.output) number else []
  let (fault, output) := Writer.writePieces console.output (start ++ [line, "\n"])
  (fault, { console with output, emitted := number })

def separate (console : Console Target) : Option Fault × Console Target :=
  let (fault, output) := Writer.writeText console.output "\n"
  (fault, { console with output })

def sink : Sink (Console Target) := { emit, separator := separate }

end Console

namespace Writer

variable {Target : Type} [Writer Target]

def writeBanner (target : Target) (path : Path) : Option Fault × Target :=
  writePieces target (Console.bannerPieces (colored target) path)

def writeNames (target : Target) (names : List String) : Option Fault × Target :=
  writePieces target (names.flatMap fun name => [name, "\n"])

end Writer
end LeadingComment
