import LeadingComment.Mode
import LeadingComment.Path
import LeadingComment.Style

namespace LeadingComment

inductive Note where
  | started (mode : Mode) (files : Nat)
  | opening (path : Path)
  | finished (path : Path) (lines : Nat) (mode : Mode)
  | emptyInput
  | detected (style : Style)
  | unmatched
  | unclosed (style : Style)
deriving DecidableEq, Repr

namespace Note

def channel : Note → String
  | started _ _ => "headcomment"
  | opening _ | finished _ _ _ => "headcomment::runner"
  | emptyInput | detected _ | unmatched => "headcomment::detect"
  | unclosed _ => "headcomment::extract"

def text : Note → String
  | started mode files => mode.label ++ " over " ++ toString files ++ " file(s)"
  | opening path => "opening " ++ path.display
  | finished path lines mode =>
    path.display ++ ": " ++ toString lines ++ " line(s) in " ++ mode.label ++ " mode"
  | emptyInput => "empty input, nothing to detect"
  | detected style => "detected " ++ style.display
  | unmatched => "first line matches no comment style"
  | unclosed style => style.display ++ " comment not closed before end of input"

end Note
end LeadingComment
