import LeadingComment.Style
import LeadingComment.Text.Blank
import LeadingComment.Text.Token

namespace LeadingComment

structure Catalog where
  lineStyles : List Style
  blockStyles : List Style
deriving DecidableEq, Repr

namespace Catalog

def styles (catalog : Catalog) : List Style := catalog.lineStyles ++ catalog.blockStyles

/-- Longer openings first, equally long ones by their bytes. -/
def precedes (left right : Style) : Bool :=
  if Token.size left.opening = Token.size right.opening then
    Token.atMost left.opening right.opening
  else decide (Token.size right.opening < Token.size left.opening)

def insertStyle (style : Style) : List Style → List Style
  | [] => [style]
  | first :: later =>
    if precedes style first then style :: first :: later
    else first :: insertStyle style later

/-- Styles with the same opening keep the order of the tables, since each is put in front of those
that come after it there. -/
def byOpening (catalog : Catalog) : List Style := catalog.styles.foldr insertStyle []

/-- The style whose opening starts the line, blanks around the line left aside. -/
def match? (catalog : Catalog) (line : List Char) : Option Style :=
  let text := trim line
  if text.isEmpty then none
  else catalog.byOpening.find? fun style => Token.starts style.opening.toList text

def findLine? (catalog : Catalog) (name : String) : Option Style :=
  catalog.lineStyles.find? fun style => style.name == name

def findBlock? (catalog : Catalog) (name : String) : Option Style :=
  catalog.blockStyles.find? fun style => style.name == name

def insertName (name : String) : List String → List String
  | [] => [name]
  | first :: later =>
    if name = first then first :: later
    else if Token.atMost name first then name :: first :: later
    else first :: insertName name later

/-- Every name of a style or language, once, in byte order. -/
def names (catalog : Catalog) : List String :=
  (catalog.styles.flatMap Style.names).foldr insertName []

def size (catalog : Catalog) : Nat := catalog.styles.length

def isEmpty (catalog : Catalog) : Bool := catalog.size == 0

end Catalog
end LeadingComment
