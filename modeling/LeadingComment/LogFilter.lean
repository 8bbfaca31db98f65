import LeadingComment.Note
import LeadingComment.Pattern.Expression
import LeadingComment.Pattern.Occurrence

/-! Which log records are shown. A filter has directives, each a level or a level for the channels
that start with a name, of which the most specific one that applies decides; and it may have a
pattern that has to occur in what is recorded. -/
namespace LeadingComment

/-- Levels from the most silent to the most talkative. -/
inductive LogLevel where
  | off | error | warn | info | debug | trace
deriving DecidableEq, Repr

namespace LogLevel

def rank : LogLevel → Nat
  | off => 0
  | error => 1
  | warn => 2
  | info => 3
  | debug => 4
  | trace => 5

def word : LogLevel → String
  | off => "off"
  | error => "error"
  | warn => "warn"
  | info => "info"
  | debug => "debug"
  | trace => "trace"

def ofWord? (word : List Char) : Option LogLevel :=
  [off, error, warn, info, debug, trace].find? fun level =>
    level.word.toList == word.map Char.toLower

end LogLevel

structure LogDirective where
  /-- The beginning of the names of the channels it is about; nothing if it is about all. -/
  channel : Option (List Char) := none
  level : LogLevel
deriving DecidableEq, Repr

namespace LogDirective

def appliesTo (directive : LogDirective) (channel : String) : Bool :=
  directive.channel.all fun start => start.isPrefixOf channel.toList

/-- How closely it tells the channels that it is about. -/
def closeness (directive : LogDirective) : Nat := (directive.channel.map List.length).getD 0

end LogDirective

/-- What is wrong with the text of a filter, which is used without the part in question. -/
inductive LogWarning where
  | tooManyParts (text : List Char)
  | badItem (text : List Char)
  | badPattern (refusal : Pattern.Refusal)
deriving DecidableEq, Repr

def LogWarning.message : LogWarning → String
  | tooManyParts text =>
    "warning: invalid logging spec '" ++ String.ofList text ++ "', ignoring it (too many '/'s)"
  | badItem text => "warning: invalid logging spec '" ++ String.ofList text ++ "', ignoring it"
  | badPattern refusal => "warning: invalid regex filter - " ++ refusal.message

structure LogFilter where
  /-- No two of them are about the same channel. -/
  directives : List LogDirective
  /-- What has to occur in the text of a record. -/
  pattern : Option Pattern := none
deriving DecidableEq, Repr

namespace LogFilter

/-- Warnings and errors, of which this program has none. -/
def standard : LogFilter := { directives := [{ level := .warn }] }

/-- A new directive takes the place of one about the same channel, or else comes last. -/
def insert (directive : LogDirective) : List LogDirective → List LogDirective
  | [] => [directive]
  | first :: later =>
    if first.channel = directive.channel then directive :: later
    else first :: insert directive later

/-- A lone word is a level if it can be, or else a channel that is shown in full, as is a channel
with nothing behind its equals sign. -/
def readItem (item : List Char) : Except LogWarning LogDirective :=
  match splitAt '=' item with
  | [word] =>
    match LogLevel.ofWord? word with
    | some level => .ok { level }
    | none => .ok { channel := some word, level := .trace }
  | [channel, word] =>
    let word := trim word
    match LogLevel.ofWord? word with
    | some level => .ok { channel := some channel, level }
    | none =>
      if word.isEmpty then .ok { channel := some channel, level := .trace }
      else .error (.badItem word)
  | _ => .error (.badItem item)

def readItems (items : List (List Char)) : List LogDirective × List LogWarning :=
  let items := (items.map trim).filter fun item => !item.isEmpty
  items.foldl (fun (directives, warnings) item =>
    match readItem item with
    | .ok directive => (insert directive directives, warnings)
    | .error warning => (directives, warnings ++ [warning])) ([], [])

/-- Without any directive only errors are shown. -/
def ofDirectives (directives : List LogDirective) (pattern : Option Pattern) : LogFilter where
  directives := if directives.isEmpty then [{ level := .error }] else directives
  pattern

/-- A list of directives, and behind a slash the pattern that has to occur. -/
def ofText (text : List Char) : LogFilter × List LogWarning :=
  match splitAt '/' text with
  | [items, pattern] =>
    let (directives, warnings) := readItems (splitAt ',' items)
    match Pattern.ofText pattern with
    | .ok pattern => (ofDirectives directives (some pattern), warnings)
    | .error refusal => (ofDirectives directives none, warnings ++ [.badPattern refusal])
  | [items] =>
    let (directives, warnings) := readItems (splitAt ',' items)
    (ofDirectives directives none, warnings)
  | _ => (ofDirectives [] none, [.tooManyParts text])

/-- The directive that tells a channel most closely decides, the last of those that are equal. -/
def levelFor (filter : LogFilter) (channel : String) : LogLevel :=
  let applying := filter.directives.filter fun directive => directive.appliesTo channel
  let best := applying.foldl (fun (best : Option LogDirective) directive =>
    match best with
    | none => some directive
    | some other =>
      if other.closeness ≤ directive.closeness then some directive else some other) none
  (best.map LogDirective.level).getD .off

/-- Every record of this program is at level debug. -/
def shows (filter : LogFilter) (note : Note) : Bool :=
  LogLevel.debug.rank ≤ (filter.levelFor note.channel).rank
    && filter.pattern.all fun pattern => pattern.occursIn note.text.toList

def indented (text : String) : String :=
  String.ofList (text.toList.flatMap fun char =>
    if char = '\n' then ['\n', ' ', ' ', ' ', ' '] else [char])

def line (start : String) (note : Note) : String :=
  start ++ "DEBUG " ++ note.channel ++ "] " ++ indented note.text ++ "\n"

/-- The records that are shown. Of those that are the same only the first one is looked at. -/
def shownAmong (filter : LogFilter) (notes : List Note) : List Note :=
  let shown := notes.eraseDups.filter filter.shows
  notes.filter shown.contains

theorem shownAmong_eq_filter (filter : LogFilter) (notes : List Note) :
    filter.shownAmong notes = notes.filter filter.shows := by
  apply List.filter_congr
  intro note member
  simp [List.contains_eq_mem, member]

/-- The records that are shown, each behind the same `start`. -/
def lines (filter : LogFilter) (start : String) (notes : List Note) : String :=
  String.join ((filter.shownAmong notes).map (line start))

end LogFilter
end LeadingComment
