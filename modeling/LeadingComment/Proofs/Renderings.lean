import LeadingComment.CommandLine.Reader

/-! Arguments that stand for what one asks for. Items may be rendered in any of the accepted spellings. What
is taken for granted of whoever reads the arguments is how one more of them is read
(`Reader.FollowsOptions`). -/
namespace LeadingComment.CommandLine

def dash : UInt8 := 45

/-- The name of a file as an argument: no option begins like it. -/
structure FileName where
  bytes : Bytes
  nonempty : bytes ≠ []
  undashed : bytes.head? ≠ some dash

/-- What one asks for on a command line. -/
inductive Item where
  | file (name : FileName)
  | switch (option : Switch)
  | lines (count : Fin countLimit)
  | color (mode : ColorMode)

namespace Item

def file? : Item → Option Path
  | file name => some ⟨name.bytes⟩
  | _ => none

def count? : Item → Option Nat
  | lines count => some count
  | _ => none

def color? : Item → Option ColorMode
  | color mode => some mode
  | _ => none

def asksFor (wanted : Switch) : Item → Bool
  | switch option => option == wanted
  | _ => false

end Item

/-- What items amount to: all the files, each switch that is asked for, and the last of the values. -/
def Arguments.ofItems (items : List Item) : Arguments where
  files := items.filterMap Item.file?
  lines := (items.filterMap Item.count?).getLast?.getD 0
  cat := items.any (Item.asksFor .cat)
  quiet := items.any (Item.asksFor .quiet)
  numbering := items.any (Item.asksFor .enumerate)
  listing := items.any (Item.asksFor .listing)
  json := items.any (Item.asksFor .json)
  color := (items.filterMap Item.color?).getLast?.getD .auto

/-- One more item: a file joins those before it, and a value takes the place of the one before it. -/
def Arguments.add (arguments : Arguments) : Item → Arguments
  | .file name => { arguments with files := arguments.files ++ [⟨name.bytes⟩] }
  | .switch option => arguments.set option
  | .lines count => { arguments with lines := count }
  | .color mode => { arguments with color := mode }

/-! ## Spellings -/

structure IsDecimal (count : Nat) (digits : List Char) : Prop where
  nonempty : digits ≠ []
  decimal : ∀ digit ∈ digits, digit.isDigit = true
  value : Nat.ofDigitChars 10 digits 0 = count

/-- The texts that stand for a count. -/
inductive Numeral (count : Nat) : List Char → Prop where
  | plain {digits : List Char} (decimal : IsDecimal count digits) : Numeral count digits
  | signed {digits : List Char} (decimal : IsDecimal count digits) : Numeral count ('+' :: digits)

/-- A text that an option takes as its value, and the item this makes. -/
inductive Gives : Valued → List Char → Item → Prop where
  | count {count : Fin countLimit} {digits : List Char} (numeral : Numeral count digits) :
      Gives .lines digits (.lines count)
  | word (mode : ColorMode) : Gives .color mode.word.toList (.color mode)

namespace Switch

/-- One switch has two long names. -/
def longNames : Switch → List String
  | quiet => ["quite", "quiet"]
  | option => [option.long]

def letter? : Switch → Option Char
  | cat => some 'c'
  | quiet => some 'q'
  | enumerate => some 'e'
  | listing | json => none

def spellings (option : Switch) : List Bytes :=
  option.longNames.map (fun name => utf8 ("--" ++ name)) ++
    option.letter?.toList.map fun letter => Utf8.encode ['-', letter]

theorem eq_of_mem_longNames {option : Switch} {name : String} (known : name ∈ option.longNames) :
    name = option.long ∨ option = .quiet ∧ name = "quiet" := by
  cases option <;> simpa [longNames, long] using known

theorem ne_nil_of_mem_longNames {option : Switch} {name : String} (known : name ∈ option.longNames) :
    name.toList ≠ [] := by
  rcases eq_of_mem_longNames known with rfl | ⟨rfl, rfl⟩
  · cases option <;> decide
  · decide

theorem ofShort?_letter {option : Switch} {letter : Char} (known : option.letter? = some letter) :
    Action.ofShort? letter = some (.switch option) := by
  cases option <;> cases known <;> rfl

theorem isSome_ofShort? {option : Switch} {letter : Char} (known : option.letter? = some letter) :
    (Action.ofShort? letter).isSome :=
  Option.isSome_of_eq_some (ofShort?_letter known)

end Switch

namespace Valued

theorem long_ne_nil (option : Valued) : option.long.toList ≠ [] := by
  cases option <;> decide

def letter? : Valued → Option Char
  | lines => some 'n'
  | color => none

/-- The ways to give an option a value: in an argument of its own, behind an equals sign, or, behind its
letter, at once. -/
def spellings (option : Valued) (value : List Char) : List (List Bytes) :=
  [[utf8 ("--" ++ option.long), Utf8.encode value],
    [utf8 ("--" ++ option.long ++ "=" ++ String.ofList value)]] ++
  option.letter?.toList.flatMap fun letter =>
    [[Utf8.encode ['-', letter], Utf8.encode value], [Utf8.encode ('-' :: letter :: value)],
      [Utf8.encode ('-' :: letter :: '=' :: value)]]

end Valued

/-- Arguments that stand for items at once. Switches with a letter may share an argument, and a line
count may come behind them. -/
inductive Phrase : List Item → List Bytes → Prop where
  | file (name : FileName) : Phrase [.file name] [name.bytes]
  | long {option : Switch} {name : String} (known : name ∈ option.longNames) :
      Phrase [.switch option] [utf8 ("--" ++ name)]
  | longApart {option : Valued} {value : List Char} {item : Item} (gives : Gives option value item) :
      Phrase [item] [utf8 ("--" ++ option.long), Utf8.encode value]
  | longJoined {option : Valued} {value : List Char} {item : Item} (gives : Gives option value item) :
      Phrase [item] [utf8 ("--" ++ option.long ++ "=" ++ String.ofList value)]
  | short {options : List Switch} {letters : List Char} (nonempty : letters ≠ [])
      (known : options.map Switch.letter? = letters.map some) :
      Phrase (options.map .switch) [Utf8.encode ('-' :: letters)]
  | shortApart {options : List Switch} {letters value : List Char} {item : Item}
      (known : options.map Switch.letter? = letters.map some) (gives : Gives .lines value item) :
      Phrase (options.map .switch ++ [item]) [Utf8.encode ('-' :: (letters ++ ['n'])), Utf8.encode value]
  | shortJoined {options : List Switch} {letters value : List Char} {item : Item}
      (known : options.map Switch.letter? = letters.map some) (gives : Gives .lines value item) :
      Phrase (options.map .switch ++ [item]) [Utf8.encode ('-' :: (letters ++ 'n' :: value))]
  | shortEquals {options : List Switch} {letters value : List Char} {item : Item}
      (known : options.map Switch.letter? = letters.map some) (gives : Gives .lines value item) :
      Phrase (options.map .switch ++ [item]) [Utf8.encode ('-' :: (letters ++ 'n' :: '=' :: value))]

/-- Arguments that stand for items in order. -/
inductive Rendering : List Item → List Bytes → Prop where
  | nil : Rendering [] []
  | cons {items later : List Item} {arguments more : List Bytes} (phrase : Phrase items arguments)
      (rest : Rendering later more) : Rendering (items ++ later) (arguments ++ more)

/-! ## Readers -/

namespace Reader

/-- Behind arguments that are complete and do not end the options, these arguments stand for these items. -/
def Adds (reader : Reader) (more : List Bytes) (items : List Item) : Prop :=
  ∀ before arguments, utf8 "--" ∉ before → reader.read before = .ok arguments →
    reader.read (before ++ more) = .ok (items.foldl Arguments.add arguments)

/-- What is known of a reader: how it takes one more argument, or an option and its value. -/
structure FollowsOptions (reader : Reader) : Prop where
  defaults : reader.read [] = .ok {}
  /-- What begins with no dash is a file. -/
  file : ∀ name : FileName, reader.Adds [name.bytes] [.file name]
  switch : ∀ {option : Switch} {spelled : Bytes},
    spelled ∈ option.spellings → reader.Adds [spelled] [.switch option]
  value : ∀ {option : Valued} {value : List Char} {item : Item} {spelled : List Bytes},
    Gives option value item → spelled ∈ option.spellings value → reader.Adds spelled [item]
  /-- The letter of a switch may stand in front of other letters as well as in an argument of its own. -/
  cluster : ∀ {option : Switch} {letter next : Char} {later : List Char} {before after : List Bytes}
    {arguments : Arguments},
    option.letter? = some letter → (Action.ofShort? next).isSome → utf8 "--" ∉ before →
    reader.read (before ++
      Utf8.encode ['-', letter] :: Utf8.encode ('-' :: next :: later) :: after) = .ok arguments →
    reader.read (before ++ Utf8.encode ('-' :: letter :: next :: later) :: after) = .ok arguments

end Reader
end LeadingComment.CommandLine
