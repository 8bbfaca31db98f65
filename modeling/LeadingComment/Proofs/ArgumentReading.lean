import LeadingComment.Proofs.StandardReader

namespace LeadingComment.CommandLine

/-! ## Items one after the other -/

theorem Arguments.ofItems_concat (items : List Item) (item : Item) :
    ofItems (items ++ [item]) = (ofItems items).add item := by
  cases item with
  | switch option =>
    cases option <;> simp [ofItems, add, set, Item.file?, Item.count?, Item.color?, Item.asksFor]
  | _ => simp [ofItems, add, Item.file?, Item.count?, Item.color?, Item.asksFor]

theorem Arguments.foldl_add (earlier items : List Item) :
    items.foldl add (ofItems earlier) = ofItems (earlier ++ items) := by
  induction items generalizing earlier with
  | nil => rw [List.append_nil, List.foldl_nil]
  | cons item items hyp => rw [List.foldl_cons, ← ofItems_concat, hyp, List.append_assoc, List.singleton_append]

namespace Reader

variable {reader : Reader}

theorem Adds.nil : reader.Adds [] [] := by
  intro before arguments _ read
  rwa [List.append_nil]

theorem Adds.append {more others : List Bytes} {items later : List Item} (first : reader.Adds more items)
    (unended : utf8 "--" ∉ more) (second : reader.Adds others later) :
    reader.Adds (more ++ others) (items ++ later) := by
  intro before arguments ahead read
  rw [← List.append_assoc, List.foldl_append]
  apply second
  · rw [List.mem_append]
    exact not_or.mpr ⟨ahead, unended⟩
  · exact first before arguments ahead read

end Reader

/-! ## No rendering ends the options -/

theorem encode_ne_end {chars : List Char} (other : chars ≠ ['-', '-']) : Utf8.encode chars ≠ utf8 "--" := by
  intro same
  have read := congrArg Utf8.decode? same
  rw [utf8, Utf8.decode?_encode, Utf8.decode?_encode] at read
  exact other (Option.some.inj read)

theorem letters_ne_end {letter : Char} (known : (Action.ofShort? letter).isSome) (later : List Char) :
    Utf8.encode ('-' :: letter :: later) ≠ utf8 "--" := by
  apply encode_ne_end
  rintro ⟨⟩
  cases known

theorem name_ne_end {name : String} (nonempty : name.toList ≠ []) : utf8 ("--" ++ name) ≠ utf8 "--" := by
  apply encode_ne_end
  rw [String.toList_append]
  intro same
  exact nonempty (List.append_right_eq_self.mp same)

theorem Gives.ne_end {option : Valued} {value : List Char} {item : Item} (gives : Gives option value item) :
    Utf8.encode value ≠ utf8 "--" := by
  obtain ⟨first, later, rfl, _, undashed, _⟩ := gives.head
  apply encode_ne_end
  rintro ⟨⟩
  exact undashed rfl

theorem FileName.ne_end (name : FileName) : name.bytes ≠ utf8 "--" := by
  intro same
  apply name.undashed
  rw [same]
  rfl

theorem Switch.letter_mem_spellings {option : Switch} {letter : Char} (known : option.letter? = some letter) :
    Utf8.encode ['-', letter] ∈ option.spellings :=
  List.mem_append_right _ (List.mem_map_of_mem (Option.mem_toList.mpr known))

theorem Switch.head_letters {options : List Switch} {letters : List Char}
    (known : options.map Switch.letter? = letters.map some) {next : Char}
    (opens : (Action.ofShort? next).isSome) (later : List Char) :
    ∃ first rest, letters ++ next :: later = first :: rest ∧ (Action.ofShort? first).isSome := by
  cases letters with
  | nil => exact ⟨next, later, rfl, opens⟩
  | cons letter letters =>
    obtain ⟨option, _, _, here, _⟩ := List.map_eq_cons_iff.mp known
    exact ⟨letter, _, rfl, isSome_ofShort? here⟩

theorem cluster_ne_end {options : List Switch} {letters : List Char}
    (known : options.map Switch.letter? = letters.map some) {next : Char}
    (opens : (Action.ofShort? next).isSome) (later : List Char) :
    Utf8.encode ('-' :: (letters ++ next :: later)) ≠ utf8 "--" := by
  obtain ⟨first, rest, begins, knows⟩ := Switch.head_letters known opens later
  rw [begins]
  exact letters_ne_end knows rest

namespace Reader

variable {reader : Reader}

/-- Letters of switches in front of a cluster add their switches to what the cluster adds. -/
theorem FollowsOptions.behind_letters (follows : reader.FollowsOptions) {options : List Switch}
    {letters : List Char} (known : options.map Switch.letter? = letters.map some) {next : Char}
    (opens : (Action.ofShort? next).isSome) {later : List Char} {after : List Bytes} {items : List Item}
    (adds : reader.Adds (Utf8.encode ('-' :: next :: later) :: after) items) :
    reader.Adds (Utf8.encode ('-' :: (letters ++ next :: later)) :: after) (options.map .switch ++ items) := by
  induction options generalizing letters with
  | nil =>
    obtain rfl := List.map_eq_nil_iff.mp known.symm
    exact adds
  | cons option options hyp =>
    obtain ⟨letter, letters, rfl, here, known⟩ := List.map_eq_cons_iff.mp known.symm
    have unended : utf8 "--" ∉ [Utf8.encode ['-', letter]] := by
      simpa using (letters_ne_end (Switch.isSome_ofShort? here.symm) []).symm
    -- As two arguments, the letter and what is left of the cluster add up; `cluster` puts them together.
    have apart := (follows.switch (Switch.letter_mem_spellings here.symm)).append unended (hyp known.symm)
    obtain ⟨first, rest, begins, knows⟩ := Switch.head_letters known.symm opens later
    rw [begins] at apart
    rw [List.cons_append, begins]
    intro before arguments ahead read
    exact follows.cluster here.symm knows ahead (apart before arguments ahead read)

end Reader

namespace Phrase

variable {items : List Item} {arguments : List Bytes}

theorem unended (phrase : Phrase items arguments) : utf8 "--" ∉ arguments := by
  cases phrase with
  | file name => simpa using name.ne_end.symm
  | long known => simpa using (name_ne_end (Switch.ne_nil_of_mem_longNames known)).symm
  | @longApart option value item gives =>
    simpa using ⟨(name_ne_end option.long_ne_nil).symm, gives.ne_end.symm⟩
  | @longJoined option value item gives =>
    have nonempty : (option.long ++ ("=" ++ String.ofList value)).toList ≠ [] := by simp
    rw [String.append_assoc, String.append_assoc]
    simpa using (name_ne_end nonempty).symm
  | @short options letters nonempty known =>
    obtain ⟨letter, letters, rfl⟩ := List.exists_cons_of_ne_nil nonempty
    obtain ⟨option, _, _, here, _⟩ := List.map_eq_cons_iff.mp known
    simpa using (letters_ne_end (Switch.isSome_ofShort? here) letters).symm
  | shortApart known gives =>
    have letters := @cluster_ne_end _ _ known 'n' rfl []
    simpa using ⟨letters.symm, gives.ne_end.symm⟩
  | @shortJoined _ _ value _ known gives => simpa using (cluster_ne_end known rfl value).symm
  | @shortEquals _ _ value _ known gives => simpa using (cluster_ne_end known rfl ('=' :: value)).symm

theorem adds {reader : Reader} (follows : reader.FollowsOptions) (phrase : Phrase items arguments) :
    reader.Adds arguments items := by
  cases phrase with
  | file name => exact follows.file name
  | long known => exact follows.switch (List.mem_append_left _ (List.mem_map_of_mem known))
  | longApart gives => exact follows.value gives (.head _)
  | longJoined gives => exact follows.value gives (.tail _ (.head _))
  | @short options letters nonempty known =>
    obtain ⟨first, last, rfl⟩ : ∃ first last, letters = first ++ [last] :=
      ⟨_, _, (List.dropLast_concat_getLast nonempty).symm⟩
    rw [List.map_append] at known
    obtain ⟨_, _, rfl, front, back⟩ := List.map_eq_append_iff.mp known
    obtain ⟨option, rfl, spells⟩ := List.map_eq_singleton_iff.mp back
    rw [List.map_append]
    apply follows.behind_letters front (Switch.isSome_ofShort? spells)
    exact follows.switch (Switch.letter_mem_spellings spells)
  | shortApart known gives =>
    apply follows.behind_letters known rfl
    exact follows.value gives (.tail _ (.tail _ (.head _)))
  | shortJoined known gives =>
    apply follows.behind_letters known rfl
    exact follows.value gives (.tail _ (.tail _ (.tail _ (.head _))))
  | shortEquals known gives =>
    apply follows.behind_letters known rfl
    exact follows.value gives (.tail _ (.tail _ (.tail _ (.tail _ (.head _)))))

end Phrase

theorem Rendering.adds {reader : Reader} (follows : reader.FollowsOptions) {items : List Item}
    {arguments : List Bytes} (rendering : Rendering items arguments) : reader.Adds arguments items := by
  induction rendering with
  | nil => exact .nil
  | cons phrase rest hyp => exact (phrase.adds follows).append phrase.unended hyp

theorem Rendering.read {reader : Reader} (follows : reader.FollowsOptions) {items : List Item}
    {arguments : List Bytes} (rendering : Rendering items arguments) :
    reader.read arguments = .ok (.ofItems items) := by
  have unended : utf8 "--" ∉ [] := List.not_mem_nil
  rw [← List.nil_append arguments, rendering.adds follows [] {} unended follows.defaults]
  exact congrArg Except.ok (Arguments.foldl_add [] items)

/-! ## The usual rendering -/

theorem Numeral.usual (count : Nat) : Numeral count (toString count).toList := by
  rw [Nat.toString_eq_ofList_toDigits, String.toList_ofList]
  apply plain
  constructor
  case nonempty => exact Nat.toDigits_ne_nil
  case decimal =>
    intro digit member
    exact Nat.isDigit_of_mem_toDigits (by decide) (by decide) member
  case value => exact Nat.ofDigitChars_toDigits (by decide) (by decide)

/-- Every option by its long name, and every value in an argument of its own. -/
def Item.usual : Item → List Bytes
  | file name => [name.bytes]
  | switch option => [utf8 ("--" ++ option.long)]
  | lines count => [utf8 "--lines", utf8 (toString count.val)]
  | color mode => [utf8 "--color", utf8 mode.word]

theorem Item.phrase_usual (item : Item) : Phrase [item] item.usual := by
  cases item with
  | file name => exact .file name
  | switch option =>
    apply Phrase.long
    cases option <;> simp [Switch.longNames, Switch.long]
  | lines count => exact .longApart (.count (.usual count))
  | color mode => exact .longApart (.word mode)

theorem Rendering.usual (items : List Item) : Rendering items (items.flatMap Item.usual) := by
  induction items with
  | nil => exact .nil
  | cons item items hyp => exact .cons item.phrase_usual hyp

/-- Whatever one may ask for, there are arguments that are read as just that. -/
theorem Reader.read_usual {reader : Reader} (follows : reader.FollowsOptions) (items : List Item) :
    reader.read (items.flatMap Item.usual) = .ok (.ofItems items) :=
  (Rendering.usual items).read follows

/-! ## Files among options -/

namespace Item

def isOption (item : Item) : Bool := item.file?.isNone

theorem filterMap_options {Value : Type} {read : Item → Option Value}
    (idle : ∀ name, read (.file name) = none) (items : List Item) :
    (items.filter isOption).filterMap read = items.filterMap read := by
  rw [List.filterMap_filter]
  congr 1
  funext item
  cases item with
  | file name => rw [idle name, ite_self]
  | _ => rfl

theorem any_options {wanted : Switch} (items : List Item) :
    (items.filter isOption).any (asksFor wanted) = items.any (asksFor wanted) := by
  rw [List.any_filter]
  congr 1
  funext item
  cases item <;> rfl

end Item

/-- Only the order among the files and the order among the options matters. -/
theorem Arguments.ofItems_eq (items : List Item) :
    ofItems items =
      { ofItems (items.filter Item.isOption) with files := items.filterMap Item.file? } := by
  simp only [ofItems, Item.any_options]
  rw [Item.filterMap_options (fun _ => rfl), Item.filterMap_options (fun _ => rfl)]

/-- Whoever follows the options undoes rendering, in whatever spelling; and files may stand between options as
one likes. -/
theorem Reader.read_rendering {reader : Reader} (follows : reader.FollowsOptions) {items : List Item}
    {arguments : List Bytes} (rendering : Rendering items arguments) :
    reader.read arguments = .ok (.ofItems items) ∧
      ∀ others more, Rendering others more →
        others.filterMap Item.file? = items.filterMap Item.file? →
        others.filter Item.isOption = items.filter Item.isOption →
        reader.read more = reader.read arguments := by
  refine ⟨rendering.read follows, ?_⟩
  intro others more other files options
  rw [other.read follows, rendering.read follows, Arguments.ofItems_eq others, files, options,
    ← Arguments.ofItems_eq]

/-- Files on both sides of options in three spellings, a count with a sign behind two letters. Both files may
come first as well. -/
theorem Reader.read_rendering_mixed :
    let first : FileName := ⟨utf8 "a.c", by decide, by decide⟩
    let second : FileName := ⟨[0xff], by decide, by decide⟩
    let five : Fin countLimit := ⟨5, by decide⟩
    let items : List Item := [.file first, .switch .quiet, .switch .enumerate, .lines five, .switch .json,
      .file second, .color .never]
    let arguments : List Bytes :=
      [utf8 "a.c", utf8 "-qen+05", utf8 "--json", [0xff], utf8 "--color", utf8 "never"]
    let others : List Item := [.file first, .file second, .switch .quiet, .switch .enumerate, .lines five,
      .switch .json, .color .never]
    standard.FollowsOptions ∧ Rendering items arguments ∧
      standard.read arguments =
        .ok {
          files := [⟨utf8 "a.c"⟩, ⟨[0xff]⟩]
          lines := 5
          quiet := true
          numbering := true
          json := true
          color := .never } ∧
      standard.read (others.flatMap Item.usual) = standard.read arguments := by
  intro first second five items arguments others
  have numeral : Numeral five ['+', '0', '5'] := .signed ⟨by decide, List.all_eq_true.mp (by decide), by decide⟩
  have letters : [Switch.quiet, Switch.enumerate].map Switch.letter? = ['q', 'e'].map some := rfl
  have name : "json" ∈ Switch.json.longNames := by decide
  have rendering : Rendering items arguments :=
    .cons (.file first) <|
    .cons (.shortJoined letters (.count numeral)) <|
    .cons (.long name) <|
    .cons (.file second) <|
    .cons (.longApart (.word .never)) .nil
  obtain ⟨read, alike⟩ := read_rendering standard_follows rendering
  exact ⟨standard_follows, rendering, read, alike others _ (.usual others) rfl rfl⟩

end LeadingComment.CommandLine
