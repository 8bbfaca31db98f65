import LeadingComment.CommandLine.Parse
import LeadingComment.Proofs.Renderings
import LeadingComment.Text.Utf8.RoundTrip
import Mathlib.Data.List.TakeDrop

namespace LeadingComment.CommandLine

theorem le_ofDigitChars (digits : List Char) (value : Nat) : value ≤ Nat.ofDigitChars 10 digits value := by
  induction digits generalizing value with
  | nil => simp
  | cons digit digits hyp =>
    rw [Nat.ofDigitChars_cons]
    have := hyp (10 * value + (digit.toNat - '0'.toNat))
    omega

/-- Digits are read one by one, and the value stays below the limit on the way to one that does. -/
theorem readDigits_eq {digits : List Char} (decimal : ∀ digit ∈ digits, digit.isDigit = true) {value : Nat}
    (small : Nat.ofDigitChars 10 digits value < countLimit) :
    readDigits value digits = .ok (Nat.ofDigitChars 10 digits value) := by
  induction digits generalizing value with
  | nil => rfl
  | cons digit digits hyp =>
    obtain ⟨here, later⟩ := List.forall_mem_cons.mp decimal
    rw [Nat.ofDigitChars_cons] at small ⊢
    have next : value * 10 + (digit.toNat - '0'.toNat) = 10 * value + (digit.toNat - '0'.toNat) := by
      rw [Nat.mul_comm]
    have below := Nat.lt_of_le_of_lt (le_ofDigitChars digits _) small
    rw [readDigits, if_pos here]
    simp only [next, if_pos below]
    exact hyp later small

theorem Numeral.readCount_eq {count : Nat} {digits : List Char} (numeral : Numeral count digits)
    (small : count < countLimit) : readCount digits = .ok count := by
  have read {digits : List Char} (decimal : IsDecimal count digits) : readDigits 0 digits = .ok count := by
    have below : Nat.ofDigitChars 10 digits 0 < countLimit := by rwa [decimal.value]
    rw [readDigits_eq decimal.decimal below, decimal.value]
  cases numeral with
  | plain decimal =>
    obtain ⟨first, later, rfl⟩ := List.exists_cons_of_ne_nil decimal.nonempty
    have unsigned : first ≠ '+' := by
      rintro rfl
      exact absurd (decimal.decimal '+' List.mem_cons_self) (by decide)
    rw [readCount, read decimal]
    · simp
    · simp [unsigned]
    · simp [unsigned]
  | signed decimal =>
    obtain ⟨first, later, rfl⟩ := List.exists_cons_of_ne_nil decimal.nonempty
    exact read decimal

/-- No value is empty or begins like an option or with an equals sign. -/
theorem Gives.head {option : Valued} {value : List Char} {item : Item} (gives : Gives option value item) :
    ∃ first later, value = first :: later ∧ first.toNat < 0x80 ∧ first ≠ '-' ∧ first ≠ '=' := by
  cases gives with
  | count numeral =>
    cases numeral with
    | plain decimal =>
      obtain ⟨first, later, rfl⟩ := List.exists_cons_of_ne_nil decimal.nonempty
      have digit := decimal.decimal first List.mem_cons_self
      refine ⟨first, later, rfl, ?_, ?_, ?_⟩
      · have bounds : 48 ≤ first.toNat ∧ first.toNat ≤ 57 := by
          simpa [Char.isDigit, UInt32.le_iff_toNat_le] using digit
        omega
      · rintro rfl
        exact absurd digit (by decide)
      · rintro rfl
        exact absurd digit (by decide)
    | @signed digits decimal => exact ⟨'+', digits, rfl, by decide, by decide, by decide⟩
  | word mode => cases mode <;> exact ⟨_, _, rfl, by decide, by decide, by decide⟩

theorem Arguments.assign_gives {option : Valued} {value : List Char} {item : Item}
    (gives : Gives option value item) (arguments : Arguments) :
    arguments.assign option (Utf8.encode value) = .ok (arguments.add item) := by
  cases gives with
  | @count count digits numeral =>
    simp only [assign, Utf8.decode?_encode, numeral.readCount_eq count.isLt, add]
  | word mode =>
    have known : ColorMode.ofWord? mode.word = some mode := by cases mode <;> decide
    simp only [assign, Utf8.decode?_encode, String.ofList_toList, known, add]

theorem Action.encodeChar_of_ofShort? {letter : Char} (known : (Action.ofShort? letter).isSome) :
    ∃ byte, Utf8.encodeChar letter = [byte] ∧ byte ≠ dash := by
  unfold Action.ofShort? at known
  split at known <;> first | exact ⟨_, rfl, by decide⟩ | cases known

namespace State

/-- These arguments have been read. The last of them may be pending, but there is nothing wrong with what
is. -/
structure Reflects (state : State) (arguments : Arguments) : Prop where
  mixed : state.filesOnly = false
  settled : state.arguments.settle state.pending = .ok arguments

variable {state : State} {arguments : Arguments}

theorem Reflects.settle (reflects : state.Reflects arguments) : state.settle = .ok { arguments } := by
  rw [State.settle, reflects.settled, reflects.mixed]

theorem Reflects.set (reflects : state.Reflects arguments) (option : Switch) :
    ∃ next, state.set option = .ok next ∧ next.Reflects (arguments.set option) := by
  refine ⟨{ arguments := arguments.set option }, ?_, rfl, rfl⟩
  rw [State.set, reflects.settle]
  rfl

theorem Reflects.assign (reflects : state.Reflects arguments) {option : Valued} {value : List Char}
    {item : Item} (gives : Gives option value item) :
    ∃ next, state.assign option (Utf8.encode value) = .ok next ∧ next.Reflects (arguments.add item) := by
  refine ⟨{ arguments := arguments.add item }, ?_, rfl, rfl⟩
  rw [State.assign, reflects.settle]
  simp only [bind, Except.bind, Arguments.assign_gives gives]
  rfl

theorem FileName.not_contains_nil {names : List Bytes} (named : names.contains [] = false) (name : FileName) :
    (names ++ [name.bytes]).contains [] = false := by
  have nonempty := name.nonempty
  simp only [List.contains_eq_mem, decide_eq_false_iff_not] at named ⊢
  simp [named, nonempty.symm]

theorem Reflects.addFile (reflects : state.Reflects arguments) (name : FileName) :
    ∃ next, state.addFile name.bytes = .ok next ∧ next.Reflects (arguments.add (.file name)) := by
  by_cases collecting : ∃ names, state.pending = .files names
  · obtain ⟨names, pending⟩ := collecting
    have settled := reflects.settled
    simp only [pending, Arguments.settle] at settled
    split at settled
    · cases settled
    next named =>
      refine ⟨{ state with pending := .files (names ++ [name.bytes]) }, ?_, reflects.mixed, ?_⟩
      · simp only [State.addFile, pending]
      · have others := FileName.not_contains_nil (Bool.not_eq_true _ ▸ named) name
        have files := Except.ok.inj settled
        simp only [Arguments.settle, others, Bool.false_eq_true, ↓reduceIte, ← files]
        simp [Arguments.add]
  · have others : ([] ++ [name.bytes]).contains [] = false := FileName.not_contains_nil rfl name
    refine ⟨{ arguments, pending := .files [name.bytes] }, ?_, rfl, ?_⟩
    · unfold State.addFile
      split
      next names pending => exact absurd ⟨names, pending⟩ collecting
      next => rw [reflects.settle]; rfl
    · rw [List.nil_append] at others
      simp only [Arguments.settle, others]
      rfl

/-- An argument that begins with no dash is a value if one is awaited, and a file otherwise. -/
theorem accept_plain {argument : Bytes} (mixed : state.filesOnly = false)
    (undashed : argument.head? ≠ some dash) :
    state.accept argument =
      match state.pending with
      | .awaiting option => .ok { state with pending := .value option argument }
      | _ => state.addFile argument := by
  unfold accept
  rw [mixed]
  simp only [Bool.false_eq_true, ↓reduceIte]
  split
  · exact absurd rfl undashed
  · exact absurd rfl undashed
  · exact absurd rfl undashed
  · rfl

theorem accept_long {text : Bytes} (mixed : state.filesOnly = false) (nonempty : text ≠ []) :
    state.accept (dash :: dash :: text) = state.long text := by
  obtain ⟨first, later, rfl⟩ := List.exists_cons_of_ne_nil nonempty
  unfold accept
  rw [mixed]
  rfl

theorem accept_short {letter : Char} (mixed : state.filesOnly = false)
    (known : (Action.ofShort? letter).isSome) (letters : List Char) :
    state.accept (Utf8.encode ('-' :: letter :: letters)) = state.cluster [] (letter :: letters) := by
  obtain ⟨byte, single, other⟩ := Action.encodeChar_of_ofShort? known
  have whole : Utf8.encode (letter :: letters) = byte :: Utf8.encode letters := by
    simp only [Utf8.encode, List.flatMap_cons, single]
    rfl
  have bytes : Utf8.encode ('-' :: letter :: letters) = dash :: byte :: Utf8.encode letters :=
    congrArg (dash :: ·) whole
  have valid : Utf8.splitValid (byte :: Utf8.encode letters) = (letter :: letters, []) := by
    have split := Utf8.splitFrom_encode (letter :: letters) [] (Utf8.encode (letter :: letters))
    rw [whole] at split
    simpa [Utf8.splitValid] using split
  rw [bytes]
  unfold accept
  rw [mixed]
  simp only [Bool.false_eq_true, ↓reduceIte]
  split
  next same => exact absurd (List.cons.inj (List.cons.inj same).2).1 other
  next same => exact absurd (List.cons.inj (List.cons.inj same).2).1 other
  next same =>
    obtain ⟨rfl, rfl⟩ := List.cons.inj (List.cons.inj same).2
    rw [valid]
  next unlike => exact absurd rfl (unlike byte _)

theorem Reflects.accept_file (reflects : state.Reflects arguments) (name : FileName) :
    ∃ next, state.accept name.bytes = .ok next ∧ next.Reflects (arguments.add (.file name)) := by
  obtain ⟨next, added, reflected⟩ := reflects.addFile name
  refine ⟨next, ?_, reflected⟩
  rw [accept_plain reflects.mixed name.undashed]
  split
  next option pending =>
    have settled := reflects.settled
    rw [pending] at settled
    cases settled
  next => exact added

theorem ascii_ne {first : Char} (ascii : first.toNat < 0x80) (mark : Char) (small : mark.toNat < 0x80)
    (other : first ≠ mark) : UInt8.ofNat first.toNat ≠ UInt8.ofNat mark.toNat := by
  intro same
  apply other
  have codes := congrArg UInt8.toNat same
  rw [UInt8.toNat_ofNat_of_lt' (Nat.lt_trans ascii (by decide)),
    UInt8.toNat_ofNat_of_lt' (Nat.lt_trans small (by decide))] at codes
  rw [← Char.ofNat_toNat first, codes, Char.ofNat_toNat]

theorem encode_ascii {first : Char} (ascii : first.toNat < 0x80) (later : List Char) :
    Utf8.encode (first :: later) = UInt8.ofNat first.toNat :: Utf8.encode later := by
  simp only [Utf8.encode, List.flatMap_cons, Utf8.encodeChar, if_pos ascii, List.singleton_append]

theorem Reflects.await (reflects : state.Reflects arguments) {option : Valued} {value : List Char}
    {item : Item} (gives : Gives option value item) :
    ∃ waiting next, state.await option = .ok waiting ∧
      waiting.accept (Utf8.encode value) = .ok next ∧ next.Reflects (arguments.add item) := by
  let waiting : State := { arguments, pending := .awaiting option }
  refine ⟨waiting, { waiting with pending := .value option (Utf8.encode value) }, ?_, ?_, rfl, ?_⟩
  · rw [State.await, reflects.settle]
    rfl
  · obtain ⟨first, later, rfl, ascii, other, _⟩ := gives.head
    rw [accept_plain rfl]
    rw [encode_ascii ascii, List.head?_cons, ne_eq, Option.some.injEq]
    exact ascii_ne ascii '-' (by decide) other
  · exact Arguments.assign_gives gives arguments

theorem long_switch {option : Switch} {name : String} (known : name ∈ option.longNames) (state : State) :
    state.long (utf8 name) = state.set option := by
  rcases Switch.eq_of_mem_longNames known with rfl | ⟨rfl, rfl⟩
  · cases option <;> rfl
  · rfl

theorem long_valued (option : Valued) (state : State) : state.long (utf8 option.long) = state.await option := by
  cases option <;> rfl

theorem long_joined (option : Valued) (value : Bytes) (state : State) :
    state.long (utf8 option.long ++ equals :: value) = state.assign option value := by
  have apart : ∀ byte ∈ utf8 option.long, (byte != equals) = true := by
    apply List.all_eq_true.mp
    cases option <;> decide
  have cut : (utf8 option.long ++ equals :: value).span (· != equals) = (utf8 option.long, equals :: value) := by
    rw [List.span_eq_takeWhile_dropWhile, List.takeWhile_append_of_pos apart,
      List.dropWhile_append_of_pos apart]
    simp
  unfold long
  rw [cut]
  cases option <;> rfl

theorem cluster_switch {option : Switch} {letter : Char} (known : option.letter? = some letter)
    (letters : List Char) :
    state.cluster [] (letter :: letters) = state.set option >>= fun next => next.cluster [] letters := by
  rw [cluster, Switch.ofShort?_letter known]

theorem cluster_joined {value : List Char} {item : Item} (gives : Gives .lines value item) (state : State) :
    state.cluster [] ('n' :: value) = state.assign .lines (Utf8.encode value) := by
  obtain ⟨first, later, rfl, ascii, _, other⟩ := gives.head
  have unlike : UInt8.ofNat first.toNat ≠ equals := ascii_ne ascii '=' (by decide) other
  rw [cluster]
  simp only [Action.ofShort?, List.append_nil, encode_ascii ascii, if_neg unlike]

theorem cluster_equals (value : List Char) (state : State) :
    state.cluster [] ('n' :: '=' :: value) = state.assign .lines (Utf8.encode value) := by
  have bytes : Utf8.encode ('=' :: value) ++ [] = equals :: Utf8.encode value := List.append_nil _
  rw [cluster]
  simp only [Action.ofShort?, bytes, ↓reduceIte]

theorem accept_name_append {name : String} (mixed : state.filesOnly = false) (nonempty : name.toList ≠ [])
    (tail : Bytes) : state.accept (utf8 ("--" ++ name) ++ tail) = state.long (utf8 name ++ tail) := by
  have bytes : utf8 ("--" ++ name) ++ tail = dash :: dash :: (utf8 name ++ tail) := by
    rw [utf8, String.toList_append, Utf8.encode_append]
    rfl
  rw [bytes, accept_long mixed]
  exact List.append_ne_nil_of_left_ne_nil (Utf8.encode_ne_nil nonempty) tail

theorem accept_name {name : String} (mixed : state.filesOnly = false) (nonempty : name.toList ≠ []) :
    state.accept (utf8 ("--" ++ name)) = state.long (utf8 name) := by
  simpa using accept_name_append mixed nonempty []

theorem Reflects.accept_switch (reflects : state.Reflects arguments) {option : Switch} {spelled : Bytes}
    (known : spelled ∈ option.spellings) :
    ∃ next, state.accept spelled = .ok next ∧ next.Reflects (arguments.set option) := by
  obtain ⟨next, read, reflected⟩ := reflects.set option
  refine ⟨next, ?_, reflected⟩
  rcases List.mem_append.mp known with long | short
  · obtain ⟨name, listed, rfl⟩ := List.mem_map.mp long
    rw [accept_name reflects.mixed (Switch.ne_nil_of_mem_longNames listed), long_switch listed, read]
  · obtain ⟨letter, has, rfl⟩ := List.mem_map.mp short
    have spells : option.letter? = some letter := Option.mem_toList.mp has
    have letters := accept_short reflects.mixed (Switch.isSome_ofShort? spells) []
    rw [letters, cluster_switch spells, read]
    rfl

theorem reads_one {next : State} {argument : Bytes} (read : state.accept argument = .ok next) :
    [argument].foldlM accept state = .ok next := by
  rw [List.foldlM_cons, read]
  rfl

theorem reads_two {middle next : State} {first second : Bytes} (read : state.accept first = .ok middle)
    (later : middle.accept second = .ok next) : [first, second].foldlM accept state = .ok next := by
  rw [List.foldlM_cons, read]
  exact reads_one later

theorem Reflects.accept_value (reflects : state.Reflects arguments) {option : Valued} {value : List Char}
    {item : Item} (gives : Gives option value item) {spelled : List Bytes}
    (known : spelled ∈ option.spellings value) :
    ∃ next, spelled.foldlM accept state = .ok next ∧ next.Reflects (arguments.add item) := by
  obtain ⟨waiting, last, awaited, taken, fulfilled⟩ := reflects.await gives
  obtain ⟨next, read, reflected⟩ := reflects.assign gives
  rcases List.mem_append.mp known with long | short
  · simp only [List.mem_cons, List.not_mem_nil, or_false] at long
    rcases long with rfl | rfl
    · have named := accept_name reflects.mixed option.long_ne_nil
      rw [long_valued, awaited] at named
      exact ⟨last, reads_two named taken, fulfilled⟩
    · have bytes : utf8 ("--" ++ option.long ++ "=" ++ String.ofList value) =
          utf8 ("--" ++ option.long) ++ equals :: Utf8.encode value := by
        simp only [utf8, String.toList_append, Utf8.encode_append, String.toList_ofList, List.append_assoc]
        rfl
      have named := accept_name_append reflects.mixed option.long_ne_nil (equals :: Utf8.encode value)
      rw [long_joined, read] at named
      exact ⟨next, reads_one (bytes ▸ named), reflected⟩
  · -- Only a line count has a letter.
    cases option with
    | color => cases short
    | lines =>
      have letters (later : List Char) :
          state.accept (Utf8.encode ('-' :: 'n' :: later)) = state.cluster [] ('n' :: later) :=
        accept_short reflects.mixed rfl later
      simp only [Valued.letter?, Option.toList_some, List.flatMap_cons, List.flatMap_nil, List.append_nil,
        List.mem_cons, List.not_mem_nil, or_false] at short
      rcases short with rfl | rfl | rfl
      · exact ⟨last, reads_two ((letters []).trans awaited) taken, fulfilled⟩
      · exact ⟨next, reads_one ((letters value).trans ((cluster_joined gives state).trans read)), reflected⟩
      · exact ⟨next, reads_one ((letters ('=' :: value)).trans ((cluster_equals value state).trans read)),
          reflected⟩

/-! ## Options may follow -/

/-- If reading goes on, options are still understood. -/
def Mixed (outcome : Except Stop State) : Prop := ∀ next, outcome = .ok next → next.filesOnly = false

theorem Mixed.ok (mixed : state.filesOnly = false) : Mixed (.ok state) := by
  rintro next ⟨⟩
  exact mixed

theorem Mixed.error (stop : Stop) : Mixed (.error stop) := nofun

theorem Mixed.bind {outcome : Except Stop State} {go : State → Except Stop State} (first : Mixed outcome)
    (later : ∀ next, next.filesOnly = false → Mixed (go next)) : Mixed (outcome >>= go) := by
  cases outcome with
  | error stop => exact .error stop
  | ok next => exact later next (first next rfl)

theorem Mixed.settle (mixed : state.filesOnly = false) : Mixed state.settle := by
  unfold State.settle
  split
  · exact .ok mixed
  · exact .error _

theorem Mixed.set (mixed : state.filesOnly = false) (option : Switch) : Mixed (state.set option) :=
  (settle mixed).bind fun _ settled => .ok settled

theorem Mixed.await (mixed : state.filesOnly = false) (option : Valued) : Mixed (state.await option) :=
  (settle mixed).bind fun _ settled => .ok settled

theorem Mixed.stopWith (mixed : state.filesOnly = false) (stop : Stop) : Mixed (state.stopWith stop) :=
  (settle mixed).bind fun _ _ => .error stop

theorem Mixed.assign (mixed : state.filesOnly = false) (option : Valued) (value : Bytes) :
    Mixed (state.assign option value) := by
  apply (settle mixed).bind
  intro next settled
  cases next.arguments.assign option value with
  | ok arguments => exact .ok settled
  | error error => exact .error _

theorem Mixed.addFile (mixed : state.filesOnly = false) (name : Bytes) : Mixed (state.addFile name) := by
  unfold State.addFile
  split
  · exact .ok mixed
  · exact (settle mixed).bind fun _ settled => .ok settled

theorem Mixed.long (mixed : state.filesOnly = false) (text : Bytes) : Mixed (state.long text) := by
  unfold State.long
  rcases text.span (· != equals) with ⟨name, attached⟩
  dsimp only
  split
  · exact .error _
  · exact .assign mixed _ _
  · exact .await mixed _
  · exact .error _
  · exact .set mixed _
  · exact .stopWith mixed _
  · exact .stopWith mixed _

theorem Mixed.cluster (mixed : state.filesOnly = false) (rest : Bytes) (letters : List Char) :
    Mixed (state.cluster rest letters) := by
  induction letters generalizing state with
  | nil =>
    unfold State.cluster
    split
    · exact .ok mixed
    · exact .error _
  | cons letter letters hyp =>
    unfold State.cluster
    split
    · exact .error _
    · exact (set mixed _).bind fun _ still => hyp still
    · exact .stopWith mixed _
    · exact .stopWith mixed _
    · split
      · exact .await mixed _
      · exact .assign mixed _ _

theorem Mixed.accept (mixed : state.filesOnly = false) {argument : Bytes} (other : argument ≠ utf8 "--") :
    Mixed (state.accept argument) := by
  unfold State.accept
  rw [mixed]
  simp only [Bool.false_eq_true, ↓reduceIte]
  split
  · exact absurd rfl other
  · exact .long mixed _
  · exact .cluster mixed _ _
  · split
    · rintro next ⟨⟩
      rfl
    · exact .addFile mixed _

theorem Mixed.foldlM {before : List Bytes} (mixed : state.filesOnly = false) (unended : utf8 "--" ∉ before) :
    Mixed (before.foldlM State.accept state) := by
  induction before generalizing state with
  | nil => exact .ok mixed
  | cons argument before hyp =>
    obtain ⟨other, later⟩ := List.ne_and_not_mem_of_not_mem_cons unended
    rw [List.foldlM_cons]
    exact (Mixed.accept mixed other.symm).bind fun _ still => hyp still later

end State

/-! ## The options are followed -/

theorem standard_read_of_reflects {before : List Bytes} {state : State} {arguments : Arguments}
    (read : before.foldlM State.accept {} = .ok state) (reflects : state.Reflects arguments) :
    standard.read before = .ok arguments := by
  simp only [standard, parse, read, bind, Except.bind, reflects.settle]
  rfl

theorem reflects_of_standard_read {before : List Bytes} {arguments : Arguments} (unended : utf8 "--" ∉ before)
    (read : standard.read before = .ok arguments) :
    ∃ state, before.foldlM State.accept {} = .ok state ∧ state.Reflects arguments := by
  simp only [standard, parse] at read
  rcases folded : before.foldlM State.accept {} with stop | state
  · rw [folded] at read
    cases read
  · rw [folded] at read
    refine ⟨state, rfl, State.Mixed.foldlM rfl unended state folded, ?_⟩
    -- Had there been something wrong with what was pending, nothing would have been read.
    rcases settled : state.arguments.settle state.pending with error | amount
    · simp only [bind, Except.bind, State.settle, settled] at read
      cases read
    · simp only [bind, Except.bind, State.settle, settled] at read
      cases read
      rfl

/-- Whatever every state reads as these items is added to what has been read. -/
theorem standard_adds {more : List Bytes} {items : List Item}
    (step : ∀ {state : State} {arguments : Arguments}, state.Reflects arguments →
      ∃ next, more.foldlM State.accept state = .ok next ∧
        next.Reflects (items.foldl Arguments.add arguments)) :
    standard.Adds more items := by
  intro before arguments unended read
  obtain ⟨state, folded, reflects⟩ := reflects_of_standard_read unended read
  obtain ⟨next, later, reflected⟩ := step reflects
  apply standard_read_of_reflects _ reflected
  rw [List.foldlM_append, folded]
  exact later

/-- A letter in front of others is read as if it stood in an argument of its own. -/
theorem accept_cluster {option : Switch} {letter next : Char} (spells : option.letter? = some letter)
    (known : (Action.ofShort? next).isSome) (later : List Char) {state : State}
    (mixed : state.filesOnly = false) :
    state.accept (Utf8.encode ('-' :: letter :: next :: later)) =
      state.accept (Utf8.encode ['-', letter]) >>= fun middle =>
        middle.accept (Utf8.encode ('-' :: next :: later)) := by
  have first := Switch.isSome_ofShort? spells
  rw [State.accept_short mixed first, State.accept_short mixed first, State.cluster_switch spells,
    State.cluster_switch spells]
  rcases turned : state.set option with stop | middle
  · rfl
  · have still := State.Mixed.set mixed option middle turned
    exact (State.accept_short still known later).symm

theorem standard_follows : standard.FollowsOptions where
  defaults := rfl
  file name := by
    apply standard_adds
    intro state arguments reflects
    obtain ⟨next, read, reflected⟩ := reflects.accept_file name
    exact ⟨next, State.reads_one read, reflected⟩
  switch known := by
    apply standard_adds
    intro state arguments reflects
    obtain ⟨next, read, reflected⟩ := reflects.accept_switch known
    exact ⟨next, State.reads_one read, reflected⟩
  value gives known := standard_adds fun reflects => reflects.accept_value gives known
  cluster {option letter next later before after arguments} spells known unended read := by
    have same (state : State) (mixed : state.filesOnly = false) :
        (Utf8.encode ('-' :: letter :: next :: later) :: after).foldlM State.accept state =
          (Utf8.encode ['-', letter] :: Utf8.encode ('-' :: next :: later) :: after).foldlM State.accept
            state := by
      simp only [List.foldlM_cons]
      rw [accept_cluster spells known later mixed, bind_assoc]
    rw [← read]
    simp only [standard, parse, List.foldlM_append]
    rcases folded : before.foldlM State.accept {} with stop | state
    · rfl
    · have mixed : state.filesOnly = false := State.Mixed.foldlM rfl unended state folded
      simp only [bind, Except.bind, same state mixed]

end LeadingComment.CommandLine
