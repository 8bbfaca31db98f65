import LeadingComment.Text.Utf8

namespace LeadingComment.Utf8

/-! Reading what was written. -/

private theorem toNat_ofNat {value : Nat} (small : value < 256) :
    (UInt8.ofNat value).toNat = value := by
  simp only [UInt8.toNat_ofNat']; omega

private theorem code_cases (char : Char) :
    char.toNat < 0xD800 ∨ 0xDFFF < char.toNat ∧ char.toNat < 0x110000 := char.valid

private theorem splitFrom_more {begun : Option Partial} {byte : UInt8} {next : Partial}
    (fed : feed begun byte = .more next) (earlier : List Char) (start bytes : Bytes) :
    splitFrom begun earlier start (byte :: bytes) = splitFrom (some next) earlier start bytes := by
  simp [splitFrom, fed]

private theorem splitFrom_char {begun : Option Partial} {byte : UInt8} {char : Char}
    (fed : feed begun byte = .char char) (earlier : List Char) (start bytes : Bytes) :
    splitFrom begun earlier start (byte :: bytes)
      = splitFrom none (char :: earlier) bytes bytes := by
  simp [splitFrom, fed]

private theorem feed_begun_char {code low high value : Nat} (small : value < 256)
    (above : low ≤ value) (below : value ≤ high) :
    feed (some ⟨code, 0, low, high⟩) (UInt8.ofNat value)
      = .char (Char.ofNat (code * 0x40 + (value - 0x80))) := by
  simp [feed, toNat_ofNat small, above, below, -UInt8.toNat_ofNat']

private theorem feed_begun_more {code later low high value : Nat} (small : value < 256)
    (above : low ≤ value) (below : value ≤ high) :
    feed (some ⟨code, later + 1, low, high⟩) (UInt8.ofNat value)
      = .more { code := code * 0x40 + (value - 0x80), later } := by
  simp [feed, toNat_ofNat small, above, below, -UInt8.toNat_ofNat']

private theorem feed_first {value : Nat} {next : Partial} (small : value < 256)
    (large : 0x80 ≤ value) (begins : begin? value = some next) :
    feed none (UInt8.ofNat value) = .more next := by
  simp [feed, toNat_ofNat small, Nat.not_lt.mpr large, begins, -UInt8.toNat_ofNat']

theorem splitFrom_encodeChar (char : Char) (earlier : List Char) (start rest : Bytes) :
    splitFrom none earlier start (encodeChar char ++ rest)
      = splitFrom none (char :: earlier) rest rest := by
  have valid := code_cases char
  have same : Char.ofNat char.toNat = char := Char.ofNat_toNat char
  simp only [encodeChar, trailing]
  generalize char.toNat = code at valid same
  split
  next small =>
    refine splitFrom_char ?_ ..
    simp [feed, toNat_ofNat (by omega : code < 256), small, same, -UInt8.toNat_ofNat']
  split
  next =>
    rw [List.cons_append, splitFrom_more (feed_first (by omega) (by omega) (by
      simp only [begin?]; rw [if_pos (by omega)])), List.cons_append]
    rw [splitFrom_char (feed_begun_char (by omega) (by omega) (by omega))]
    rw [show (0xC0 + code / 0x40 - 0xC0) * 0x40 + (0x80 + code % 0x40 - 0x80) = code by omega,
      same, List.nil_append]
  split
  next =>
    rw [List.cons_append, splitFrom_more (feed_first (by omega) (by omega) (by
      simp only [begin?]; rw [if_neg (by omega), if_pos (by omega)])), List.cons_append,
      splitFrom_more (feed_begun_more (by omega) (by split <;> omega) (by split <;> omega)),
      List.cons_append, splitFrom_char (feed_begun_char (by omega) (by omega) (by omega)),
      List.nil_append]
    rw [show ((0xE0 + code / 0x1000 - 0xE0) * 0x40 + (0x80 + code / 0x40 % 0x40 - 0x80)) * 0x40
      + (0x80 + code % 0x40 - 0x80) = code by omega, same]
  next =>
    rw [List.cons_append, splitFrom_more (feed_first (by omega) (by omega) (by
      simp only [begin?]; rw [if_neg (by omega), if_neg (by omega), if_pos (by omega)])),
      List.cons_append,
      splitFrom_more (feed_begun_more (by omega) (by split <;> omega) (by split <;> omega)),
      List.cons_append, splitFrom_more (feed_begun_more (by omega) (by omega) (by omega)),
      List.cons_append, splitFrom_char (feed_begun_char (by omega) (by omega) (by omega)),
      List.nil_append]
    rw [show (((0xF0 + code / 0x40000 - 0xF0) * 0x40 + (0x80 + code / 0x1000 % 0x40 - 0x80)) * 0x40
      + (0x80 + code / 0x40 % 0x40 - 0x80)) * 0x40 + (0x80 + code % 0x40 - 0x80) = code by omega,
      same]

theorem splitFrom_encode (chars earlier : List Char) (start : Bytes) :
    splitFrom none earlier start (encode chars)
      = (earlier.reverse ++ chars, if chars = [] then start else []) := by
  induction chars generalizing earlier start with
  | nil => simp [encode, splitFrom]
  | cons char chars hyp =>
    have := splitFrom_encodeChar char earlier start (encode chars)
    simp only [encode, List.flatMap_cons] at this ⊢
    rw [this]
    simp only [encode] at hyp
    rw [hyp]
    cases chars <;> simp

theorem decode?_encode (chars : List Char) : decode? (encode chars) = some chars := by
  have := splitFrom_encode chars [] (encode chars)
  simp only [decode?, splitValid, this]
  cases chars <;> simp [encode]

/-! Writing what was read. -/

private def Fits (taken : Bytes) (begun : Partial) : Prop :=
  match begun with
  | ⟨code, 0, low, high⟩ => low = 0x80 ∧ high = 0xBF ∧
    ((2 ≤ code ∧ code < 0x20 ∧ taken = [UInt8.ofNat (0xC0 + code)]) ∨
     (0x20 ≤ code ∧ code < 0x400 ∧ (code < 0x360 ∨ 0x380 ≤ code) ∧
      taken = [UInt8.ofNat (0xE0 + code / 0x40), UInt8.ofNat (0x80 + code % 0x40)]) ∨
     (0x400 ≤ code ∧ code < 0x4400 ∧
      taken = [UInt8.ofNat (0xF0 + code / 0x1000), UInt8.ofNat (0x80 + code / 0x40 % 0x40),
        UInt8.ofNat (0x80 + code % 0x40)]))
  | ⟨code, 1, low, high⟩ =>
    (code < 0x10 ∧ taken = [UInt8.ofNat (0xE0 + code)] ∧
      low = (if code = 0 then 0xA0 else 0x80) ∧ high = (if code = 0xD then 0x9F else 0xBF)) ∨
    (0x10 ≤ code ∧ code < 0x110 ∧ low = 0x80 ∧ high = 0xBF ∧
      taken = [UInt8.ofNat (0xF0 + code / 0x40), UInt8.ofNat (0x80 + code % 0x40)])
  | ⟨code, 2, low, high⟩ =>
    code < 5 ∧ taken = [UInt8.ofNat (0xF0 + code)] ∧
      low = (if code = 0 then 0x90 else 0x80) ∧ high = (if code = 4 then 0x8F else 0xBF)
  | _ => False

private theorem toNat_ofNat_valid {code : Nat}
    (valid : code < 0xD800 ∨ 0xDFFF < code ∧ code < 0x110000) : (Char.ofNat code).toNat = code := by
  have holds : code.isValidChar := valid
  rw [Char.ofNat, dif_pos holds]
  rfl

private theorem encodeChar_one {code : Nat} (small : code < 0x80) :
    encodeChar (Char.ofNat code) = [UInt8.ofNat code] := by
  simp only [encodeChar, toNat_ofNat_valid (by omega : code < 0xD800 ∨ _), if_pos small]

private theorem begin?_fits {byte : UInt8} {next : Partial} (begins : begin? byte.toNat = some next) :
    Fits [byte] next := by
  have back : byte = UInt8.ofNat byte.toNat := UInt8.ofNat_toNat.symm
  have bound : byte.toNat < 256 := byte.toNat_lt
  generalize byte.toNat = value at begins back bound
  subst back
  simp only [begin?] at begins
  split at begins
  next range =>
    obtain rfl := Option.some.inj begins
    simp only [Fits, true_and]
    refine .inl ⟨by omega, by omega, ?_⟩
    rw [show 0xC0 + (value - 0xC0) = value by omega]
  split at begins
  next range =>
    obtain rfl := Option.some.inj begins
    simp only [Fits]
    refine .inl ⟨by omega, ?_, ?_, ?_⟩
    · rw [show 0xE0 + (value - 0xE0) = value by omega]
    · split <;> split <;> omega
    · split <;> split <;> omega
  split at begins
  next range =>
    obtain rfl := Option.some.inj begins
    simp only [Fits]
    refine ⟨by omega, ?_, ?_, ?_⟩
    · rw [show 0xF0 + (value - 0xF0) = value by omega]
    · split <;> split <;> omega
    · split <;> split <;> omega
  · cases begins

private theorem feed_more_fits {taken : Bytes} {begun next : Partial} {byte : UInt8}
    (fits : Fits taken begun) (fed : feed (some begun) byte = .more next) :
    Fits (taken ++ [byte]) next := by
  have back : byte = UInt8.ofNat byte.toNat := UInt8.ofNat_toNat.symm
  obtain ⟨code, later, low, high⟩ := begun
  simp only [feed] at fed
  split at fed
  next range =>
    generalize byte.toNat = value at range back fed
    subst back
    match later with
    | 0 => exact Feed.noConfusion fed
    | 1 =>
      obtain rfl := Feed.more.inj fed
      simp only [Fits] at fits ⊢
      refine ⟨trivial, trivial, ?_⟩
      rcases fits with ⟨small, rfl, rfl, rfl⟩ | ⟨large, small, rfl, rfl, rfl⟩
      · refine .inr (.inl ⟨?_, ?_, ?_, ?_⟩)
        · split at range <;> omega
        · split at range <;> split at range <;> omega
        · split at range <;> split at range <;> omega
        · have : 0x80 ≤ value ∧ value ≤ 0xBF := by split at range <;> split at range <;> omega
          rw [show (code * 64 + (value - 128)) / 64 = code by omega,
            show 128 + (code * 64 + (value - 128)) % 64 = value by omega]
          rfl
      · refine .inr (.inr ⟨by omega, by omega, ?_⟩)
        rw [show (code * 64 + (value - 128)) / 4096 = code / 64 by omega,
          show (code * 64 + (value - 128)) / 64 % 64 = code % 64 by omega,
          show 128 + (code * 64 + (value - 128)) % 64 = value by omega]
        rfl
    | 2 =>
      obtain rfl := Feed.more.inj fed
      simp only [Fits] at fits ⊢
      obtain ⟨small, rfl, rfl, rfl⟩ := fits
      have : 0x80 ≤ value ∧ value ≤ 0xBF := by split at range <;> split at range <;> omega
      refine .inr ⟨?_, ?_, trivial, trivial, ?_⟩
      · split at range <;> omega
      · split at range <;> split at range <;> omega
      · rw [show (code * 64 + (value - 128)) / 64 = code by omega,
          show 128 + (code * 64 + (value - 128)) % 64 = value by omega]
        rfl
    | later + 3 => simp only [Fits] at fits
  · cases fed

private theorem feed_char_encodes {taken : Bytes} {begun : Partial} {byte : UInt8} {char : Char}
    (fits : Fits taken begun) (fed : feed (some begun) byte = .char char) :
    encodeChar char = taken ++ [byte] := by
  have back : byte = UInt8.ofNat byte.toNat := UInt8.ofNat_toNat.symm
  obtain ⟨code, later, low, high⟩ := begun
  simp only [feed] at fed
  split at fed
  next range =>
    generalize byte.toNat = value at range back fed
    subst back
    match later with
    | later + 1 => cases fed
    | 0 =>
      obtain rfl := Feed.char.inj fed
      simp only [Fits] at fits
      obtain ⟨rfl, rfl, fits⟩ := fits
      rcases fits with ⟨large, small, rfl⟩ | ⟨large, small, gap, rfl⟩ | ⟨large, small, rfl⟩
      · dsimp only [encodeChar, trailing]
        rw [toNat_ofNat_valid (by omega), if_neg (by omega), if_pos (by omega)]
        rw [show (code * 64 + (value - 128)) / 64 = code by omega,
          show 128 + (code * 64 + (value - 128)) % 64 = value by omega]
        rfl
      · dsimp only [encodeChar, trailing]
        rw [toNat_ofNat_valid (by omega), if_neg (by omega), if_neg (by omega),
          if_pos (by omega)]
        rw [show (code * 64 + (value - 128)) / 4096 = code / 64 by omega,
          show (code * 64 + (value - 128)) / 64 % 64 = code % 64 by omega,
          show 128 + (code * 64 + (value - 128)) % 64 = value by omega]
        rfl
      · dsimp only [encodeChar, trailing]
        rw [toNat_ofNat_valid (by omega), if_neg (by omega), if_neg (by omega),
          if_neg (by omega)]
        rw [show (code * 64 + (value - 128)) / 0x40000 = code / 4096 by omega,
          show (code * 64 + (value - 128)) / 4096 % 64 = code / 64 % 64 by omega,
          show (code * 64 + (value - 128)) / 64 % 64 = code % 64 by omega,
          show 128 + (code * 64 + (value - 128)) % 64 = value by omega]
        rfl
  · cases fed

private theorem feed_none_char {byte : UInt8} {char : Char} (fed : feed none byte = .char char) :
    encodeChar char = [byte] := by
  have back : byte = UInt8.ofNat byte.toNat := UInt8.ofNat_toNat.symm
  simp only [feed] at fed
  split at fed
  next small =>
    obtain rfl := Feed.char.inj fed
    rw [encodeChar_one small, ← back]
  next => split at fed <;> exact Feed.noConfusion fed

private theorem feed_none_more {byte : UInt8} {next : Partial} (fed : feed none byte = .more next) :
    Fits [byte] next := by
  simp only [feed] at fed
  split at fed
  next => exact Feed.noConfusion fed
  next =>
    split at fed
    next found =>
      obtain rfl := Feed.more.inj fed
      exact begin?_fits found
    next => exact Feed.noConfusion fed

private def Holds (taken : Bytes) : Option Partial → Prop
  | none => taken = []
  | some begun => Fits taken begun

private theorem Holds.char {taken : Bytes} {begun : Option Partial} {byte : UInt8} {char : Char}
    (holds : Holds taken begun) (fed : feed begun byte = .char char) :
    encodeChar char = taken ++ [byte] := by
  cases begun with
  | none =>
    obtain rfl : taken = [] := holds
    exact feed_none_char fed
  | some begun => exact feed_char_encodes holds fed

private theorem Holds.more {taken : Bytes} {begun : Option Partial} {byte : UInt8} {next : Partial}
    (holds : Holds taken begun) (fed : feed begun byte = .more next) :
    Holds (taken ++ [byte]) (some next) := by
  cases begun with
  | none =>
    obtain rfl : taken = [] := holds
    exact feed_none_more fed
  | some begun => exact feed_more_fits holds fed

/-- Nothing is lost: the characters found, written again, stand before the rest. -/
private theorem encode_splitFrom (begun : Option Partial) (taken bytes : Bytes)
    (earlier : List Char) (holds : Holds taken begun) :
    encode (splitFrom begun earlier (taken ++ bytes) bytes).1
        ++ (splitFrom begun earlier (taken ++ bytes) bytes).2
      = encode earlier.reverse ++ (taken ++ bytes) := by
  induction bytes generalizing begun taken earlier with
  | nil => simp [splitFrom]
  | cons byte bytes hyp =>
    rw [splitFrom]
    cases fed : feed begun byte with
    | broken => simp
    | char char =>
      have := hyp none [] (char :: earlier) rfl
      simp only [List.nil_append] at this ⊢
      rw [this]
      simp [encode, holds.char fed]
    | more next =>
      have := hyp (some next) (taken ++ [byte]) earlier (holds.more fed)
      simpa using this

theorem encode_splitValid (bytes : Bytes) :
    encode (splitValid bytes).1 ++ (splitValid bytes).2 = bytes :=
  encode_splitFrom none [] bytes [] rfl

theorem decode?_eq_some_iff {bytes : Bytes} {chars : List Char} :
    decode? bytes = some chars ↔ bytes = encode chars := by
  constructor
  · intro decoded
    have kept := encode_splitValid bytes
    simp only [decode?] at decoded
    split at decoded
    next found split =>
      rw [split, List.append_nil] at kept
      rw [← Option.some.inj decoded, kept]
    next => cases decoded
  · rintro rfl
    exact decode?_encode chars

theorem encode_append (first second : List Char) :
    encode (first ++ second) = encode first ++ encode second := List.flatMap_append ..

theorem encode_ne_nil {text : List Char} (nonempty : text ≠ []) : encode text ≠ [] := by
  intro empty
  apply nonempty
  have decoded := decode?_encode text
  rw [empty] at decoded
  exact (Option.some.inj decoded).symm

theorem decode?_utf8 (text : String) : decode? (utf8 text) = some text.toList := decode?_encode text.toList

theorem utf8_inj {left right : String} : utf8 left = utf8 right ↔ left = right := by
  constructor
  · intro same
    have decoded := congrArg decode? same
    rw [decode?_utf8, decode?_utf8] at decoded
    exact String.toList_inj.mp (Option.some.inj decoded)
  · exact congrArg utf8

/-- A replacement, or a character that stands in the bytes. -/
private def Known (whole : Bytes) (char : Char) : Prop := char = replacement ∨ encodeChar char ⊆ whole

private theorem known_of_mem_lossyFrom {whole : Bytes} (begun : Option Partial) (taken bytes : Bytes)
    (earlier : List Char) (holds : Holds taken begun) (within : taken ++ bytes ⊆ whole)
    (known : ∀ char ∈ earlier, Known whole char) :
    ∀ char ∈ lossyFrom begun earlier bytes, Known whole char := by
  have replaced {found : List Char} (known : ∀ char ∈ found, Known whole char) :
      ∀ char ∈ replacement :: found, Known whole char :=
    List.forall_mem_cons.mpr ⟨.inl rfl, known⟩
  induction bytes generalizing begun taken earlier with
  | nil =>
    intro char member
    rw [lossyFrom, List.mem_reverse] at member
    split at member
    · exact replaced known char member
    · exact known char member
  | cons byte bytes hyp =>
    rw [List.append_cons] at within
    obtain ⟨front, later⟩ := List.append_subset.mp within
    have alone : [byte] ⊆ whole := (List.append_subset.mp front).2
    have behind : [byte] ++ bytes ⊆ whole := List.append_subset.mpr ⟨alone, later⟩
    have read {next : Char} {found : List Char} {part : Bytes} (encoded : encodeChar next = part)
        (inside : part ⊆ whole) (known : ∀ char ∈ found, Known whole char) :
        ∀ char ∈ next :: found, Known whole char :=
      List.forall_mem_cons.mpr ⟨.inr (encoded ▸ inside), known⟩
    rw [lossyFrom]
    cases fed : feed begun byte with
    | char next => exact hyp none [] _ rfl later (read (holds.char fed) front known)
    | more next => exact hyp (some next) _ _ (holds.more fed) within known
    | broken =>
      cases begun with
      | none => exact hyp none [] _ rfl later (replaced known)
      | some begun =>
        -- The byte that ends the begun character is read once more.
        simp only [Option.isSome_some, ↓reduceIte]
        cases reread : feed none byte with
        | char next => exact hyp none [] _ rfl later (read (feed_none_char reread) alone (replaced known))
        | more next => exact hyp (some next) [byte] _ (feed_none_more reread) behind (replaced known)
        | broken => exact hyp none [] _ rfl later (replaced (replaced known))

/-- Reading with replacements makes nothing up but the replacements. -/
theorem mem_decodeLossy {bytes : Bytes} {byte : UInt8} (member : byte ∈ utf8 (decodeLossy bytes)) :
    byte ∈ bytes ∨ byte ∈ encodeChar replacement := by
  rw [utf8, decodeLossy, String.toList_ofList] at member
  obtain ⟨char, inText, inBytes⟩ := List.mem_flatMap.mp member
  have known := known_of_mem_lossyFrom none [] bytes [] rfl (List.Subset.refl bytes) (List.forall_mem_nil _)
  rcases known char inText with rfl | stands
  · exact .inr inBytes
  · exact .inl (stands inBytes)

end LeadingComment.Utf8
