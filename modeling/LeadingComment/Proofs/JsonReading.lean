import LeadingComment.Json

/-! Reading a JSON document back. A text spells a value if it holds the symbols of the value in order,
with space wherever there is some; the reader takes every text that spells a value for that value
(`read?_of_spells`). Values are texts, lists and objects, since no others are written. -/
namespace LeadingComment.Json

/-- What a document is made of, space left aside. -/
inductive Symbol where
  | text (value : String)
  | beginList
  | endList
  | beginObject
  | endObject
  | comma
  | colon
deriving DecidableEq, Repr

namespace Symbol

def ofMark? (char : Char) : Option Symbol :=
  if char = '[' then some beginList
  else if char = ']' then some endList
  else if char = '\x7b' then some beginObject
  else if char = '\x7d' then some endObject
  else if char = ',' then some comma
  else if char = ':' then some colon
  else none

def separated : List (List Symbol) → List Symbol
  | [] => []
  | first :: later => first ++ later.flatMap (comma :: ·)

theorem length_le_separated {part : List Symbol} {parts : List (List Symbol)} (member : part ∈ parts) :
    part.length ≤ (separated parts).length := by
  cases parts with
  | nil => cases member
  | cons first later =>
    rw [separated, List.length_append]
    rcases List.mem_cons.mp member with rfl | member
    · exact Nat.le_add_right ..
    · have within : (comma :: part).Sublist (later.flatMap (comma :: ·)) := by
        rw [List.flatMap_def]
        exact List.sublist_flatten_of_mem (List.mem_map_of_mem member)
      have := within.length_le
      rw [List.length_cons] at this
      omega

theorem length_parts_le (parts : List (List Symbol)) :
    parts.length ≤ (separated parts).length + 1 := by
  cases parts with
  | nil => exact Nat.zero_le _
  | cons first later =>
    have each : later.length ≤ (later.flatMap (comma :: ·)).length := by
      induction later with
      | nil => exact Nat.le_refl _
      | cons next later hyp =>
        rw [List.flatMap_cons, List.length_append, List.length_cons, List.length_cons]
        omega
    rw [separated, List.length_append, List.length_cons]
    omega

theorem separated_concat (parts : List (List Symbol)) (part : List Symbol) :
    ∃ front, separated (parts ++ [part]) = front ++ part := by
  cases parts with
  | nil => exact ⟨[], List.append_nil part⟩
  | cons first later => exact ⟨first ++ (later.flatMap (comma :: ·) ++ [comma]), by simp [separated]⟩

end Symbol

mutual

def symbols : Json → List Symbol
  | text value => [.text value]
  | list items => .beginList :: (Symbol.separated (symbolsOfItems items) ++ [.endList])
  | object fields => .beginObject :: (Symbol.separated (symbolsOfFields fields) ++ [.endObject])
  | unwritable _ => []

def symbolsOfItems : List Json → List (List Symbol)
  | [] => []
  | item :: items => item.symbols :: symbolsOfItems items

def symbolsOfFields : List (String × Json) → List (List Symbol)
  | [] => []
  | (key, value) :: fields => (.text key :: .colon :: value.symbols) :: symbolsOfFields fields

end

def fieldSymbols (field : String × Json) : List Symbol := .text field.1 :: .colon :: field.2.symbols

theorem symbolsOfItems_eq_map (items : List Json) : symbolsOfItems items = items.map symbols := by
  induction items with
  | nil => rfl
  | cons item items hyp => rw [symbolsOfItems, hyp, List.map_cons]

theorem symbolsOfFields_eq_map (fields : List (String × Json)) :
    symbolsOfFields fields = fields.map fieldSymbols := by
  induction fields with
  | nil => rfl
  | cons field fields hyp => rw [symbolsOfFields, hyp, List.map_cons, fieldSymbols]

/-- Nothing in the value stops the writing. -/
inductive Writable : Json → Prop where
  | text {value : String} : Writable (.text value)
  | list {items : List Json} (each : ∀ item ∈ items, Writable item) : Writable (.list items)
  | object {fields : List (String × Json)} (each : ∀ field ∈ fields, Writable field.2) :
      Writable (.object fields)

def isSpace (char : Char) : Bool := char == ' ' || char == '\t' || char == '\n' || char == '\r'

/-- The mark behind a backslash, and the character that both stand for. -/
def shortEscapes : List (Char × Char) :=
  [('"', '"'), ('\\', '\\'), ('/', '/'), ('b', '\x08'), ('f', '\x0c'), ('n', '\n'), ('r', '\r'),
    ('t', '\t')]

def hexValue? (digit : Char) : Option Nat :=
  if '0' ≤ digit ∧ digit ≤ '9' then some (digit.toNat - 48)
  else if 'a' ≤ digit ∧ digit ≤ 'f' then some (digit.toNat - 87)
  else if 'A' ≤ digit ∧ digit ≤ 'F' then some (digit.toNat - 55)
  else none

/-- The character of a code in hexadecimal digits; half of a surrogate pair is none. -/
def ofCode? (digits : List Char) : Option Char := do
  let values ← digits.mapM hexValue?
  let code := values.foldl (fun code value => 16 * code + value) 0
  if code.isValidChar then some (Char.ofNat code) else none

/-- The characters of a text, and how they stand between its quotes. -/
inductive Quoted : List Char → List Char → Prop where
  | nil : Quoted [] []
  | plain {char : Char} {value body : List Char} (unquoted : char ≠ '"') (unescaped : char ≠ '\\')
      (printable : 0x20 ≤ char.toNat) (rest : Quoted value body) :
      Quoted (char :: value) (char :: body)
  | short {mark char : Char} {value body : List Char} (escape : shortEscapes.lookup mark = some char)
      (rest : Quoted value body) : Quoted (char :: value) ('\\' :: mark :: body)
  | code {first second third fourth char : Char} {value body : List Char}
      (digits : ofCode? [first, second, third, fourth] = some char) (rest : Quoted value body) :
      Quoted (char :: value) ('\\' :: 'u' :: first :: second :: third :: fourth :: body)

/-- A text that holds symbols in order, with space in front of any of them and at the end. -/
inductive Spells : List Symbol → List Char → Prop where
  | nil : Spells [] []
  | space {char : Char} {symbols : List Symbol} {text : List Char} (blank : isSpace char = true)
      (rest : Spells symbols text) : Spells symbols (char :: text)
  | mark {char : Char} {symbol : Symbol} {symbols : List Symbol} {text : List Char}
      (known : Symbol.ofMark? char = some symbol) (rest : Spells symbols text) :
      Spells (symbol :: symbols) (char :: text)
  | text {value : String} {symbols : List Symbol} {body text : List Char}
      (quoted : Quoted value.toList body) (rest : Spells symbols text) :
      Spells (.text value :: symbols) ('"' :: (body ++ '"' :: text))

/-- The symbols of a text. `begun` holds what has been read of a text between quotes, the last
character first. -/
def scan : Option (List Char) → List Char → Option (List Symbol)
  | none, [] => some []
  | some _, [] => none
  | none, char :: rest =>
    if char = '"' then scan (some []) rest
    else if isSpace char then scan none rest
    else
      match Symbol.ofMark? char with
      | some symbol => (scan none rest).map (symbol :: ·)
      | none => none
  | some begun, '"' :: rest => (scan none rest).map (.text (String.ofList begun.reverse) :: ·)
  | some begun, '\\' :: 'u' :: first :: second :: third :: fourth :: rest =>
    match ofCode? [first, second, third, fourth] with
    | some char => scan (some (char :: begun)) rest
    | none => none
  | some begun, '\\' :: mark :: rest =>
    match shortEscapes.lookup mark with
    | some char => scan (some (char :: begun)) rest
    | none => none
  | some begun, char :: rest =>
    if char.toNat < 0x20 then none else scan (some (char :: begun)) rest

def several {Item : Type} (one : List Symbol → Option (Item × List Symbol)) (last : Symbol) :
    Nat → List Symbol → Option (List Item × List Symbol)
  | 0, _ => none
  | fuel + 1, symbols =>
    match one symbols with
    | some (item, .comma :: rest) =>
      (several one last fuel rest).map fun (items, rest) => (item :: items, rest)
    | some (item, symbol :: rest) => if symbol = last then some ([item], rest) else none
    | _ => none

def field (value : List Symbol → Option (Json × List Symbol)) :
    List Symbol → Option ((String × Json) × List Symbol)
  | .text key :: .colon :: rest => (value rest).map fun (value, rest) => ((key, value), rest)
  | _ => none

/-- A value at the beginning of symbols, and the symbols behind it. There is fuel enough if there is as
much as symbols. -/
def parse : Nat → List Symbol → Option (Json × List Symbol)
  | 0, _ => none
  | _ + 1, .text value :: rest => some (.text value, rest)
  | _ + 1, .beginList :: .endList :: rest => some (.list [], rest)
  | fuel + 1, .beginList :: rest =>
    (several (parse fuel) .endList fuel rest).map fun (items, rest) => (.list items, rest)
  | _ + 1, .beginObject :: .endObject :: rest => some (.object [], rest)
  | fuel + 1, .beginObject :: rest =>
    (several (field (parse fuel)) .endObject fuel rest).map fun (fields, rest) => (.object fields, rest)
  | _ + 1, _ => none

def read? (text : List Char) : Option Json := do
  let symbols ← scan none text
  match parse symbols.length symbols with
  | some (value, []) => some value
  | _ => none

private theorem scan_plain {char : Char} (unquoted : char ≠ '"') (unescaped : char ≠ '\\')
    (printable : 0x20 ≤ char.toNat) (begun rest : List Char) :
    scan (some begun) (char :: rest) = scan (some (char :: begun)) rest := by
  simp [scan, unescaped, Nat.not_lt.mpr printable]

private theorem scan_short {mark char : Char} (escape : shortEscapes.lookup mark = some char)
    (begun rest : List Char) :
    scan (some begun) ('\\' :: mark :: rest) = scan (some (char :: begun)) rest := by
  have other : mark ≠ 'u' := by
    rintro rfl
    cases escape
  simp [scan, other, escape]

theorem scan_quoted {value body : List Char} (quoted : Quoted value body) (begun rest : List Char) :
    scan (some begun) (body ++ '"' :: rest) =
      (scan none rest).map (.text (String.ofList (begun.reverse ++ value)) :: ·) := by
  induction quoted generalizing begun with
  | nil => simp [scan]
  | plain unquoted unescaped printable quoted hyp =>
    rw [List.cons_append, scan_plain unquoted unescaped printable, hyp]
    simp
  | short escape quoted hyp =>
    rw [List.cons_append, List.cons_append, scan_short escape, hyp]
    simp
  | code digits quoted hyp =>
    simp only [List.cons_append, scan, digits]
    rw [hyp]
    simp

/-- Every spelling of symbols is read as those symbols. -/
theorem scan_of_spells {symbols : List Symbol} {text : List Char} (spells : Spells symbols text) :
    scan none text = some symbols := by
  induction spells with
  | nil => rfl
  | @space char _ _ blank rest hyp =>
    have other : char ≠ '"' := by
      rintro rfl
      cases blank
    rw [scan, if_neg other, if_pos blank, hyp]
  | @mark char _ _ _ known rest hyp =>
    have unquoted : char ≠ '"' := by
      rintro rfl
      cases known
    have unspaced : ¬ isSpace char = true := by
      intro blank
      simp only [isSpace, Bool.or_eq_true, beq_iff_eq] at blank
      rcases blank with ((rfl | rfl) | rfl) | rfl <;> cases known
    rw [scan, if_neg unquoted, if_neg unspaced, known, hyp]
    rfl
  | text quoted rest hyp =>
    rw [scan, if_pos rfl, scan_quoted quoted, hyp]
    simp

theorem Spells.unique {first second : List Symbol} {text : List Char} (one : Spells first text)
    (other : Spells second text) : first = second :=
  Option.some.inj ((scan_of_spells one).symm.trans (scan_of_spells other))

theorem Spells.concat_space {symbols : List Symbol} {text : List Char} (spells : Spells symbols text)
    {char : Char} (blank : isSpace char = true) : Spells symbols (text ++ [char]) := by
  induction spells with
  | nil => exact .space blank .nil
  | space other rest hyp => exact .space other hyp
  | mark known rest hyp => exact .mark known hyp
  | text quoted rest hyp => simpa using Spells.text quoted hyp

private theorem several_counted {Item : Type} {one : List Symbol → Option (Item × List Symbol)}
    {last : Symbol} (ends : last ≠ .comma) {write : Item → List Symbol} {items : List Item}
    (filled : items ≠ []) (reads : ∀ item ∈ items, ∀ rest, one (write item ++ rest) = some (item, rest))
    {fuel : Nat} (enough : items.length ≤ fuel) (rest : List Symbol) :
    several one last fuel (Symbol.separated (items.map write) ++ last :: rest) = some (items, rest) := by
  induction items generalizing fuel with
  | nil => exact absurd rfl filled
  | cons item items hyp =>
    rw [List.length_cons] at enough
    obtain ⟨less, rfl⟩ := Nat.exists_eq_succ_of_ne_zero (Nat.ne_zero_of_lt enough)
    have read := reads item List.mem_cons_self
    have others : ∀ other ∈ items, ∀ rest, one (write other ++ rest) = some (other, rest) :=
      fun other member => reads other (List.mem_cons_of_mem item member)
    rw [List.map_cons, Symbol.separated, List.append_assoc, several, read]
    cases items with
    | nil => simp
    | cons next items =>
      have later := hyp (List.cons_ne_nil _ _) others (Nat.le_of_succ_le_succ enough)
      rw [List.map_cons, Symbol.separated, List.append_assoc] at later
      simp only [List.map_cons, List.flatMap_cons, List.cons_append, List.append_assoc]
      rw [later]
      rfl

theorem several_separated {Item : Type} {one : List Symbol → Option (Item × List Symbol)}
    {last : Symbol} (ends : last ≠ .comma) {write : Item → List Symbol} {items : List Item}
    (filled : items ≠ []) (reads : ∀ item ∈ items, ∀ rest, one (write item ++ rest) = some (item, rest))
    {fuel : Nat} (enough : (Symbol.separated (items.map write)).length < fuel) (rest : List Symbol) :
    several one last fuel (Symbol.separated (items.map write) ++ last :: rest) = some (items, rest) := by
  have number := Symbol.length_parts_le (items.map write)
  rw [List.length_map] at number
  exact several_counted ends filled reads (Nat.le_trans number enough) rest

theorem head_symbols {value : Json} (writable : Writable value) :
    ∃ first later, value.symbols = first :: later ∧ first ≠ .endList := by
  cases writable with
  | text => exact ⟨_, _, symbols.eq_1 _, by simp⟩
  | list each => exact ⟨_, _, symbols.eq_2 _, by simp⟩
  | object each => exact ⟨_, _, symbols.eq_3 _, by simp⟩

/-- The symbols of a value are parsed as that value, whatever follows them. -/
theorem parse_symbols {value : Json} (writable : Writable value) {fuel : Nat}
    (enough : value.symbols.length ≤ fuel) (rest : List Symbol) :
    parse fuel (value.symbols ++ rest) = some (value, rest) := by
  induction writable generalizing fuel rest with
  | text =>
    obtain ⟨less, rfl⟩ := Nat.exists_eq_succ_of_ne_zero (Nat.ne_zero_of_lt enough)
    rfl
  | @list items each hyp =>
    rw [symbols, symbolsOfItems_eq_map] at enough ⊢
    obtain ⟨less, rfl⟩ := Nat.exists_eq_succ_of_ne_zero (Nat.ne_zero_of_lt enough)
    rw [List.length_cons, List.length_append, Nat.succ_le_succ_iff] at enough
    cases items with
    | nil => rfl
    | cons item items =>
      have reads : ∀ part ∈ item :: items, ∀ rest,
          parse less (part.symbols ++ rest) = some (part, rest) := by
        intro part member rest
        have within := Symbol.length_le_separated (List.mem_map_of_mem (f := symbols) member)
        exact hyp part member (Nat.le_trans within (Nat.le_of_succ_le enough)) rest
      have ends : Symbol.endList ≠ .comma := by simp
      have together := several_separated ends (List.cons_ne_nil item items) reads enough rest
      -- The first symbol is not the end of the list, so the list is not taken for an empty one.
      obtain ⟨first, later, begins, other⟩ := head_symbols (each item List.mem_cons_self)
      rw [List.map_cons, Symbol.separated, begins] at together ⊢
      simp only [List.cons_append, List.append_assoc, List.nil_append] at together ⊢
      rw [parse, together]
      · rfl
      · intro rest same
        exact other (List.cons.inj same).1
  | @object fields each hyp =>
    rw [symbols, symbolsOfFields_eq_map] at enough ⊢
    obtain ⟨less, rfl⟩ := Nat.exists_eq_succ_of_ne_zero (Nat.ne_zero_of_lt enough)
    rw [List.length_cons, List.length_append, Nat.succ_le_succ_iff] at enough
    cases fields with
    | nil => rfl
    | cons first fields =>
      have reads : ∀ part ∈ first :: fields, ∀ rest,
          field (parse less) (fieldSymbols part ++ rest) = some (part, rest) := by
        intro part member rest
        have within := Symbol.length_le_separated (List.mem_map_of_mem (f := fieldSymbols) member)
        rw [fieldSymbols, List.length_cons, List.length_cons] at within
        have room : part.2.symbols.length ≤ less := by omega
        simp [fieldSymbols, field, hyp part member room rest]
      have ends : Symbol.endObject ≠ .comma := by simp
      have together := several_separated ends (List.cons_ne_nil first fields) reads enough rest
      rw [List.map_cons, Symbol.separated, fieldSymbols] at together ⊢
      simp only [List.cons_append, List.append_assoc, List.nil_append] at together ⊢
      rw [parse, together]
      · rfl
      · intro rest same
        cases same

/-- Every text that spells a value is read as that value. -/
theorem read?_of_spells {value : Json} {text : List Char} (writable : Writable value)
    (spells : Spells value.symbols text) : read? text = some value := by
  have parsed := parse_symbols writable (Nat.le_refl _) []
  rw [List.append_nil] at parsed
  simp [read?, scan_of_spells spells, parsed]

end LeadingComment.Json
