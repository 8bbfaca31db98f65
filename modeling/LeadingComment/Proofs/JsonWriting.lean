import LeadingComment.Proofs.JsonReading

/-! What is written for a value spells it. Writing puts a value in front of what follows it, so pieces of
text are told by what they add in front of any spelling (`Adds`), and drafts by what they put in front of
another draft (`Puts`). -/
namespace LeadingComment.Json

/-- A text that can stand in front of every spelling, and adds symbols to it. -/
def Adds (symbols : List Symbol) (piece : String) : Prop :=
  ∀ later text, Spells later text → Spells (symbols ++ later) (piece.toList ++ text)

namespace Adds

theorem append {first second : List Symbol} {front back : String} (begins : Adds first front)
    (follows : Adds second back) : Adds (first ++ second) (front ++ back) := by
  intro later text spells
  have whole := begins _ _ (follows later text spells)
  rwa [← List.append_assoc, ← List.append_assoc, ← String.toList_append] at whole

theorem spaces {piece : String} (blank : ∀ char ∈ piece.toList, isSpace char = true) : Adds [] piece := by
  intro later text spells
  generalize piece.toList = chars at blank
  induction chars with
  | nil => exact spells
  | cons char chars hyp =>
    have rest := hyp fun other member => blank other (List.mem_cons_of_mem char member)
    exact .space (blank char List.mem_cons_self) rest

theorem mark (char : Char) {symbol : Symbol} (known : Symbol.ofMark? char = some symbol) :
    Adds [symbol] (String.ofList [char]) := by
  intro later text spells
  rw [String.toList_ofList]
  exact .mark known spells

end Adds

theorem adds_lineBreak (level : Nat) : Adds [] (lineBreak level) := by
  apply Adds.spaces
  intro char member
  rw [lineBreak, String.toList_ofList, List.mem_cons] at member
  rcases member with rfl | member
  · rfl
  · rw [List.eq_of_mem_replicate member]
    rfl

private theorem ofCode?_hexDigit : ∀ code < 0x20,
    ofCode? ['0', '0', hexDigit (code / 16), hexDigit (code % 16)] = some (Char.ofNat code) := by
  decide

private theorem quoted_escape (char : Char) {value body : List Char} (rest : Quoted value body) :
    Quoted (char :: value) (escape char ++ body) := by
  have same : Char.ofNat char.toNat = char := Char.ofNat_toNat char
  have short {code : Nat} {mark : Char} (found : char.toNat = code)
      (escape : shortEscapes.lookup mark = some (Char.ofNat code)) :
      Quoted (char :: value) ('\\' :: mark :: body) := by
    rw [← found, same] at escape
    exact .short escape rest
  unfold escape
  dsimp only
  split
  next quote => exact short (congrArg Char.toNat quote) rfl
  split
  next backslash => exact short (congrArg Char.toNat backslash) rfl
  next unquoted unescaped =>
    split
    next code => exact short code rfl
    split
    next code => exact short code rfl
    split
    next code => exact short code rfl
    split
    next code => exact short code rfl
    split
    next code => exact short code rfl
    split
    next control =>
      have digits := ofCode?_hexDigit char.toNat control
      rw [same] at digits
      exact .code digits rest
    next printable => exact .plain unquoted unescaped (Nat.le_of_not_lt printable) rest

theorem quoted_flatMap_escape (value : List Char) : Quoted value (value.flatMap escape) := by
  induction value with
  | nil => exact .nil
  | cons char value hyp =>
    rw [List.flatMap_cons]
    exact quoted_escape char hyp

theorem adds_quote (value : String) : Adds [.text value] (quote value) := by
  intro later text spells
  have spelled := Spells.text (quoted_flatMap_escape value.toList) spells
  simpa [quote] using spelled

/-- A draft that begins with symbols and goes on as another draft. -/
def Puts (symbols : List Symbol) (draft rest : Draft) : Prop :=
  ∃ front, Adds symbols front ∧ draft.text = front ++ rest.text ∧ draft.stop = rest.stop

namespace Puts

theorem refl (draft : Draft) : Puts [] draft draft := by
  refine ⟨"", Adds.spaces ?_, ?_, rfl⟩
  · intro char member
    cases member
  · rw [String.empty_append]

theorem put {symbols later : List Symbol} {piece : String} {draft rest : Draft}
    (adds : Adds symbols piece) (puts : Puts later draft rest) :
    Puts (symbols ++ later) (draft.put piece) rest := by
  obtain ⟨front, follows, text, stop⟩ := puts
  refine ⟨piece ++ front, adds.append follows, ?_, stop⟩
  rw [Draft.text, Draft.put, String.join_cons, ← Draft.text, text, String.append_assoc]

theorem trans {first second : List Symbol} {draft next rest : Draft} (begins : Puts first draft next)
    (follows : Puts second next rest) : Puts (first ++ second) draft rest := by
  obtain ⟨front, adds, text, stop⟩ := begins
  obtain ⟨back, more, after, same⟩ := follows
  refine ⟨front ++ back, adds.append more, ?_, stop.trans same⟩
  rw [text, after, String.append_assoc]

end Puts

private theorem adds_comma (level : Nat) : Adds [.comma] ("," ++ lineBreak level) :=
  Adds.append (Adds.mark ',' rfl) (adds_lineBreak level)

private theorem adds_key (level : Nat) (key : String) :
    Adds [.text key, .colon] (lineBreak level ++ quote key ++ ": ") := by
  have space : Adds [] " " := Adds.spaces (by simp [isSpace])
  have colon : Adds [.colon] ": " := Adds.append (Adds.mark ':' rfl) space
  exact ((adds_lineBreak level).append (adds_quote key)).append colon

private theorem renderItems_puts {items : List Json}
    (each : ∀ item ∈ items, ∀ level rest, Puts item.symbols (render level rest item) rest)
    (level : Nat) (rest : Draft) :
    Puts ((items.map symbols).flatMap (.comma :: ·)) (renderItems level rest items) rest := by
  induction items with
  | nil => exact Puts.refl rest
  | cons item items hyp =>
    have later := hyp fun other member => each other (List.mem_cons_of_mem item member)
    have first := each item List.mem_cons_self level (renderItems level rest items)
    have whole := Puts.put (adds_comma level) (first.trans later)
    exact whole

private theorem renderFields_puts {fields : List (String × Json)}
    (each : ∀ field ∈ fields, ∀ level rest, Puts field.2.symbols (render level rest field.2) rest)
    (level : Nat) (rest : Draft) :
    Puts ((fields.map fieldSymbols).flatMap (.comma :: ·)) (renderFields level rest fields) rest := by
  induction fields with
  | nil => exact Puts.refl rest
  | cons field fields hyp =>
    have later := hyp fun other member => each other (List.mem_cons_of_mem field member)
    have first := each field List.mem_cons_self level (renderFields level rest fields)
    have comma : Adds [.comma] "," := Adds.mark ',' rfl
    have key := comma.append (adds_key level field.1)
    rw [← String.append_assoc, ← String.append_assoc] at key
    have whole := Puts.put key (first.trans later)
    exact whole

/-- A draft that begins with something between brackets and goes on as another draft. -/
def Encloses (symbols : List Symbol) (before after : String) (draft rest : Draft) : Prop :=
  ∃ body, Adds symbols (before ++ body ++ after) ∧
    draft.text = before ++ body ++ after ++ rest.text ∧ draft.stop = rest.stop

private theorem Encloses.puts {symbols : List Symbol} {before after : String} {draft rest : Draft}
    (encloses : Encloses symbols before after draft rest) : Puts symbols draft rest := by
  obtain ⟨body, adds, text, stop⟩ := encloses
  exact ⟨_, adds, text, stop⟩

private theorem encloses_nothing {opening closing : Symbol} {before after : String}
    (opens : Adds [opening] before) (closes : Adds [closing] after) (rest : Draft) :
    Encloses [opening, closing] before after (rest.put (before ++ after)) rest := by
  refine ⟨"", ?_, ?_, rfl⟩
  · rw [String.append_empty]
    exact opens.append closes
  · rw [String.append_empty, Draft.text, Draft.put, String.join_cons, ← Draft.text]

private theorem encloses_lines {opening closing : Symbol} {before after : String} {level : Nat}
    {inside : List Symbol} {draft rest : Draft} (opens : Adds [opening] before)
    (closes : Adds [closing] after) (puts : Puts inside draft ((rest.put after).put (lineBreak level))) :
    Encloses (opening :: (inside ++ [closing])) before after (draft.put before) rest := by
  obtain ⟨front, adds, text, stop⟩ := puts
  refine ⟨front ++ lineBreak level, ?_, ?_, stop⟩
  · have whole := (opens.append (adds.append (adds_lineBreak level))).append closes
    rw [List.append_nil] at whole
    exact whole
  · have pieces : (draft.put before).text = before ++ draft.text := String.join_cons
    have last : ((rest.put after).put (lineBreak level)).text = lineBreak level ++ (after ++ rest.text) := by
      simp only [Draft.text, Draft.put, String.join_cons]
    rw [pieces, text, last]
    simp only [String.append_assoc]

private theorem render_list {items : List Json}
    (each : ∀ item ∈ items, ∀ level rest, Puts item.symbols (render level rest item) rest)
    (level : Nat) (rest : Draft) :
    Encloses (list items).symbols "[" "]" (render level rest (.list items)) rest := by
  have opens : Adds [.beginList] "[" := Adds.mark '[' rfl
  have closes : Adds [.endList] "]" := Adds.mark ']' rfl
  rw [symbols, symbolsOfItems_eq_map]
  cases items with
  | nil => exact encloses_nothing opens closes rest
  | cons item items =>
    have later := renderItems_puts (fun other member => each other (List.mem_cons_of_mem item member))
      (level + 1) ((rest.put "]").put (lineBreak level))
    have first := (each item List.mem_cons_self (level + 1) _).trans later
    have inside := Puts.put (adds_lineBreak (level + 1)) first
    exact encloses_lines opens closes inside

private theorem render_object {fields : List (String × Json)}
    (each : ∀ field ∈ fields, ∀ level rest, Puts field.2.symbols (render level rest field.2) rest)
    (level : Nat) (rest : Draft) :
    Encloses (object fields).symbols "\x7b" "\x7d" (render level rest (.object fields)) rest := by
  have opens : Adds [.beginObject] "\x7b" := Adds.mark '\x7b' rfl
  have closes : Adds [.endObject] "\x7d" := Adds.mark '\x7d' rfl
  rw [symbols, symbolsOfFields_eq_map]
  cases fields with
  | nil => exact encloses_nothing opens closes rest
  | cons field fields =>
    have later := renderFields_puts (fun other member => each other (List.mem_cons_of_mem field member))
      (level + 1) ((rest.put "\x7d").put (lineBreak level))
    have first := (each field List.mem_cons_self (level + 1) _).trans later
    have inside := Puts.put (adds_key (level + 1) field.1) first
    exact encloses_lines opens closes inside

/-- A value that can be written is put in front of what follows it. -/
theorem render_puts {value : Json} (writable : Writable value) (level : Nat) (rest : Draft) :
    Puts value.symbols (render level rest value) rest := by
  induction writable generalizing level rest with
  | @text value => exact Puts.put (adds_quote value) (Puts.refl rest)
  | list each hyp => exact (render_list hyp level rest).puts
  | object each hyp => exact (render_object hyp level rest).puts

/-- The document of a list: one spelling of it, from bracket to bracket, and one newline. -/
theorem document_list {items : List Json} (each : ∀ item ∈ items, Writable item) :
    ∃ body : String, (document (.list items)).text = "[" ++ body ++ "]" ++ "\n" ∧
      (document (.list items)).stop = none ∧
      Spells (list items).symbols ("[" ++ body ++ "]").toList := by
  obtain ⟨body, adds, text, stop⟩ :=
    render_list (fun item member => render_puts (each item member)) 0 { pieces := ["\n"] }
  refine ⟨body, text, stop, ?_⟩
  have spelled := adds [] [] .nil
  rwa [List.append_nil, List.append_nil] at spelled

/-- The document of a list is read as that list. -/
theorem read?_document_list {items : List Json} (each : ∀ item ∈ items, Writable item) :
    read? (document (.list items)).text.toList = some (.list items) := by
  obtain ⟨front, adds, text, _⟩ := render_puts (.list each) 0 { pieces := ["\n"] }
  have newline : Spells [] "\n".toList := .space rfl .nil
  have spelled := adds [] _ newline
  rw [List.append_nil, ← String.toList_append] at spelled
  rw [document, text]
  exact read?_of_spells (.list each) spelled

private theorem renderItems_append (level : Nat) (rest : Draft) (front later : List Json) :
    renderItems level rest (front ++ later) =
      renderItems level (renderItems level rest later) front := by
  induction front with
  | nil => rfl
  | cons item front hyp => rw [List.cons_append, renderItems, renderItems, hyp]

private theorem render_stopped (key : String) (fault : Fault) (fields : List (String × Json))
    (level : Nat) (rest : Draft) :
    Puts [.beginObject, .text key, .colon]
      (render level rest (.object ((key, .unwritable fault) :: fields))) { stop := some fault } :=
  Puts.put (Adds.mark '\x7b' rfl) (Puts.put (adds_key (level + 1) key) (Puts.refl _))

private theorem renderList_stopped {front : List Json} (each : ∀ item ∈ front, Writable item) (key : String)
    (fault : Fault) (fields : List (String × Json)) (later : List Json) (level : Nat) (rest : Draft) :
    Puts (.beginList :: Symbol.separated (front.map symbols ++ [[.beginObject, .text key, .colon]]))
      (render level rest (.list (front ++ .object ((key, .unwritable fault) :: fields) :: later)))
      { stop := some fault } := by
  have opens : Adds [.beginList] "[" := Adds.mark '[' rfl
  have stopped := render_stopped key fault fields (level + 1)
    (renderItems (level + 1) ((rest.put "]").put (lineBreak level)) later)
  cases front with
  | nil =>
    have inside := Puts.put (adds_lineBreak (level + 1)) stopped
    have whole := Puts.put opens inside
    exact whole
  | cons item front =>
    have others : ∀ other ∈ front, Writable other :=
      fun other member => each other (List.mem_cons_of_mem item member)
    have first := render_puts (each item List.mem_cons_self) (level + 1)
    have behind := renderItems_puts (fun other member => render_puts (others other member)) (level + 1)
    have last := Puts.put (adds_comma (level + 1)) stopped
    have inside := Puts.put (adds_lineBreak (level + 1)) (((first _).trans (behind _)).trans last)
    have whole := Puts.put opens inside
    rw [List.cons_append, render, renderItems_append, renderItems]
    simpa [Symbol.separated] using whole

/-- A list of objects of which one cannot be written: its document stops there. What has been written
are the items before it and the key of the value that is missing. -/
theorem document_stopped {front : List Json} (each : ∀ item ∈ front, Writable item) (key : String)
    (fault : Fault) (fields : List (String × Json)) (later : List Json) :
    let draft := document (.list (front ++ .object ((key, .unwritable fault) :: fields) :: later))
    draft.stop = some fault ∧
      Spells (.beginList :: Symbol.separated (front.map symbols ++ [[.beginObject, .text key, .colon]]))
        draft.text.toList := by
  obtain ⟨written, adds, text, stop⟩ :=
    renderList_stopped each key fault fields later 0 { pieces := ["\n"] }
  refine ⟨stop, ?_⟩
  have spelled := adds [] [] .nil
  have nothing : ({ stop := some fault } : Draft).text = "" := rfl
  rw [nothing, String.append_empty] at text
  rw [List.append_nil, List.append_nil, ← text] at spelled
  exact spelled

end LeadingComment.Json
