import LeadingComment.Text.Utf8

namespace LeadingComment

namespace Line

def newline : UInt8 := 10

def attach (byte : UInt8) : List Bytes → List Bytes
  | [] => [[byte]]
  | line :: lines => if byte = newline then [byte] :: line :: lines else (byte :: line) :: lines

/-- The lines in order, each with its newline; none of them is empty. -/
def cut (bytes : Bytes) : List Bytes := bytes.foldr attach []

/-- Goes over the lines one at a time, and not over those behind the one at which a step halts.
`begun` holds the bytes of the line at hand, the last one first. -/
def walk {State Halt : Type} (step : State → Bytes → Except Halt State) (begun : Bytes)
    (state : State) : Bytes → Except Halt State
  | [] => if begun.isEmpty then .ok state else step state begun.reverse
  | byte :: bytes =>
    if byte = newline then
      match step state (byte :: begun).reverse with
      | .ok state => walk step [] state bytes
      | .error halt => .error halt
    else walk step (byte :: begun) state bytes

def first? (bytes : Bytes) : Option Bytes :=
  match walk (fun (_ : Unit) line => .error line) [] () bytes with
  | .ok _ => none
  | .error line => some line

def isEnded (line : Bytes) : Bool := line.getLast? == some newline

def dropFinal (mark : Char) (text : List Char) : List Char :=
  if text.getLast? = some mark then text.dropLast else text

/-- Removes one newline and then one carriage return, each only if it is last. -/
def chomp (text : List Char) : List Char := dropFinal '\r' (dropFinal '\n' text)

theorem isEnded_iff {line : Bytes} : isEnded line = true ↔ line.getLast? = some newline := beq_iff_eq

private theorem flatten_attach (byte : UInt8) (lines : List Bytes) :
    (attach byte lines).flatten = byte :: lines.flatten := by
  cases lines with
  | nil => rfl
  | cons line lines => simp only [attach]; split <;> simp

theorem flatten_cut (bytes : Bytes) : (cut bytes).flatten = bytes := by
  induction bytes with
  | nil => rfl
  | cons byte bytes hyp =>
    rw [cut, List.foldr_cons, flatten_attach]
    exact congrArg (byte :: ·) hyp

theorem cut_begun_end {begun : Bytes} (unended : newline ∉ begun) (begins : begun ≠ []) :
    cut begun = [begun] := by
  induction begun with
  | nil => exact absurd rfl begins
  | cons byte begun hyp =>
    have other : byte ≠ newline := fun same => unended (by simp [same])
    rw [cut, List.foldr_cons, ← cut]
    cases begun with
    | nil => rfl
    | cons next begun =>
      rw [hyp (fun member => unended (List.mem_cons_of_mem byte member)) (List.cons_ne_nil _ _)]
      simp [attach, other]

theorem cut_begun_newline {begun : Bytes} (unended : newline ∉ begun) (bytes : Bytes) :
    cut (begun ++ newline :: bytes) = (begun ++ [newline]) :: cut bytes := by
  induction begun with
  | nil =>
    rw [List.nil_append, cut, List.foldr_cons, ← cut]
    cases cut bytes <;> simp [attach]
  | cons byte begun hyp =>
    have other : byte ≠ newline := fun same => unended (by simp [same])
    rw [List.cons_append, cut, List.foldr_cons, ← cut,
      hyp (fun member => unended (List.mem_cons_of_mem byte member))]
    simp [attach, other]

/-- Bytes line by line: none, a line without newline, or a line with one and more bytes behind it. -/
@[elab_as_elim]
theorem cut_induction {motive : Bytes → Prop} (nil : motive [])
    (last : ∀ begun, newline ∉ begun → begun ≠ [] → motive begun)
    (cons : ∀ begun bytes, newline ∉ begun → motive bytes → motive (begun ++ newline :: bytes))
    (bytes : Bytes) : motive bytes := by
  induction size : bytes.length using Nat.strongRecOn generalizing bytes with
  | _ length hyp =>
    subst size
    by_cases broken : newline ∈ bytes
    · obtain ⟨begun, rest, rfl, unended⟩ := List.eq_append_cons_of_mem broken
      exact cons begun rest unended (hyp rest.length (by simp; omega) rest rfl)
    · by_cases empty : bytes = []
      · rw [empty]
        exact nil
      · exact last bytes broken empty

private theorem walk_begun {State Halt : Type} (step : State → Bytes → Except Halt State)
    {begun : Bytes} (unended : newline ∉ begun) (state : State) (bytes : Bytes) :
    walk step begun state bytes = (cut (begun.reverse ++ bytes)).foldlM step state := by
  induction bytes generalizing begun state with
  | nil =>
    rw [walk, List.append_nil]
    by_cases empty : begun = []
    · subst empty; rfl
    · rw [cut_begun_end (by simpa using unended) (by simpa using empty)]
      have full : begun.isEmpty = false := by simpa using empty
      rw [full]
      simp
  | cons byte bytes hyp =>
    rw [walk]
    by_cases same : byte = newline
    · subst same
      rw [cut_begun_newline (by simpa using unended), List.foldlM_cons]
      simp only [↓reduceIte, List.reverse_cons]
      cases step state (begun.reverse ++ [newline]) with
      | ok state => exact hyp List.not_mem_nil state
      | error halt => rfl
    · have later : newline ∉ byte :: begun := by simp [Ne.symm same, unended]
      rw [hyp later]
      simp [same]

/-- Going over the lines one at a time is going over all that are cut. -/
theorem walk_eq_foldlM {State Halt : Type} (step : State → Bytes → Except Halt State) (state : State)
    (bytes : Bytes) : walk step [] state bytes = (cut bytes).foldlM step state :=
  walk_begun step List.not_mem_nil state bytes

theorem first?_eq_head? (bytes : Bytes) : first? bytes = (cut bytes).head? := by
  rw [first?, walk_eq_foldlM]
  cases cut bytes <;> rfl

/-- A line that others follow ends with a newline, and the bytes behind it are cut as if they stood
alone. -/
theorem cut_behind {bytes line : Bytes} {later : List Bytes} (parts : cut bytes = line :: later) :
    cut (bytes.drop line.length) = later ∧ (later ≠ [] → isEnded line = true) := by
  by_cases broken : newline ∈ bytes
  · obtain ⟨begun, rest, rfl, unended⟩ := List.eq_append_cons_of_mem broken
    rw [cut_begun_newline unended] at parts
    cases parts
    simp [isEnded]
  · have begins : bytes ≠ [] := by
      intro empty
      subst empty
      cases parts
    rw [cut_begun_end broken begins] at parts
    cases parts
    simp [cut]

theorem cut_drop {bytes : Bytes} {front back : List Bytes} (parts : cut bytes = front ++ back) :
    cut (bytes.drop front.flatten.length) = back := by
  induction front generalizing bytes with
  | nil => simpa using parts
  | cons line front hyp =>
    have later := hyp (cut_behind parts).1
    rwa [List.drop_drop, ← List.length_append] at later

/-- A number of lines ends at a newline, unless they are none or all. -/
theorem boundary {bytes : Bytes} {front back : List Bytes} (parts : cut bytes = front ++ back) :
    front = [] ∨ (bytes.take front.flatten.length).getLast? = some newline ∨
      front.flatten.length = bytes.length := by
  have whole : bytes = front.flatten ++ back.flatten := by
    rw [← List.flatten_append, ← parts, flatten_cut]
  cases back with
  | nil =>
    right
    right
    rw [List.flatten_nil, List.append_nil] at whole
    rw [← whole]
  | cons next back =>
    rcases List.eq_nil_or_concat front with none_taken | ⟨init, last, same⟩
    · exact .inl none_taken
    · right
      left
      rw [List.concat_eq_append] at same
      subst same
      have rest : cut (bytes.drop init.flatten.length) = last :: next :: back := by
        apply cut_drop
        simpa using parts
      have ended : isEnded last = true := (cut_behind rest).2 (List.cons_ne_nil next back)
      have final : last.getLast? = some newline := isEnded_iff.mp ended
      have taken : bytes.take (init ++ [last]).flatten.length = init.flatten ++ last := by
        rw [whole, List.take_left]
        simp
      rw [taken, List.getLast?_append, final]
      rfl

theorem cut_ne_nil {bytes : Bytes} (begins : bytes ≠ []) : cut bytes ≠ [] := by
  intro empty
  apply begins
  rw [← flatten_cut bytes, empty]
  rfl

private theorem attach_append {lines : List Bytes} (begun : lines ≠ []) (byte : UInt8)
    (later : List Bytes) : attach byte (lines ++ later) = attach byte lines ++ later := by
  obtain ⟨line, lines, rfl⟩ := List.exists_cons_of_ne_nil begun
  simp only [attach, List.cons_append]
  split <;> rfl

theorem cut_append {front : Bytes} (ended : front.getLast? = some newline) (bytes : Bytes) :
    cut (front ++ bytes) = cut front ++ cut bytes := by
  obtain ⟨begun, rfl⟩ := List.getLast?_eq_some_iff.mp ended
  clear ended
  -- Each byte in front is attached to a line that is there already.
  induction begun with
  | nil =>
    rw [List.nil_append, List.singleton_append]
    exact cut_begun_newline List.not_mem_nil bytes
  | cons byte begun hyp =>
    have filled : cut (begun ++ [newline]) ≠ [] := cut_ne_nil (by simp)
    rw [List.cons_append, List.cons_append, cut, List.foldr_cons, ← cut, hyp, attach_append filled]
    rfl

/-- What stands behind a line that ends with a newline has no part in the lines up to it. -/
theorem cut_replaced {bytes line : Bytes} {front later : List Bytes}
    (parts : cut bytes = front ++ line :: later) (ended : isEnded line = true) (other : Bytes) :
    cut ((front ++ [line]).flatten ++ other) = front ++ line :: cut other := by
  have final : (front ++ [line]).flatten.getLast? = some newline := by
    have last : line.getLast? = some newline := isEnded_iff.mp ended
    rw [List.flatten_append, List.getLast?_append, List.flatten_singleton, last]
    rfl
  have whole : bytes = (front ++ [line]).flatten ++ later.flatten := by
    rw [← flatten_cut bytes, parts]
    simp
  have rest : cut later.flatten = later := by
    have behind : cut bytes = (front ++ [line]) ++ later := by simpa using parts
    have left := cut_drop behind
    rwa [whole, List.drop_left] at left
  have alone : cut (front ++ [line]).flatten = front ++ [line] := by
    apply (List.append_left_inj later).mp
    calc
      cut (front ++ [line]).flatten ++ later
        = cut (front ++ [line]).flatten ++ cut later.flatten := by rw [rest]
      _ = cut bytes := by rw [← cut_append final, ← whole]
      _ = front ++ [line] ++ later := by rw [parts, List.append_assoc, List.singleton_append]
  rw [cut_append final, alone, List.append_assoc, List.singleton_append]

theorem cut_drop_replaced {data line : Bytes} {position : Nat} {front later : List Bytes}
    (parts : cut (data.drop position) = front ++ line :: later) (ended : isEnded line = true)
    (other : Bytes) :
    cut ((data.take (position + (front ++ [line]).flatten.length) ++ other).drop position) =
      front ++ line :: cut other := by
  have whole : data.drop position = (front ++ [line]).flatten ++ later.flatten := by
    rw [← flatten_cut (data.drop position), parts]
    simp
  have before : (data.take position).length = position := by
    have begins : data.drop position ≠ [] := by
      intro empty
      rw [empty] at parts
      simp [cut] at parts
    have inside : 0 < (data.drop position).length := List.length_pos_iff.mpr begins
    rw [List.length_drop] at inside
    rw [List.length_take]
    omega
  have kept : (data.take (position + (front ++ [line]).flatten.length) ++ other).drop position =
      (front ++ [line]).flatten ++ other := by
    rw [List.take_add, whole, List.take_left, List.append_assoc]
    exact List.drop_left' before
  rw [kept]
  exact cut_replaced parts ended other

end Line
end LeadingComment
