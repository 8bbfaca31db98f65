import LeadingComment.Source

namespace LeadingComment

namespace Place

private theorem passEach_position {place after : Place} {count : Nat}
    (passed : place.passEach count = (none, after)) : after.position = place.position + count := by
  induction count generalizing place with
  | zero =>
    cases passed
    rfl
  | succ count hyp =>
    rw [passEach] at passed
    rcases struck : strike place.position place.traps with ⟨_ | fault, traps⟩
    · rw [struck] at passed
      have moved := hyp passed
      simp only at moved
      omega
    · rw [struck] at passed
      cases passed

theorem pass_position {place after : Place} {count : Nat} (passed : place.pass count = (none, after)) :
    after.position = place.position + count := by
  rw [pass_eq_passEach] at passed
  exact passEach_position passed

theorem atEnd_position (place : Place) : place.atEnd.place.position = place.position := by
  rw [atEnd]
  rcases strike place.position place.traps with ⟨_ | fault, traps⟩ <;> rfl

/-- A line that is read is text, and nothing behind it has been consumed. -/
theorem readLine_ok {place : Place} {line : Bytes} {taken : Taken}
    (read : place.readLine line = .ok taken) :
    Utf8.decode? line = some taken.raw ∧ taken.after.position = place.position + line.length := by
  rw [readLine] at read
  rcases passed : place.pass line.length with ⟨_ | fault, after⟩
  · rw [passed] at read
    have stop : (if Line.isEnded line then Ending.complete after else after.atEnd).place.position =
        place.position + line.length := by
      rw [← pass_position passed]
      split
      · rfl
      · exact atEnd_position after
    simp only at read
    split at read
    · cases read
    next raw met decoded =>
      cases read
      rw [met] at stop
      exact ⟨decoded, stop⟩
    · cases read
  · rw [passed] at read
    cases read

theorem readOn_line {place : Place} {lines : List Bytes} {index : Nat} {taken : Taken}
    (found : (place.readOn [] lines).lines[index]? = some taken) :
    ∃ line, lines[index]? = some line ∧ Utf8.decode? line = some taken.raw ∧
      taken.after.position = place.position + (lines.take (index + 1)).flatten.length := by
  induction lines generalizing place index with
  | nil => simp [readOn] at found
  | cons line later hyp =>
    rw [readOn_cons] at found
    cases read : place.readLine line with
    | error halt => simp [read] at found
    | ok first =>
      obtain ⟨decoded, behind⟩ := readLine_ok read
      rw [read] at found
      cases index with
      | zero =>
        cases found
        exact ⟨line, rfl, decoded, by simpa using behind⟩
      | succ index =>
        obtain ⟨other, same, decoded, place_eq⟩ := hyp found
        refine ⟨other, same, decoded, ?_⟩
        rw [place_eq, behind, List.take_succ_cons, List.flatten_cons, List.length_append]
        omega

end Place

/-- The first lines of a reading are those cut from the bytes ahead, in order. -/
theorem Source.reading_line {source : Source} {lines : List Taken}
    (front : lines <+: source.reading.lines) {index : Nat} {taken : Taken}
    (found : lines[index]? = some taken) :
    ∃ line, (Line.cut source.ahead)[index]? = some line ∧ Utf8.decode? line = some taken.raw ∧
      taken.after.position =
        source.position + ((Line.cut source.ahead).take (index + 1)).flatten.length := by
  obtain ⟨rest, same⟩ := front
  have within : index < lines.length := (List.getElem?_eq_some_iff.mp found).1
  have read : source.reading.lines[index]? = some taken := by
    rw [← same, List.getElem?_append_left within, found]
  exact Place.readOn_line read

end LeadingComment
