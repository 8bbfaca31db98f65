import LeadingComment.Proofs.CommentExtent
import LeadingComment.Proofs.LineAccount
import LeadingComment.Proofs.Lockstep

/-! What faults do to a reading. Interruptions do nothing. Any other fault costs the line at hand: the lines
that have ended before it are handed over, the bytes begun behind them are not, and reading can go on from
where the fault has struck. -/
namespace LeadingComment

theorem strike_halting (offset : Nat) (traps : List Trap) :
    strike offset (traps.filter Trap.halts) =
      ((strike offset traps).1, (strike offset traps).2.filter Trap.halts) := by
  induction traps with
  | nil => rfl
  | cons trap traps hyp =>
    cases halts : trap.halts with
    | false =>
      rw [List.filter_cons_of_neg (by simp [halts]), hyp, strike]
      by_cases here : trap.offset = offset
      · simp [here, trap.isInterruption_eq, halts]
      · simp [here, halts]
    | true =>
      rw [List.filter_cons_of_pos halts, strike, strike]
      by_cases here : trap.offset = offset
      · simp [here, trap.isInterruption_eq, halts]
      · simp [here, halts, hyp]

/-- The same position, and the same traps but for interruptions. -/
structure Place.SameHalts (place other : Place) : Prop where
  position : place.position = other.position
  halts : place.traps.filter Trap.halts = other.traps.filter Trap.halts

theorem Place.SameHalts.keepsStep : Place.KeepsStep Place.SameHalts where
  struck {place other} same := by
    have here := strike_halting place.position place.traps
    have there := strike_halting other.position other.traps
    rw [same.position, same.halts, there] at here
    obtain ⟨faults, left⟩ := Prod.mk.inj here
    rw [same.position]
    exact ⟨faults.symm, rfl, left.symm⟩
  next {place other} same := ⟨congrArg (· + 1) same.position, same.halts⟩

theorem Task.choice_isTextual (task : Task) : task.choice.IsTextual := by
  cases task with
  | head count => exact Choice.head_isTextual count
  | cat => exact Choice.all_isTextual
  | extract style => exact Choice.comment_isTextual style

namespace Source

variable {State : Type}

theorem alike_of_sameHalts (source : Source) {traps others : List Trap}
    (same : traps.filter Trap.halts = others.filter Trap.halts) :
    Alike Place.SameHalts { source with traps } { source with traps := others } where
  seeks := rfl
  place := ⟨rfl, same⟩
  back halts := ⟨rfl, halts.halts⟩
  reading halts := Place.SameHalts.keepsStep.readOn halts (Line.cut source.ahead)

theorem Alike.perform {related : Place → Place → Prop} {source other : Source}
    (alike : source.Alike related other) (sink : Sink State) (state : State) (task : Task) :
    (source.perform sink state task).Alike related (other.perform sink state task) := by
  rw [perform_eq_handOver, perform_eq_handOver]
  exact alike.handOver task.choice_isTextual sink state

end Source

namespace Line

def whole (bytes : Bytes) : List Bytes := (cut bytes).filter isEnded

theorem whole_unended {bytes : Bytes} (unended : newline ∉ bytes) : whole bytes = [] := by
  rw [whole, List.filter_eq_nil_iff]
  intro line member ended
  have inLine : newline ∈ line := List.mem_of_getLast? (isEnded_iff.mp ended)
  apply unended
  rw [← flatten_cut bytes]
  exact List.mem_flatten.mpr ⟨line, member, inLine⟩

theorem whole_cons {begun : Bytes} (unended : newline ∉ begun) (bytes : Bytes) :
    whole (begun ++ newline :: bytes) = (begun ++ [newline]) :: whole bytes := by
  rw [whole, cut_begun_newline unended, List.filter_cons_of_pos (by simp [isEnded])]
  rfl

private theorem whole_take_begun {bytes : Bytes} {count : Nat} (begun : newline ∉ bytes.take count)
    (above : count < reach ((cut bytes).headD [])) :
    ∃ rest, cut bytes = whole (bytes.take count) ++ rest ∧
      (whole (bytes.take count)).flatten.length ≤ count ∧
      count < (whole (bytes.take count)).flatten.length + reach (rest.headD []) := by
  rw [whole_unended begun]
  refine ⟨cut bytes, (List.nil_append _).symm, Nat.zero_le count, ?_⟩
  simpa using above

/-- The lines that have ended among the first `count` bytes are the first of all lines, and reading the next
one reaches over `count`. -/
theorem whole_take (bytes : Bytes) (count : Nat) (within : count ≤ bytes.length) :
    ∃ rest, cut bytes = whole (bytes.take count) ++ rest ∧
      (whole (bytes.take count)).flatten.length ≤ count ∧
      count < (whole (bytes.take count)).flatten.length + reach (rest.headD []) := by
  induction bytes using cut_induction generalizing count with
  | nil =>
    have none_taken : count = 0 := by simpa using within
    subst none_taken
    exact whole_take_begun List.not_mem_nil Nat.one_pos
  | last begun unended begins =>
    have unfinished : isEnded begun = false := by
      apply Bool.eq_false_iff.mpr
      intro ended
      exact unended (List.mem_of_getLast? (isEnded_iff.mp ended))
    apply whole_take_begun (fun member => unended (List.mem_of_mem_take member))
    rw [cut_begun_end unended begins, List.headD_cons, reach, unfinished]
    simp
    omega
  | cons begun bytes unended hyp =>
    by_cases early : count ≤ begun.length
    · have part : newline ∉ (begun ++ newline :: bytes).take count := by
        rw [List.take_append_of_le_length early]
        exact fun member => unended (List.mem_of_mem_take member)
      apply whole_take_begun part
      rw [cut_begun_newline unended, List.headD_cons, reach]
      simp [isEnded]
      omega
    · obtain ⟨more, rfl⟩ := Nat.exists_eq_add_of_lt (Nat.lt_of_not_le early)
      have taken : (begun ++ newline :: bytes).take (begun.length + more + 1) =
          begun ++ newline :: bytes.take more := by
        rw [Nat.add_assoc, List.take_length_add_append, List.take_succ_cons]
      obtain ⟨rest, parts, below, above⟩ := hyp more (by simp at within; omega)
      rw [taken, whole_cons unended, List.flatten_cons]
      simp only [List.length_append, List.length_singleton]
      refine ⟨rest, ?_, ?_, ?_⟩
      · rw [cut_begun_newline unended, parts, List.cons_append]
      · omega
      · omega

end Line

theorem Place.Meets.readOn {place : Place} {count : Nat} {before after : List Trap} {trap : Trap}
    (meets : place.Meets count before trap after) {front rest : List Bytes} {texts : List String}
    (ended : ∀ line ∈ front, Line.isEnded line = true) (told : front.map Line.text? = texts.map some)
    (behind : place.position + front.flatten.length ≤ trap.offset)
    (reached : trap.offset < place.position + front.flatten.length + Line.reach (rest.headD [])) :
    ∃ taken : List Taken, taken.map Taken.text = texts ∧
      place.readOn [] (front ++ rest) =
        { lines := taken, ending := .failed trap.fault (place.halted before trap after) } := by
  -- The place goes on line by line, and the trap is met from each of them.
  induction front generalizing place count before after texts with
  | nil =>
    have none_told : texts = [] := List.map_eq_nil_iff.mp told.symm
    have here : place.Meets (Line.reach (rest.headD [])) before trap after :=
      { meets with reached := Trap.isWithin_iff.mpr ⟨behind, reached⟩ }
    refine ⟨[], none_told.symm, ?_⟩
    cases rest with
    | nil => rw [List.nil_append, Place.readOn, Place.atEnd_of_meets here, List.reverse_nil]
    | cons line later =>
      rw [List.headD_cons] at here
      rw [List.nil_append, Place.readOn_cons, Place.readLine_of_meets here]
  | cons line front hyp =>
    obtain ⟨lineEnded, laterEnded⟩ := List.forall_mem_cons.mp ended
    obtain ⟨text, others, rfl, lineTold, laterTold⟩ := List.map_eq_cons_iff.mp told.symm
    obtain ⟨raw, decoded, same⟩ := Option.map_eq_some_iff.mp lineTold.symm
    rw [List.flatten_cons, List.length_append, ← Nat.add_assoc] at behind reached
    have whole : Line.reach line = line.length := if_pos lineEnded
    have passed : place.position + line.length ≤ trap.offset := by omega
    have read : place.readLine line = .ok { raw, after := place.onward line.length } := by
      rw [Place.readLine_of_isQuiet (whole ▸ meets.quiet passed), decoded, whole]
      rfl
    have enough : trap.offset < place.position + line.length + (trap.offset + 1) := by omega
    have onward := meets.onward passed enough
    obtain ⟨taken, texts, lines⟩ := hyp onward laterEnded laterTold.symm behind reached
    rw [Place.Meets.halted_onward passed] at lines
    refine ⟨{ raw, after := place.onward line.length } :: taken, ?_, ?_⟩
    · rw [List.map_cons, texts, Taken.text, Taken.chars, same]
    · rw [List.cons_append, Place.readOn_cons, read]
      simp only
      rw [lines]

theorem Selection.calls_of_failed (lines : List Taken) (fault : Fault) (place : Place) :
    (all { lines, ending := .failed fault place }).calls = lines.map Taken.call := List.append_nil _

theorem Trap.filter_halts_untouched {low high : Nat} {traps : List Trap}
    (apart : ∀ trap ∈ traps, trap.halts = true → trap.offset < low ∨ high ≤ trap.offset) :
    (untouched low high traps).filter halts = traps.filter halts := by
  rw [untouched, List.filter_filter]
  apply List.filter_congr
  intro trap member
  cases halting : trap.halts with
  | false => rfl
  | true => rw [isWithin_eq_false (apart trap member halting), Bool.not_false, Bool.and_self]

theorem Place.Meets.halts_left {place : Place} {count : Nat} {before after : List Trap} {trap : Trap}
    (meets : place.Meets count before trap after) :
    (place.halted before trap after).traps.filter Trap.halts = (before ++ after).filter Trap.halts := by
  have beyond {other : Trap} (member : other ∈ place.traps) (halts : other.halts = true) :
      other.offset < place.position ∨ trap.offset ≤ other.offset := by
    rcases Nat.lt_or_ge other.offset place.position with below | above
    · exact .inl below
    · exact .inr (meets.least other member halts above)
  rw [meets.split] at beyond
  rw [Place.halted, List.filter_append, List.filter_append]
  congr 1
  · apply Trap.filter_halts_untouched
    intro other member halts
    have elsewhere : other.offset ≠ trap.offset := by
      intro same
      rw [meets.first other member same] at halts
      cases halts
    have far := beyond (List.mem_append_left _ member) halts
    omega
  · apply Trap.filter_halts_untouched
    intro other member halts
    exact beyond (List.mem_append_right _ (List.mem_cons_of_mem _ member)) halts

namespace Source

variable {State : Type} (respond : Call → State → State) (state : State)

/-- Handing over everything stops where the first fault strikes, with the lines that have ended before. -/
theorem cat_of_meets {source : Source} {before after : List Trap} {trap : Trap} {texts : List String}
    (meets : source.place.Meets (source.ahead.length + 1) before trap after)
    (told : (Line.whole (source.ahead.take (trap.offset - source.position))).map Line.text? =
      texts.map some) :
    let outcome := source.cat (Sink.granting respond) state
    outcome.result = .error (.read trap.fault) ∧
      outcome.sink = (texts.map Call.emit).foldl (fun state call => respond call state) state ∧
      outcome.source = source.moveTo (source.place.halted before trap after) := by
  intro outcome
  obtain ⟨low, high⟩ := Trap.isWithin_iff.mp meets.reached
  simp only [place] at low high
  obtain ⟨rest, parts, below, above⟩ :=
    Line.whole_take source.ahead (trap.offset - source.position) (by omega)
  have ended : ∀ line ∈ Line.whole (source.ahead.take (trap.offset - source.position)),
      Line.isEnded line = true := fun line member => (List.mem_filter.mp member).2
  have reached : trap.offset < source.place.position +
      (Line.whole (source.ahead.take (trap.offset - source.position))).flatten.length +
        Line.reach (rest.headD []) := by
    simp only [place]
    omega
  obtain ⟨taken, same, read⟩ := meets.readOn ended told (by simp only [place]; omega) reached
  have whole : source.reading =
      { lines := taken, ending := .failed trap.fault (source.place.halted before trap after) } := by
    rw [reading, parts, read]
  obtain ⟨result, final, sink⟩ := source.deliver_granting respond state (.all source.reading)
  rw [← cat_eq_deliver, whole] at result final sink
  rw [Selection.calls_of_failed, Taken.map_call, same] at sink
  exact ⟨result, sink, final⟩

/-- Interruptions change nothing. Any other fault costs the line at hand: handing over everything gives the
lines that have ended before the first fault, then fails with it where it has struck; and what is done next
comes to the same as if it were begun there, without that trap. -/
theorem faults_cost_line_at_hand (source : Source) :
    let sink := Sink.granting respond
    let uninterrupted : Source := { source with traps := source.traps.filter Trap.halts }
    (∀ task : Task,
      let outcome := source.perform sink state task
      let other := uninterrupted.perform sink state task
      other.result = outcome.result ∧ other.sink = outcome.sink ∧
        other.source.position = outcome.source.position) ∧
    ∀ before trap after, source.place.Meets (source.ahead.length + 1) before trap after →
      let ended := Line.whole (source.ahead.take (trap.offset - source.position))
      (∀ line ∈ ended, Utf8.decode? line ≠ none) →
      ended <+: Line.cut source.ahead ∧
      ∃ texts : List String, ended.map Line.text? = texts.map some ∧
        let outcome := source.cat sink state
        outcome.result = .error (.read trap.fault) ∧
        outcome.sink = (texts.map Call.emit).foldl (fun state call => respond call state) state ∧
        outcome.source.position = trap.offset ∧
        let fresh : Source := { source with position := trap.offset, traps := before ++ after }
        ∀ task : Task,
          let second := outcome.source.perform sink outcome.sink task
          let anew := fresh.perform sink outcome.sink task
          second.result = anew.result ∧ second.sink = anew.sink ∧
            second.source.position = anew.source.position := by
  intro sink uninterrupted
  constructor
  · intro task outcome other
    have same : (source.traps.filter Trap.halts).filter Trap.halts = source.traps.filter Trap.halts := by
      rw [List.filter_filter]
      simp
    have alike := (source.alike_of_sameHalts same).perform sink state task
    exact ⟨alike.result, alike.sink, alike.place.position⟩
  · intro before trap after meets ended readable
    obtain ⟨low, high⟩ := Trap.isWithin_iff.mp meets.reached
    simp only [place] at low high
    obtain ⟨rest, parts, _⟩ :=
      Line.whole_take source.ahead (trap.offset - source.position) (by omega)
    have shown : ∀ line ∈ ended, Line.shows (fun _ => true) line = true := by
      intro line member
      obtain ⟨raw, decoded⟩ := Option.ne_none_iff_exists'.mp (readable line member)
      exact Line.shows_of_decode? decoded _
    obtain ⟨texts, told, _⟩ := Line.texts_of_shows shown
    refine ⟨⟨rest, parts.symm⟩, texts, told, ?_⟩
    intro outcome
    obtain ⟨result, handed, final⟩ := source.cat_of_meets respond state meets told
    refine ⟨result, handed, congrArg Source.position final, ?_⟩
    intro fresh task second anew
    have alike := ({ source with position := trap.offset } : Source).alike_of_sameHalts meets.halts_left
    have left : outcome.source =
        { source with position := trap.offset, traps := (source.place.halted before trap after).traps } :=
      final
    have performed := alike.perform sink outcome.sink task
    rw [← left] at performed
    exact ⟨performed.result, performed.sink, performed.place.position⟩

/-- The fault strikes within a character, behind an interruption at the same offset, and an interruption has
been met in the line before. Another fault at that offset halts the next reading, where the first one would
have halted it again. -/
theorem faults_cost_line_at_hand_midway :
    let interruption (offset : Nat) : Trap := ⟨offset, .reported .interrupted "again"⟩
    let trap : Trap := ⟨11, .reported .timedOut "late"⟩
    let before := [interruption 11]
    let after := [interruption 2, ⟨11, .directory⟩, ⟨0, .noSpace⟩]
    let source : Source := { data := utf8 "x\n// a\n// é\n", position := 2, traps := before ++ trap :: after }
    let keep : Sink (List Call) := Sink.granting fun call calls => calls ++ [call]
    let outcome := source.cat keep []
    let second := outcome.source.cat keep outcome.sink
    source.place.Meets (source.ahead.length + 1) before trap after ∧
      (∀ line ∈ Line.whole (source.ahead.take 9), Utf8.decode? line ≠ none) ∧
      outcome.result = .error (.read trap.fault) ∧ outcome.sink = [.emit "// a"] ∧
      outcome.source.position = 11 ∧ second.result = .error (.read .directory) ∧
      second.sink = [.emit "// a"] ∧ second.source.position = 11 := by
  intro interruption trap before after source keep outcome second
  have meets : source.place.Meets (source.ahead.length + 1) before trap after := by
    constructor
    case halts => rfl
    case split => rfl
    case reached => decide
    case least => decide
    case first => decide
  have readable : ∀ line ∈ Line.whole (source.ahead.take 9), Utf8.decode? line ≠ none := by decide
  have text : (Line.whole (source.ahead.take 9)).map Line.text? = ["// a"].map some := by decide
  obtain ⟨_, texts, told, result, handed, position, later⟩ :=
    (faults_cost_line_at_hand (fun call calls => calls ++ [call]) [] source).2 before trap after meets readable
  have same : texts = ["// a"] :=
    (List.map_inj_right fun _ _ => Option.some.inj).mp (told.symm.trans text)
  rw [same] at handed
  obtain ⟨again, kept, stays⟩ := later .cat
  have emitted := kept.trans handed
  -- Brought to one form, the outcomes are compared without being computed.
  dsimp only [perform] at result handed position again emitted stays
  dsimp only [outcome, second, keep]
  exact ⟨meets, readable, result, handed, position, again, emitted, stays⟩

end Source
end LeadingComment
