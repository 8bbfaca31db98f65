import LeadingComment.Proofs.Lockstep

namespace LeadingComment

/-- The traps as seen from a base: those below it are dropped, and the others lowered by it. -/
def Trap.lowered (base : Nat) (traps : List Trap) : List Trap :=
  (traps.filter fun trap => base ≤ trap.offset).map fun trap => { trap with offset := trap.offset - base }

theorem strike_lowered (base offset : Nat) (traps : List Trap) :
    strike offset (Trap.lowered base traps) =
      ((strike (base + offset) traps).1, Trap.lowered base (strike (base + offset) traps).2) := by
  induction traps with
  | nil => rfl
  | cons trap traps hyp =>
    by_cases below : trap.offset < base
    · have elsewhere : trap.offset ≠ base + offset := by omega
      have dropped : ¬ base ≤ trap.offset := by omega
      have kept (others : List Trap) : Trap.lowered base (trap :: others) = Trap.lowered base others := by
        simp [Trap.lowered, dropped]
      rw [kept, hyp, strike, if_neg elsewhere, kept]
    · have reached : base ≤ trap.offset := by omega
      have seen (others : List Trap) : Trap.lowered base (trap :: others) =
          { trap with offset := trap.offset - base } :: Trap.lowered base others := by
        simp [Trap.lowered, reached]
      rw [seen, strike, strike]
      by_cases here : trap.offset = base + offset
      · have same : trap.offset - base = offset := by omega
        rw [if_pos same, if_pos here]
        split
        · exact hyp
        · rfl
      · have other : trap.offset - base ≠ offset := by omega
        rw [if_neg other, if_neg here, hyp]
        simp only
        rw [seen]

/-- The second place is what the first one is as seen from a base. -/
structure Place.SeenFrom (base : Nat) (place other : Place) : Prop where
  position : place.position = base + other.position
  traps : other.traps = Trap.lowered base place.traps

theorem Place.SeenFrom.keepsStep (base : Nat) : Place.KeepsStep (Place.SeenFrom base) where
  struck {place other} seen := by
    rw [seen.position, seen.traps, strike_lowered]
    exact ⟨rfl, rfl, rfl⟩
  next {place other} seen := by
    refine ⟨?_, seen.traps⟩
    rw [seen.position, Nat.add_assoc]

namespace Source

def relative (source : Source) : Source where
  data := source.data.drop source.position
  traps := Trap.lowered source.position source.traps
  seeks := source.seeks

theorem alike_relative (source : Source) :
    source.Alike (Place.SeenFrom source.position) source.relative where
  seeks := rfl
  place := ⟨rfl, rfl⟩
  back seen := ⟨rfl, seen.traps⟩
  reading seen := (Place.SeenFrom.keepsStep source.position).readOn seen (Line.cut source.ahead)

variable {State : Type}

/-- Processing makes the same calls, comes to the same result and spends as many seeks as it does on the
source as seen from its position, and both have gone equally far. -/
theorem process_relative (source : Source) (catalog : Catalog) (mode : Mode) (sink : Sink State)
    (state : State) :
    let outcome := source.process catalog mode sink state
    let relative := source.relative.process catalog mode sink state
    let calls (given : Source) := (given.process catalog mode sink.traced { state }).sink.calls
    calls source.relative = calls source ∧ relative.sink = outcome.sink ∧
      relative.result = outcome.result ∧ relative.notes = outcome.notes ∧
      relative.source.seeks = outcome.source.seeks ∧
      outcome.source.position = source.position + relative.source.position ∧
      relative.source.traps = Trap.lowered source.position outcome.source.traps := by
  intro outcome relative calls
  have alike := source.alike_relative.process catalog mode sink state
  have traced := source.alike_relative.process catalog mode sink.traced { state }
  refine ⟨?_, alike.sink.symm, alike.result.symm, alike.notes.symm, alike.seeks.symm,
    alike.place.position, alike.place.traps⟩
  exact congrArg Traced.calls traced.sink.symm

end Source
end LeadingComment
