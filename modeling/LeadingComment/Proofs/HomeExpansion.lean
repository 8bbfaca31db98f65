import LeadingComment.Path
import Mathlib.Data.List.DropRight
import Mathlib.Data.List.Infix

/-! A leading `~` names the home directory, and what follows it leads on from there. The components of
the expanded path are those of the home directory and behind them those of the path after the first,
whatever slashes and dots the path is written with. -/
namespace LeadingComment
namespace Path

theorem segmentsOf_eq_splitOn (bytes : Bytes) : segmentsOf bytes = bytes.splitOn slash := by
  induction bytes with
  | nil => rfl
  | cons byte bytes hyp =>
    rw [segmentsOf, List.foldr_cons, ← segmentsOf, hyp, List.splitOn_cons_eq_if_modifyHead]
    obtain ⟨segment, segments, parts⟩ :=
      List.exists_cons_of_ne_nil (List.splitOn_ne_nil slash bytes)
    rw [parts]
    simp only [extendSegments, beq_iff_eq, List.modifyHead_cons]

theorem slash_not_mem_segment {bytes segment : Bytes} (member : segment ∈ segmentsOf bytes) :
    slash ∉ segment := by
  induction bytes generalizing segment with
  | nil =>
    rw [List.mem_singleton.mp member]
    exact List.not_mem_nil
  | cons byte bytes hyp =>
    obtain ⟨first, later, parts⟩ := List.exists_cons_of_ne_nil (segmentsOf_ne_nil bytes)
    rw [segmentsOf, List.foldr_cons, ← segmentsOf, parts, extendSegments] at member
    rw [parts] at hyp
    by_cases same : byte = slash
    · rw [if_pos same] at member
      rcases List.mem_cons.mp member with rfl | old
      · exact List.not_mem_nil
      · exact hyp old
    · rw [if_neg same] at member
      rcases List.mem_cons.mp member with rfl | old
      · have kept : slash ∉ first := hyp List.mem_cons_self
        simp [Ne.symm same, kept]
      · exact hyp (List.mem_cons_of_mem first old)

def namesOf (segments : List Bytes) : List Bytes := segments.filter fun segment => !isIdle segment

theorem namesOf_append (front back : List Bytes) : namesOf (front ++ back) = namesOf front ++ namesOf back :=
  List.filter_append front back

theorem components_eq (path : Path) :
    path.components = (path.isAbsolute, namesOf (segmentsOf path.bytes)) := rfl

/-- A slash parts the names before it from those behind it. -/
theorem namesOf_slash (front back : Bytes) :
    namesOf (segmentsOf (front ++ slash :: back)) =
      namesOf (segmentsOf front) ++ namesOf (segmentsOf back) := by
  simp only [segmentsOf_eq_splitOn]
  rw [List.splitOn_append_cons_self, namesOf_append]

/-- A relative path leads on from where the base leads. -/
theorem components_join (base : Path) {rest : Path} (relative : rest.isAbsolute = false) :
    (base.join rest).components =
      (base.components.1, base.components.2 ++ rest.components.2) := by
  have absolute {more : Bytes} (nonempty : base.bytes ≠ []) :
      isAbsolute ⟨base.bytes ++ more⟩ = base.isAbsolute := by
    rw [isAbsolute, isAbsolute, List.head?_append_of_ne_nil _ nonempty]
  rw [join, relative]
  simp only [Bool.false_eq_true, ↓reduceIte, components_eq]
  by_cases empty : base.bytes = []
  · have nowhere : base = ⟨[]⟩ := congrArg Path.mk empty
    subst nowhere
    exact congrArg (·, namesOf (segmentsOf rest.bytes)) relative
  · by_cases closed : base.bytes.getLast? = some slash
    · obtain ⟨front, whole⟩ := List.getLast?_eq_some_iff.mp closed
      rw [if_pos (by simp [closed]), absolute empty, whole]
      simp only [List.append_assoc, List.singleton_append, namesOf_slash]
      rfl
    · rw [if_neg (by simp [empty, closed]), absolute empty]
      simp only [namesOf_slash]

theorem prefix_join (base : Path) {rest : Path} (relative : rest.isAbsolute = false) :
    base.bytes <+: (base.join rest).bytes := by
  rw [join, relative]
  simp only [Bool.false_eq_true, ↓reduceIte]
  split
  · exact List.prefix_append _ _
  · exact List.prefix_append _ _

theorem withoutIdleEnds_eq (segments : List Bytes) :
    withoutIdleEnds segments = (segments.dropWhile isIdle).rdropWhile isIdle := rfl

theorem withoutIdleEnds_subset (segments : List Bytes) : withoutIdleEnds segments ⊆ segments := by
  rw [withoutIdleEnds_eq]
  intro segment member
  have kept := (List.rdropWhile_prefix isIdle (segments.dropWhile isIdle)).subset member
  exact (List.dropWhile_sublist isIdle).subset kept

private theorem namesOf_dropWhile (segments : List Bytes) :
    namesOf (segments.dropWhile isIdle) = namesOf segments := by
  have dropped : namesOf (segments.takeWhile isIdle) = [] := by
    apply List.filter_eq_nil_iff.mpr
    intro segment member
    simpa using List.mem_takeWhile_imp member
  conv_rhs => rw [← List.takeWhile_append_dropWhile (p := isIdle) (l := segments)]
  rw [namesOf_append, dropped, List.nil_append]

theorem namesOf_withoutIdleEnds (segments : List Bytes) :
    namesOf (withoutIdleEnds segments) = namesOf segments := by
  have mirrored (others : List Bytes) : namesOf others.reverse = (namesOf others).reverse :=
    List.filter_reverse
  rw [withoutIdleEnds, mirrored, namesOf_dropWhile, mirrored, List.reverse_reverse, namesOf_dropWhile]

theorem not_isIdle_of_withoutIdleEnds {segments later : List Bytes} {first : Bytes}
    (parts : withoutIdleEnds segments = first :: later) : isIdle first = false := by
  obtain ⟨rest, whole⟩ := List.rdropWhile_prefix isIdle (segments.dropWhile isIdle)
  rw [← withoutIdleEnds_eq] at whole
  rw [parts, List.cons_append] at whole
  have head := List.head?_dropWhile_not isIdle segments
  rw [← whole] at head
  simpa using head

/-- Written again, the names are the same, and no slash stands in front of them. -/
theorem components_joinSegments {bytes : Bytes} {first : Bytes} {later : List Bytes}
    (parts : segmentsOf bytes = first :: later) :
    components ⟨joinSegments (withoutIdleEnds later)⟩ = (false, namesOf later) := by
  have unbroken : ∀ segment ∈ withoutIdleEnds later, slash ∉ segment := by
    intro segment member
    have inside : segment ∈ segmentsOf bytes := by
      rw [parts]
      exact List.mem_cons_of_mem first (withoutIdleEnds_subset later member)
    exact slash_not_mem_segment inside
  rw [components_eq, ← namesOf_withoutIdleEnds later]
  cases kept : withoutIdleEnds later with
  | nil => rfl
  | cons name names =>
    rw [kept] at unbroken
    have segments : segmentsOf (joinSegments (name :: names)) = name :: names := by
      rw [segmentsOf_eq_splitOn]
      exact List.splitOn_intercalate slash unbroken (List.cons_ne_nil name names)
    have leads : isIdle name = false := not_isIdle_of_withoutIdleEnds kept
    have relative : isAbsolute ⟨joinSegments (name :: names)⟩ = false := by
      cases name with
      | nil => simp [isIdle] at leads
      | cons byte name =>
        have other : byte ≠ slash := by
          intro same
          exact unbroken _ List.mem_cons_self (by simp [same])
        cases names <;> simpa [isAbsolute, joinSegments, List.intercalate] using other
    rw [relative, segments]

def StartsAtHome (path : Path) : Prop := path.bytes = [tilde] ∨ [tilde, slash] <+: path.bytes

instance (path : Path) : Decidable path.StartsAtHome := inferInstanceAs (Decidable (_ ∨ _))

theorem startsAtHome_iff {path : Path} {first : Bytes} {later : List Bytes}
    (parts : segmentsOf path.bytes = first :: later) : path.StartsAtHome ↔ first = [tilde] := by
  have unbroken : slash ∉ [tilde] := by decide
  have whole : path.bytes = joinSegments (first :: later) := by
    rw [← parts, joinSegments_segmentsOf]
  rw [segmentsOf_eq_splitOn] at parts
  constructor
  · rintro (alone | ⟨rest, begun⟩)
    · rw [alone, List.splitOn_eq_singleton unbroken] at parts
      cases parts
      rfl
    · rw [← begun] at parts
      have split := List.splitOn_append_cons_self_of_not_mem unbroken rest
      have same := parts.symm.trans split
      exact (List.cons.inj same).1
  · rintro rfl
    cases later with
    | nil =>
      left
      rw [whole]
      rfl
    | cons next later =>
      right
      rw [whole]
      exact ⟨joinSegments (next :: later), by simp [joinSegments, List.intercalate]⟩

theorem expandHome_of_not_startsAtHome {path : Path} (elsewhere : ¬ path.StartsAtHome)
    (home : Option Path) : path.expandHome home = path := by
  obtain ⟨first, later, parts⟩ := List.exists_cons_of_ne_nil (segmentsOf_ne_nil path.bytes)
  rw [startsAtHome_iff parts] at elsewhere
  cases home with
  | none => simp only [expandHome]
  | some home => simp only [expandHome, parts, if_neg elsewhere]

theorem expandHome_of_startsAtHome {path : Path} {later : List Bytes}
    (parts : segmentsOf path.bytes = [tilde] :: later) (home : Path) :
    path.expandHome (some home) =
      if namesOf later = [] then home else home.join ⟨joinSegments (withoutIdleEnds later)⟩ := by
  have names := components_joinSegments parts
  have ends : joinSegments (withoutIdleEnds later) = [] ↔ namesOf later = [] := by
    constructor
    · intro empty
      rw [empty] at names
      exact (congrArg Prod.snd names).symm
    · intro empty
      cases kept : withoutIdleEnds later with
      | nil => rfl
      | cons name others =>
        have leads : isIdle name = false := not_isIdle_of_withoutIdleEnds kept
        rw [← namesOf_withoutIdleEnds, kept] at empty
        simp [namesOf, leads] at empty
  simp only [expandHome, parts, ↓reduceIte]
  split
  next empty => rw [if_pos (ends.mp empty)]
  next rest begun =>
    rw [if_neg]
    intro empty
    exact begun (ends.mpr empty)

/-- Only `~` and what begins with `~` and a slash is expanded. The components of the result are those of
the home directory and behind them those of the path after the first; the home directory itself stays
as it is written. -/
theorem expandHome_components (path home : Path) :
    path.expandHome none = path ∧
      (¬ path.StartsAtHome → path.expandHome (some home) = path) ∧
      (path.StartsAtHome →
        (path.expandHome (some home)).components =
            (home.components.1, home.components.2 ++ path.components.2.tail) ∧
          home.bytes <+: (path.expandHome (some home)).bytes ∧
          (path.components.2.tail = [] → path.expandHome (some home) = home)) := by
  refine ⟨by simp only [expandHome], fun elsewhere => expandHome_of_not_startsAtHome elsewhere _, ?_⟩
  intro atHome
  obtain ⟨first, later, parts⟩ := List.exists_cons_of_ne_nil (segmentsOf_ne_nil path.bytes)
  rw [startsAtHome_iff parts] at atHome
  subst atHome
  have tail : path.components.2.tail = namesOf later := by
    rw [components_eq, parts]
    rfl
  have rest := components_joinSegments parts
  have relative : isAbsolute ⟨joinSegments (withoutIdleEnds later)⟩ = false :=
    congrArg Prod.fst rest
  rw [expandHome_of_startsAtHome parts, tail]
  by_cases empty : namesOf later = []
  · rw [if_pos empty, empty, List.append_nil]
    exact ⟨rfl, List.prefix_rfl, fun _ => rfl⟩
  · rw [if_neg empty, components_join home relative, rest]
    exact ⟨rfl, prefix_join home relative, fun none_left => absurd none_left empty⟩

/-- Slashes and dots behind the `~` neither replace the home directory nor leave it out. -/
theorem expandHome_components_slashes :
    let path : Path := .ofString "~//.//x/../y/."
    let home : Path := .ofString "/h/"
    path.StartsAtHome ∧ path.expandHome (some home) = .ofString "/h/x/../y" ∧
      (path.expandHome (some home)).components =
        (true, [utf8 "h"] ++ [utf8 "x", utf8 "..", utf8 "y"]) := by
  intro path home
  have atHome : path.StartsAtHome := by decide
  obtain ⟨components, _⟩ := (expandHome_components path home).2.2 atHome
  refine ⟨atHome, by decide, components.trans ?_⟩
  decide

end Path
end LeadingComment
