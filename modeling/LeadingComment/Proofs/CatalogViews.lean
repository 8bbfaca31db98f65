import LeadingComment.Proofs.LongestOpening

/-! Two views of a catalog: its styles by falling length of their openings, and the names of its styles and
languages. Neither loses or makes up anything. The first keeps all repetitions and leaves styles with one
opening in the order of the tables; the second has every name once. Lengths and order are those of the
bytes, not of the characters. -/
namespace LeadingComment

theorem Token.lt_of_atMost_of_ne {left right : String} (before : atMost left right = true)
    (other : left ≠ right) : utf8 left < utf8 right := by
  rw [atMost, decide_eq_true_eq] at before
  rcases List.le_iff_lt_or_eq.mp before with less | same
  · exact less
  · exact absurd (Utf8.utf8_inj.mp same) other

theorem Token.lt_of_not_atMost {left right : String} (behind : ¬ atMost left right = true) :
    utf8 right < utf8 left := by
  rw [atMost, decide_eq_true_eq] at behind
  exact List.not_le.mp behind

namespace Catalog

/-! ### Styles by opening -/

theorem precedes_of_opening_eq {left right : Style} (same : left.opening = right.opening) :
    precedes left right = true := by
  apply (precedes_iff left right).mpr
  right
  rw [same]
  exact ⟨rfl, (Token.atMost_total right.opening right.opening).elim id id⟩

/-- Styles with one opening are in order already wherever they stand, and stay as the tables have them. -/
theorem byOpening_filter (catalog : Catalog) (opening : String) :
    (catalog.byOpening.filter fun style => style.opening == opening) =
      catalog.styles.filter fun style => style.opening == opening := by
  let alike (style : Style) : Bool := style.opening == opening
  have sorted : (catalog.styles.filter alike).Pairwise fun left right => precedes left right = true := by
    apply List.pairwise_of_forall_mem_list
    intro left listed right too
    have first : left.opening = opening := by simpa [alike] using (List.mem_filter.mp listed).2
    have second : right.opening = opening := by simpa [alike] using (List.mem_filter.mp too).2
    exact precedes_of_opening_eq (first.trans second.symm)
  have within : (catalog.styles.filter alike).Sublist catalog.byOpening := by
    rw [byOpening_eq_insertionSort]
    exact List.sublist_insertionSort sorted List.filter_sublist
  have kept := within.filter alike
  rw [List.filter_filter] at kept
  simp only [Bool.and_self] at kept
  have sizes := (catalog.byOpening_perm.filter alike).length_eq
  exact (kept.eq_of_length sizes.symm).symm

/-! ### Names -/

/-- Each name has smaller bytes than all behind it, so none occurs twice. -/
def Ascending (names : List String) : Prop :=
  names.Pairwise fun left right => utf8 left < utf8 right

theorem mem_insertName {name other : String} {names : List String} :
    other ∈ insertName name names ↔ other = name ∨ other ∈ names := by
  induction names with
  | nil => simp [insertName]
  | cons first later hyp =>
    rw [insertName]
    split
    next same => simp [same]
    next =>
      split
      · exact List.mem_cons
      · rw [List.mem_cons, hyp, List.mem_cons, or_left_comm]

theorem Ascending.insertName {names : List String} (ascending : Ascending names) (name : String) :
    Ascending (insertName name names) := by
  induction names with
  | nil => exact List.pairwise_singleton _ name
  | cons first later hyp =>
    obtain ⟨least, rest⟩ := List.pairwise_cons.mp ascending
    rw [Catalog.insertName]
    by_cases same : name = first
    · rw [if_pos same]
      exact ascending
    rw [if_neg same]
    by_cases before : Token.atMost name first = true
    · rw [if_pos before]
      have less : utf8 name < utf8 first := Token.lt_of_atMost_of_ne before same
      refine List.pairwise_cons.mpr ⟨?_, ascending⟩
      intro other member
      rcases List.mem_cons.mp member with rfl | behind
      · exact less
      · exact List.lt_trans less (least other behind)
    · rw [if_neg before]
      refine List.pairwise_cons.mpr ⟨?_, hyp rest⟩
      intro other member
      rcases mem_insertName.mp member with rfl | behind
      · exact Token.lt_of_not_atMost before
      · exact least other behind

theorem names_ascending (catalog : Catalog) : Ascending catalog.names := by
  rw [names]
  induction catalog.styles.flatMap Style.names with
  | nil => exact List.Pairwise.nil
  | cons name later hyp => exact hyp.insertName name

theorem mem_foldr_insertName {name : String} {given : List String} :
    name ∈ given.foldr insertName [] ↔ name ∈ given := by
  induction given with
  | nil => rfl
  | cons first later hyp => rw [List.foldr_cons, mem_insertName, hyp, List.mem_cons]

theorem mem_names (catalog : Catalog) (name : String) :
    name ∈ catalog.names ↔ ∃ style ∈ catalog.styles, name = style.name ∨ name ∈ style.languages := by
  rw [names, mem_foldr_insertName, List.mem_flatMap]
  simp only [Style.names, List.mem_cons]

/-- By opening, the styles of the tables are reordered and nothing else: longer openings come first,
equally long ones go by their bytes, and where the openings are the same, the tables decide. The names are
those of the styles and of their languages, each of them once and in the order of their bytes. -/
theorem views_exact (catalog : Catalog) :
    let tables := catalog.lineStyles ++ catalog.blockStyles
    catalog.byOpening.Perm tables ∧
      (catalog.byOpening.Pairwise fun left right =>
        Token.size right.opening < Token.size left.opening ∨
          Token.size left.opening = Token.size right.opening ∧ utf8 left.opening ≤ utf8 right.opening) ∧
      (∀ opening, (catalog.byOpening.filter fun style => style.opening == opening) =
        tables.filter fun style => style.opening == opening) ∧
      (catalog.names.Pairwise fun left right => utf8 left < utf8 right) ∧
      ∀ name, name ∈ catalog.names ↔ ∃ style ∈ tables, name = style.name ∨ name ∈ style.languages := by
  intro tables
  refine ⟨catalog.byOpening_perm, ?_, catalog.byOpening_filter, catalog.names_ascending,
    catalog.mem_names⟩
  apply catalog.byOpening_pairwise.imp
  intro left right precedes
  rw [precedes_iff] at precedes
  simpa only [Token.atMost, decide_eq_true_eq] using precedes

/-- One character of two bytes is longer than one of a single byte, and of two styles with one opening the
line style comes first. -/
example :
    let catalog : Catalog :=
      { lineStyles := [⟨"B", .line "!", ["Z"]⟩, ⟨"C", .line "é", []⟩]
        blockStyles := [⟨"A", .block "!" "?", ["C"]⟩] }
    catalog.byOpening.map Style.name = ["C", "B", "A"] ∧ catalog.names = ["A", "B", "C", "Z"] := by decide

end Catalog
end LeadingComment
