import LeadingComment.Proofs.HomeExpansion

namespace LeadingComment
namespace Path

/-- A `~` in front leaves no place for a slash. -/
theorem not_startsAtHome_of_isAbsolute {path : Path} (absolute : path.isAbsolute = true) :
    ¬ path.StartsAtHome := by
  have root : path.bytes.head? = some slash := by simpa [isAbsolute] using absolute
  have other : some tilde ≠ some slash := by decide
  rintro (alone | ⟨rest, begun⟩)
  · rw [alone] at root
    exact other root
  · rw [← begun] at root
    exact other root

theorem expandHome_of_isAbsolute {path : Path} (absolute : path.isAbsolute = true) (home : Option Path) :
    path.expandHome home = path :=
  expandHome_of_not_startsAtHome (not_startsAtHome_of_isAbsolute absolute) home

theorem isAbsolute_join {base : Path} (absolute : base.isAbsolute = true) (rest : Path) :
    (base.join rest).isAbsolute = true := by
  by_cases replaced : rest.isAbsolute = true
  · rw [join, if_pos replaced]
    exact replaced
  · have relative : rest.isAbsolute = false := by simpa using replaced
    have start := congrArg Prod.fst (components_join base relative)
    exact start.trans absolute

section

variable {path directory : Path} {home : Option Path}

theorem resolve_of_isAbsolute (absolute : (path.expandHome home).isAbsolute = true) :
    path.resolve directory home = path.expandHome home := by
  rw [resolve, if_pos absolute]

theorem resolve_of_relative (relative : (path.expandHome home).isAbsolute = false) :
    path.resolve directory home = directory.join (path.expandHome home) := by
  rw [resolve, if_neg (by simp [relative])]

theorem isAbsolute_resolve (absolute : directory.isAbsolute = true) (path : Path) (home : Option Path) :
    (path.resolve directory home).isAbsolute = true := by
  cases start : (path.expandHome home).isAbsolute with
  | true =>
    rw [resolve_of_isAbsolute start]
    exact start
  | false =>
    rw [resolve_of_relative start]
    exact isAbsolute_join absolute _

/-- There is nothing left to resolve in a path that starts at the root. -/
theorem resolve_eq_self (absolute : path.isAbsolute = true) (directory : Path) (home : Option Path) :
    path.resolve directory home = path := by
  have expanded := expandHome_of_isAbsolute absolute home
  rw [resolve_of_isAbsolute (by rw [expanded, absolute]), expanded]

end

/-- From a directory that starts at the root, every path resolves to one that does so as well and that no
directory and no home directory changes any more. It is the expanded path if that starts at the root, and
else leads from the directory to where the expanded path leads from there. -/
theorem resolve_settles (path directory : Path) (absolute : directory.isAbsolute = true)
    (home : Option Path) :
    let expanded := path.expandHome home
    let resolved := path.resolve directory home
    resolved.isAbsolute = true ∧
      (∀ otherDirectory otherHome, resolved.resolve otherDirectory otherHome = resolved) ∧
      (expanded.isAbsolute = true → resolved = expanded) ∧
      (expanded.isAbsolute = false →
        resolved.components = (true, directory.components.2 ++ expanded.components.2)) := by
  intro expanded resolved
  have rooted : resolved.isAbsolute = true := isAbsolute_resolve absolute path home
  refine ⟨rooted, resolve_eq_self rooted, resolve_of_isAbsolute, ?_⟩
  intro relative
  have start : directory.components.1 = true := absolute
  rw [← start]
  exact (congrArg components (resolve_of_relative relative)).trans (components_join directory relative)

/-- The home directory is relative here and written `~`, so the expanded path begins with `~` again. -/
theorem resolve_settles_tilde :
    let path : Path := .ofString "~//x/."
    let directory : Path := .ofString "/w/./"
    let home : Path := .ofString "~"
    let resolved := path.resolve directory (some home)
    directory.isAbsolute = true ∧ path.expandHome (some home) = .ofString "~/x" ∧
      resolved = .ofString "/w/./~/x" ∧ resolved.components = (true, [utf8 "w", utf8 "~", utf8 "x"]) ∧
      resolved.resolve (.ofString "elsewhere") (some (.ofString "/h")) = resolved := by
  intro path directory home resolved
  have absolute : directory.isAbsolute = true := by decide
  have expanded : path.expandHome (some home) = .ofString "~/x" := by decide
  have relative : (path.expandHome (some home)).isAbsolute = false := by rw [expanded]; decide
  obtain ⟨_, settled, _, leads⟩ := resolve_settles path directory absolute (some home)
  refine ⟨absolute, expanded, by decide, (leads relative).trans ?_, settled _ _⟩
  rw [expanded]
  decide

end Path
end LeadingComment
