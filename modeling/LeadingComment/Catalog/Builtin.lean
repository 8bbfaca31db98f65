import LeadingComment.Catalog

namespace LeadingComment.Catalog

/-- The opening tokens are pairwise different over both tables. -/
def builtin : Catalog where
  lineStyles := [
    ⟨"C", .line "//", ["C++", "Java", "Kotlin", "Go", "Rust", "Swift", "Dart"]⟩,
    ⟨"Python", .line "#", ["Shell", "Ruby", "Julia", "Perl"]⟩,
    ⟨"Lisp", .line ";", []⟩,
    ⟨"Lua", .line "--", []⟩,
    ⟨"Forth", .line "\\", []⟩,
    ⟨"Fortran", .line "!", []⟩]
  blockStyles := [
    ⟨"C", .block "/*" "*/", ["C++", "Java", "Kotlin", "Go", "Rust"]⟩,
    ⟨"Lisp", .block "#|" "|#", []⟩,
    ⟨"Lua", .block "--[[" "--]]", []⟩,
    ⟨"Forth", .block "(" ")", []⟩,
    ⟨"Ruby", .block "=begin" "=end", []⟩,
    ⟨"Julia", .block "#=" "=#", []⟩,
    ⟨"Perl", .block "=" "=cut", []⟩]

end LeadingComment.Catalog
