import Packrat.Regex.Basic
import Packrat.Regex.Reader
import Packrat.Regex.Search

/-!
# Compiling regular expressions

A pattern that was read is laid out as a program, and the program matches at one
place of a text: of the ways in which the pattern matches there, the one it
prefers counts, as in a search that tries alternatives from left to right and
backtracks.

- `Regex.Program.toRegex`: a program as a matcher.
- `Regex.compile`: reads a pattern, or says why it cannot be used.
-/

namespace Packrat

namespace Regex

/-- Why a pattern cannot be used. -/
inductive Error where
  /-- The pattern cannot be read, or asks for what a text cannot hold. -/
  | malformed
  /-- The pattern asks for the edge of a word of Unicode. A matcher that goes
  byte by byte cannot find those. -/
  | wordBoundary
deriving DecidableEq, Repr

/-- What the error says. -/
def Error.message : Error → String
  | .malformed => "error building NFA"
  | .wordBoundary =>
    "unsupported regex feature for DFAs: cannot build DFAs for regexes with "
      ++ "Unicode word boundaries; switch to ASCII word boundaries, or heuristically "
      ++ "enable Unicode word boundaries or use a different regex engine"

/-- The program as the matcher of `pattern`. It counts characters, so it stops
between two of them. -/
def Program.toRegex (program : Program) (pattern : String) : Regex where
  pattern := pattern
  matchLength? previous? rest :=
    (program.matchCount? previous? rest).map fun count => Text.utf8Length (rest.take count)
  exists_append_of_matchLength? := by
    intro previous? rest n h
    obtain ⟨count, _, rfl⟩ := Option.map_eq_some_iff.1 h
    exact ⟨rest.take count, rest.drop count, (List.take_append_drop count rest).symm, rfl⟩

/-- Makes `pattern` ready to match. -/
def compile (pattern : String) : Except Error Regex :=
  match (Expression.read? pattern).bind Expression.pattern? with
  | none => .error .malformed
  | some meaning =>
    if meaning.anyLook Look.needsUnicodeWords then .error .wordBoundary
    else .ok (meaning.program.toRegex pattern)

end Regex

end Packrat
