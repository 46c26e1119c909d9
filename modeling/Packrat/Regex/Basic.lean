import Packrat.Text.Offset

/-!
# Regular expressions

What a rule asks of a regular expression: how far it matches in front of a text.
How the match is found is not for the rule to say, only that it ends between two
characters. That is a part of every `Regex`, so what is proven of rules holds
with any matcher that keeps to it.
-/

namespace Packrat

/-- A regular expression that is ready to match. -/
structure Regex where
  /-- How it is written. -/
  pattern : String
  /-- The length in bytes of the match at the front of `rest`. `previous?` is the
  character before it. -/
  matchLength? (previous? : Option Char) (rest : List Char) : Option Nat
  /-- A match ends between two characters: what it read is a first part of the
  text. -/
  exists_append_of_matchLength? {previous? : Option Char} {rest : List Char} {n : Nat} :
    matchLength? previous? rest = some n →
      ∃ read after, rest = read ++ after ∧ Text.utf8Length read = n

end Packrat
