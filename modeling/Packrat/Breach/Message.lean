import Packrat.Breach
import Packrat.Text.Quoted

/-!
# The wording of broken preconditions

A breach of a rule of this library has a message. Text cut inside a character
and a name that stands for nothing have none.
-/

namespace Packrat

namespace Breach

/-- The text `start..stop`. -/
def range (start stop : Nat) : String := toString start ++ ".." ++ toString stop

/-- What the breach says, if it says anything. -/
def message : Breach → Option String
  | .emptyCharSet => some "broken grammar invariant: empty character set"
  | .invertedRange lo hi =>
    some ("broken grammar invariant: inverted character range "
      ++ Text.quotedCharacter lo ++ "..=" ++ Text.quotedCharacter hi)
  | .emptyLiteral => some "broken grammar invariant: empty literal"
  | .noAlternatives => some "broken grammar invariant: choice without alternatives"
  | .invertedSpan start stop =>
    some ("span start " ++ toString start ++ " past end " ++ toString stop)
  | .tokenOutOfBounds name start stop bytes =>
    some ("Token: span " ++ range start stop ++ " out of bounds for source of "
      ++ toString bytes ++ " bytes (name \x60" ++ name ++ "\x60)")
  | .tokenSplitsChar name start stop =>
    some ("Token: span " ++ range start stop ++ " splits a UTF-8 char (name \x60"
      ++ name ++ "\x60)")
  | .childMisplaced child childStart childStop parent parentStart parentStop =>
    some ("Token: child \x60" ++ child ++ "\x60 at " ++ range childStart childStop
      ++ " escapes parent \x60" ++ parent ++ "\x60 at " ++ range parentStart parentStop
      ++ " or overlaps a sibling")
  | .foreignState => some "ParseState::assign: states parse different inputs"
  | .offBoundary position bytes =>
    some ("ParseState: position " ++ toString position
      ++ " is not a char boundary of a " ++ toString bytes ++ "-byte input")
  | .splitText _ => none
  | .unresolved _ => none

end Breach

end Packrat
