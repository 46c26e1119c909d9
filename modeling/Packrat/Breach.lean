/-!
# Broken preconditions

Some operations are only defined for arguments that satisfy a condition: a
character set must not be empty, a span must not be inverted, a token must lie
inside its source. An operation that is given anything else answers with a
`Breach`, which says which condition failed and for which values. A breach is a
fault of the caller, unlike a failed parse, which is a fault of the input.

The wording of a breach is in `Packrat.Breach.Message`.
-/

namespace Packrat

/-- A precondition that did not hold. -/
inductive Breach where
  /-- A character class was given no characters. -/
  | emptyCharSet
  /-- A character range ends before it starts. -/
  | invertedRange (lo hi : Char)
  /-- A literal was given no text. -/
  | emptyLiteral
  /-- An ordered choice was given no alternatives. -/
  | noAlternatives
  /-- A span ends before it starts. -/
  | invertedSpan (start stop : Nat)
  /-- A token's span is inverted or leaves its source of `bytes` bytes. -/
  | tokenOutOfBounds (name : String) (start stop bytes : Nat)
  /-- A token's span starts or ends inside a character of its source. -/
  | tokenSplitsChar (name : String) (start stop : Nat)
  /-- A child of a token leaves its parent or overlaps an earlier sibling. -/
  | childMisplaced (child : String) (childStart childStop : Nat)
      (parent : String) (parentStart parentStop : Nat)
  /-- A parse state was assigned the state of another input. -/
  | foreignState
  /-- A cursor was moved to an offset that is not a character boundary. -/
  | offBoundary (position bytes : Nat)
  /-- Text was cut inside a character. -/
  | splitText (offset : Nat)
  /-- A recursive rule refers to a name that stands for no rule. -/
  | unresolved (key : String)
deriving DecidableEq, Repr

end Packrat
