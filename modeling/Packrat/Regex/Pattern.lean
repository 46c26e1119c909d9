import Packrat.Regex.Expression
import Packrat.Unicode.BinaryProperty
import Packrat.Unicode.Category
import Packrat.Unicode.Folding

/-!
# The meaning of regular expressions

A `Pattern` is a regular expression without modes: every character class is a
set, and every assertion is a `Look` at the two characters around a place.
`Expression.meaning?` finds the pattern that an expression stands for.

Texts are sequences of characters, so where Unicode is off a set may still hold
ASCII characters only: a set of bytes beyond them would split a character.
-/

namespace Packrat

namespace Regex

open Unicode

/-! ## Sets of characters -/

/-- The characters that words are made of: letters, marks, decimal numbers,
connector punctuation, and the two joiners. -/
def wordCharacters : CodeSet :=
  .ofRanges ([BinaryProperty.alphabetic, BinaryProperty.joinControl,
    Category.spacingMark.members, Category.enclosingMark.members,
    Category.nonspacingMark.members, Category.decimalNumber.members,
    Category.connectorPunctuation.members].flatMap fun s => s.ranges.toList)

/-- The ASCII characters that words are made of. -/
def asciiWordCharacters : CodeSet :=
  .ofRanges [('0'.toNat, '9'.toNat), ('A'.toNat, 'Z'.toNat), ('_'.toNat, '_'.toNat),
    ('a'.toNat, 'z'.toNat)]

/-- The set that a shorthand stands for. -/
def Shorthand.members (unicode : Bool) : Shorthand → CodeSet
  | .digit =>
    if unicode then Category.decimalNumber.members
    else .ofRanges [('0'.toNat, '9'.toNat)]
  | .space =>
    if unicode then BinaryProperty.whiteSpace
    else .ofRanges [('\t'.toNat, '\r'.toNat), (' '.toNat, ' '.toNat)]
  | .word => if unicode then wordCharacters else asciiWordCharacters

/-- The characters that match where a member of `set` does, if case may not
matter. -/
def Modes.fold (modes : Modes) (set : CodeSet) : CodeSet :=
  if !modes.ignoreCase then set
  else if modes.unicode then set.foldCase
  else set.foldAsciiCase

/-- `set`, or the characters outside it. -/
def complementIf (negated : Bool) (set : CodeSet) : CodeSet :=
  if negated then set.compl else set

/-- `set`, if it may be used under the modes. -/
def Modes.admit (modes : Modes) (set : CodeSet) : Option CodeSet :=
  if modes.unicode || set.isAscii then some set else none

/-- The character that a literal stands for. Where Unicode is off, a byte beyond
ASCII is no character. -/
def Literal.resolve (modes : Modes) (literal : Literal) : Option Char :=
  if !modes.unicode && literal.isByte && 0x80 ≤ literal.char.toNat then none
  else some literal.char

/-- The character that a literal within brackets stands for. -/
def Literal.resolveMember (modes : Modes) (literal : Literal) : Option Char :=
  if modes.unicode || literal.char.toNat < 0x80 then some literal.char else none

/-- The result of an operator. -/
def SetOperator.apply : SetOperator → CodeSet → CodeSet → CodeSet
  | .intersection => CodeSet.inter
  | .difference => CodeSet.diff
  | .symmetricDifference => CodeSet.symmDiff

mutual

/-- The members of a set. Case is folded before a set is negated and before two
sets are joined. -/
def SetExpression.members? (modes : Modes) : SetExpression → Option CodeSet
  | .empty => some .empty
  | .literal l => do return .singleton (← l.resolveMember modes)
  | .range first last => do
    return .range (← first.resolveMember modes) (← last.resolveMember modes)
  | .shorthand name negated =>
    modes.admit (complementIf negated (name.members modes.unicode))
  | .posix members negated => modes.admit (complementIf negated (modes.fold members))
  | .property members negated =>
    if modes.unicode then some (complementIf negated (modes.fold members)) else none
  | .bracketed negated inner => do
    modes.admit (complementIf negated (modes.fold (← inner.members? modes)))
  | .union items => SetExpression.unionMembers? modes items
  | .binary operator left right => do
    let left ← left.members? modes
    let right ← right.members? modes
    return operator.apply (modes.fold left) (modes.fold right)

/-- The members of any of the sets. -/
def SetExpression.unionMembers? (modes : Modes) : List SetExpression → Option CodeSet
  | [] => some .empty
  | item :: items => do
    let first ← item.members? modes
    return first.union (← SetExpression.unionMembers? modes items)

end

/-! ## Looking around -/

/-- A condition on the characters before and after a place. -/
inductive Look where
  | textStart
  | textEnd
  | lineStart (crlf : Bool)
  | lineEnd (crlf : Bool)
  | word (edge : WordEdge) (unicode : Bool)
deriving DecidableEq, Repr

namespace Look

/-- The condition that an assertion stands for. -/
def ofAnchor (modes : Modes) : Anchor → Look
  | .lineStart => if modes.multiLine then .lineStart modes.crlf else .textStart
  | .lineEnd => if modes.multiLine then .lineEnd modes.crlf else .textEnd
  | .textStart => .textStart
  | .textEnd => .textEnd
  | .word edge => .word edge modes.unicode

/-- Whether the condition holds between `previous?` and `next?`, which are
missing at the ends of the text. A carriage return and a line feed that end a
line together have no line end between them. -/
def holds (previous? next? : Option Char) : Look → Bool
  | .textStart => previous?.isNone
  | .textEnd => next?.isNone
  | .lineStart crlf =>
    previous?.isNone || previous? == some '\n'
      || (crlf && previous? == some '\r' && next? != some '\n')
  | .lineEnd crlf =>
    next?.isNone || (crlf && next? == some '\r')
      || (next? == some '\n' && !(crlf && previous? == some '\r'))
  | .word edge unicode =>
    let inWord (c? : Option Char) : Bool := c?.any (Shorthand.word.members unicode).contains
    match edge with
    | .boundary => inWord previous? != inWord next?
    | .noBoundary => inWord previous? == inWord next?
    | .start => !inWord previous? && inWord next?
    | .finish => inWord previous? && !inWord next?
    | .startHalf => !inWord previous?
    | .finishHalf => !inWord next?

/-- Whether the condition asks for words of Unicode. -/
def needsUnicodeWords : Look → Bool
  | .word _ unicode => unicode
  | _ => false

end Look

/-! ## Patterns -/

/-- A regular expression whose modes are settled. -/
inductive Pattern where
  | empty
  /-- One character out of `members`. -/
  | oneOf (members : CodeSet)
  | look (look : Look)
  | sequence (first second : Pattern)
  /-- Either, `first` preferred. -/
  | choice (first second : Pattern)
  /-- At least `least` and at most `most?` times, as often as possible if
  `greedy`. -/
  | repetition (operand : Pattern) (least : Nat) (most? : Option Nat) (greedy : Bool)

namespace Pattern

/-- Whether every match is empty. -/
def isZeroWidth : Pattern → Bool
  | .empty | .look _ => true
  | .oneOf _ => false
  | .sequence first second | .choice first second => first.isZeroWidth && second.isZeroWidth
  | .repetition operand _ _ _ => operand.isZeroWidth

/-- Repeats `operand`. What is repeated no times matches the empty text, and
what only matches empty texts matches no more by being repeated. -/
def repeated (operand : Pattern) (least : Nat) (most? : Option Nat) (greedy : Bool) : Pattern :=
  if most? == some 0 then .empty
  else if operand.isZeroWidth then .repetition operand (min least 1) (some 1) greedy
  else .repetition operand least most? greedy

/-- Whether any part of the pattern satisfies `test`, for the looks in it. -/
def anyLook (test : Look → Bool) : Pattern → Bool
  | .empty | .oneOf _ => false
  | .look l => test l
  | .sequence first second | .choice first second => first.anyLook test || second.anyLook test
  | .repetition operand _ _ _ => operand.anyLook test

end Pattern

/-! ## Meaning -/

/-- The pattern of the dot. It needs Unicode, because a single byte is no
character. -/
def dotPattern (modes : Modes) : Option Pattern :=
  if !modes.unicode then none
  else if modes.dotAll then some (.oneOf .all)
  else if modes.crlf then some (.oneOf (CodeSet.ofRanges [(10, 10), (13, 13)]).compl)
  else some (.oneOf (CodeSet.singleton '\n').compl)

mutual

/-- The pattern that an expression stands for under the modes in force, which
its switches change. There is none if the expression asks for characters that a
text cannot hold. -/
def Expression.meaning : Expression → StateT Modes Option Pattern
  | .empty => return .empty
  | .switch changes => do
    modify (·.update changes)
    return .empty
  | .literal l => do
    let modes ← get
    return .oneOf (modes.fold (.singleton (← l.resolve modes)))
  | .dot => do dotPattern (← get)
  | .anchor a => return .look (.ofAnchor (← get) a)
  | .oneOf s => do return .oneOf (← s.members? (← get))
  | .repetition operand least most? greedy => do
    let operand ← operand.meaning
    return operand.repeated least most? (greedy != (← get).swapGreed)
  | .group changes inner => do
    let outer ← get
    modify (·.update changes)
    let inner ← inner.meaning
    set outer
    return inner
  | .concatenation items => Expression.sequenceMeaning items
  | .alternation branches => Expression.choiceMeaning branches

/-- The pattern of expressions one after the other. -/
def Expression.sequenceMeaning : List Expression → StateT Modes Option Pattern
  | [] => return .empty
  | [item] => item.meaning
  | item :: items => do return .sequence (← item.meaning) (← Expression.sequenceMeaning items)

/-- The pattern of a choice of expressions. -/
def Expression.choiceMeaning : List Expression → StateT Modes Option Pattern
  | [] => return .empty
  | [branch] => branch.meaning
  | branch :: branches => do
    return .choice (← branch.meaning) (← Expression.choiceMeaning branches)

end

/-- The pattern that a whole expression stands for. -/
def Expression.pattern? (expression : Expression) : Option Pattern :=
  (expression.meaning.run {}).map (·.1)

end Regex

end Packrat
