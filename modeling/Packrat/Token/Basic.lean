import Packrat.Span
import Packrat.Text.Position

/-!
# Tokens

A `Token` is a named span over a source text with ordered children. A leaf has
no children and stands for its text; a composite holds the tokens captured
inside it.

- `Token.make` is the checked constructor. It accepts a token exactly when
  `Token.check` finds nothing wrong: the span lies in the source and splits no
  character, and the children lie inside it in order and without overlap.
- `Token.text` is the source text under the token.
- `Token.same` is equality of tokens: name, span, text and children agree. The
  rest of the source may differ.
-/

namespace Packrat

/-- A named node of a parse result. -/
structure Token where
  name : String
  /-- The whole text that the token was parsed from. -/
  source : String
  span : Span
  children : List Token
deriving Inhabited

namespace Token

/-- The offset at which the token starts. -/
def start (t : Token) : Nat := t.span.start

/-- The offset at which the token ends. -/
def stop (t : Token) : Nat := t.span.stop

/-- A token without children is a leaf. -/
def isLeaf (t : Token) : Bool := t.children.isEmpty

/-- The source text under the token. For a composite it includes text between
the children that no child covers. -/
def text (t : Token) : String := (Text.slice? t.start t.stop t.source).getD ""

/-! ## Construction -/

/-- The first child that leaves the parent's span or starts before `cursor`,
the end of the sibling before it. -/
def misplacedChild? (parent : Span) : Nat → List Token → Option Token
  | _, [] => none
  | cursor, child :: rest =>
    if parent.contains child.span && decide (cursor ≤ child.start) then
      misplacedChild? parent child.stop rest
    else some child

/-- The first condition on tokens that `t` breaks, its children taken for
granted. -/
def check (t : Token) : Option Breach :=
  let bytes := t.source.utf8ByteSize
  if ¬(t.start ≤ t.stop ∧ t.stop ≤ bytes) then
    some (.tokenOutOfBounds t.name t.start t.stop bytes)
  else if !(Text.isBoundary t.start t.source && Text.isBoundary t.stop t.source) then
    some (.tokenSplitsChar t.name t.start t.stop)
  else
    (misplacedChild? t.span t.start t.children).map fun child =>
      .childMisplaced child.name child.start child.stop t.name t.start t.stop

/-- A token over `span` of `source`, if it is well placed. -/
def make (name source : String) (span : Span) (children : List Token) :
    Except Breach Token :=
  let t : Token := ⟨name, source, span, children⟩
  match t.check with
  | none => .ok t
  | some breach => .error breach

/-- A token without children. -/
def leaf (name source : String) (span : Span) : Except Breach Token :=
  make name source span []

theorem make_eq_ok_iff {name source : String} {span : Span} {children : List Token}
    {t : Token} :
    make name source span children = .ok t ↔
      t = ⟨name, source, span, children⟩ ∧ t.check = none := by
  unfold make
  constructor
  · intro h
    dsimp only at h
    split at h
    · cases h
      exact ⟨rfl, by assumption⟩
    · cases h
  · rintro ⟨rfl, h⟩
    simp [h]

/-! ## Children -/

/-- The number of direct children. -/
def childCount (t : Token) : Nat := t.children.length

/-- The child at `index`, in source order. -/
def child? (t : Token) (index : Nat) : Option Token := t.children[index]?

/-- The first direct child called `name`. -/
def childNamed? (t : Token) (name : String) : Option Token :=
  t.children.find? (·.name == name)

/-! ## Equality -/

mutual

/-- Whether two tokens agree in name, span, text and children. -/
def same : Token → Token → Bool
  | ⟨name₁, source₁, span₁, children₁⟩, ⟨name₂, source₂, span₂, children₂⟩ =>
    name₁ == name₂ && span₁ == span₂
      && text ⟨name₁, source₁, span₁, []⟩ == text ⟨name₂, source₂, span₂, []⟩
      && sameAll children₁ children₂

/-- Whether two lists of tokens agree one by one. -/
def sameAll : List Token → List Token → Bool
  | [], [] => true
  | a :: as, b :: bs => same a b && sameAll as bs
  | _, _ => false

end

instance : BEq Token := ⟨same⟩

/-- A token's text does not depend on its name or its children. -/
theorem text_mk (name source : String) (span : Span) (children : List Token) :
    text ⟨name, source, span, children⟩ = text ⟨"", source, span, []⟩ := rfl

end Token

end Packrat
