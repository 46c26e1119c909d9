import Packrat.Token.Basic

/-!
# Walks over a token tree

Two resumable walks. A walk is a value: keeping an old one restarts from there.

- `Token.NamedChildren`: the direct children with a given name.
- `Token.Descendants`: the token and everything below it, parents first. The
  walk keeps the tokens still to visit on a stack; `Token.preorder` is the
  order that it produces, defined by recursion on the tree.
-/

namespace Packrat

namespace Token

/-! ## Pre-order -/

mutual

/-- The token followed by everything below it, parents before children. -/
def preorder : Token → List Token
  | ⟨name, source, span, children⟩ =>
    ⟨name, source, span, children⟩ :: preorderAll children

/-- The pre-orders of a list of tokens, one after another. -/
def preorderAll : List Token → List Token
  | [] => []
  | t :: ts => preorder t ++ preorderAll ts

end

/-! ## Children by name -/

/-- A walk over the direct children that are called `name`. -/
structure NamedChildren where
  /-- The children not yet looked at. -/
  rest : List Token
  name : String

/-- The walk over all children of `t` that are called `name`. -/
def namedChildren (t : Token) (name : String) : NamedChildren := ⟨t.children, name⟩

/-- The next child of that name, and the walk after it. -/
def NamedChildren.next? (walk : NamedChildren) : Option (Token × NamedChildren) :=
  go walk.rest
where
  go : List Token → Option (Token × NamedChildren)
    | [] => none
    | t :: rest => if t.name == walk.name then some (t, ⟨rest, walk.name⟩) else go rest

/-- Every child that the walk still yields. -/
def NamedChildren.toList (walk : NamedChildren) : List Token :=
  walk.rest.filter (·.name == walk.name)

/-- The first `n` children of the walk, and the walk after them. -/
def NamedChildren.take : Nat → NamedChildren → List Token × NamedChildren
  | 0, walk => ([], walk)
  | n + 1, walk =>
    match walk.next? with
    | none => ([], ⟨[], walk.name⟩)
    | some (t, walk) =>
      let (ts, walk) := take n walk
      (t :: ts, walk)

/-! ## Descendants -/

/-- A pre-order walk: the subtrees still to visit, the next one first. -/
structure Descendants where
  pending : List Token

/-- The walk over `t` and everything below it. -/
def descendants (t : Token) : Descendants := ⟨[t]⟩

/-- The next token, and the walk after it. -/
def Descendants.next? (walk : Descendants) : Option (Token × Descendants) :=
  match walk.pending with
  | [] => none
  | t :: rest => some (t, ⟨t.children ++ rest⟩)

mutual

/-- The number of tokens in a tree. -/
def treeSize : Token → Nat
  | ⟨_, _, _, children⟩ => 1 + forestSize children

/-- The number of tokens in a list of trees. -/
def forestSize : List Token → Nat
  | [] => 0
  | t :: ts => treeSize t + forestSize ts

end

theorem forestSize_append (ts us : List Token) :
    forestSize (ts ++ us) = forestSize ts + forestSize us := by
  induction ts with
  | nil => simp [forestSize]
  | cons t ts ih => simp [forestSize, ih, Nat.add_assoc]

theorem treeSize_eq (t : Token) : treeSize t = 1 + forestSize t.children := by
  cases t
  simp [treeSize]

/-- Every token that the walk still yields. -/
def Descendants.toList (walk : Descendants) : List Token :=
  match walk with
  | ⟨[]⟩ => []
  | ⟨t :: rest⟩ => t :: Descendants.toList ⟨t.children ++ rest⟩
termination_by forestSize walk.pending
decreasing_by
  simp only [forestSize_append, forestSize, treeSize_eq]
  omega

/-- The first `n` tokens of the walk, and the walk after them. -/
def Descendants.take : Nat → Descendants → List Token × Descendants
  | 0, walk => ([], walk)
  | n + 1, walk =>
    match walk.next? with
    | none => ([], walk)
    | some (t, walk) =>
      let (ts, walk) := take n walk
      (t :: ts, walk)

end Token

end Packrat
