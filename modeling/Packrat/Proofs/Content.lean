import Packrat.Token.Walk

/-!
# What exported trees keep

An exported tree says what its tokens are called, what is inside them and what the leaves
stand for. It does not say where they were found.

- `Content`: a tree of names with texts at its leaves. `Token.content`: that of a token.
- `Token.Named p`: all names in a tree satisfy `p`.
- `Token.tree_induction`: induction over trees, where a token is a leaf or has children.
-/

namespace Packrat

/-- What a tree of tokens says apart from places: the text of a leaf, or what is inside. -/
inductive Content where
  | leaf (name text : String)
  | composite (name : String) (children : List Content)

namespace Token

mutual

/-- The content of a token. -/
def content : Token → Content
  | ⟨name, source, span, children⟩ =>
    match children with
    | [] => .leaf name (text ⟨name, source, span, []⟩)
    | child :: rest => .composite name (content child :: contents rest)

/-- The contents of several tokens. -/
def contents : List Token → List Content
  | [] => []
  | t :: ts => content t :: contents ts

end

/-- All names in the tree satisfy `p`. -/
def Named (p : String → Prop) (t : Token) : Prop := ∀ d ∈ t.preorder, p d.name

instance (p : String → Prop) [DecidablePred p] (t : Token) : Decidable (t.Named p) :=
  inferInstanceAs (Decidable (∀ d ∈ t.preorder, p d.name))

variable {p : String → Prop} {name source : String} {span : Span}

theorem mem_preorderAll {d : Token} : ∀ {ts : List Token},
    d ∈ preorderAll ts ↔ ∃ t ∈ ts, d ∈ t.preorder
  | [] => by simp [preorderAll]
  | t :: ts => by simp [preorderAll, mem_preorderAll]

theorem forall_mem_preorder {q : Token → Prop} {children : List Token} :
    (∀ d ∈ preorder ⟨name, source, span, children⟩, q d) ↔
      q ⟨name, source, span, children⟩ ∧ ∀ child ∈ children, ∀ d ∈ child.preorder, q d := by
  rw [preorder, List.forall_mem_cons]
  refine and_congr_right fun _ => ?_
  constructor
  · intro h child hchild d hd
    exact h d (mem_preorderAll.2 ⟨child, hchild, hd⟩)
  · intro h d hd
    obtain ⟨child, hchild, hd⟩ := mem_preorderAll.1 hd
    exact h child hchild d hd

theorem named_iff {children : List Token} :
    Named p ⟨name, source, span, children⟩ ↔ p name ∧ ∀ child ∈ children, child.Named p :=
  forall_mem_preorder

/-- **Induction over trees.** A token is a leaf, or what holds of its children is known. -/
@[elab_as_elim]
theorem tree_induction {motive : Token → Prop}
    (leaf : ∀ name source span, motive ⟨name, source, span, []⟩)
    (composite : ∀ name source span child rest, (∀ t ∈ child :: rest, motive t) →
      motive ⟨name, source, span, child :: rest⟩) :
    ∀ t, motive t
  | ⟨name, source, span, []⟩ => leaf name source span
  | ⟨name, source, span, child :: rest⟩ =>
    composite name source span child rest fun t hmem =>
      have := List.sizeOf_lt_of_mem hmem
      tree_induction leaf composite t
termination_by t => sizeOf t
decreasing_by
  simp only [mk.sizeOf_spec]
  omega

end Token

end Packrat
