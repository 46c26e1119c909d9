import Packrat.Proofs.Origin
import Packrat.Proofs.Parsing

/-!
# Leaves of token trees

The leaves of a tree lie one after another over its source. Where their texts, put
together, are the characters of some kind in the order of the source, none of these
characters is lost, and none is in two leaves.

- `Tree.parts`, `Tree.leafText`: the trees inside a tree, and the text of its leaves.
- `Token.tree_mem_parts`, `Token.leafText_tree`: both are those of a token with this tree.
- `Token.Ordered.leaves`: leaves are tokens in order.
- `Token.Ordered.exists_holds`, `Token.Sound.exists_leaf`: each character that the leaves
  are for is in one of them.
-/

namespace Packrat

open Text (utf8Length)

/-! ## Trees and their leaves -/

namespace Tree

/-- The name of the token. -/
def name : Tree → String
  | .mk name _ _ => name

/-- What is inside. -/
def children : Tree → List Tree
  | .mk _ _ children => children

mutual

/-- The tree and all trees inside it. -/
def parts : Tree → List Tree
  | .mk name text children => .mk name text children :: partsAll children

/-- The trees and all trees inside them. -/
def partsAll : List Tree → List Tree
  | [] => []
  | tree :: rest => parts tree ++ partsAll rest

end

mutual

/-- The texts of the leaves, one after another. -/
def leafText : Tree → List Char
  | .mk _ text [] => text.toList
  | .mk _ _ (first :: rest) => leafTextAll (first :: rest)

/-- The texts of the leaves of several trees. -/
def leafTextAll : List Tree → List Char
  | [] => []
  | tree :: rest => leafText tree ++ leafTextAll rest

end

end Tree

namespace Token

/-- The leaves of several tokens, in order. -/
def leaves (tokens : List Token) : List Token := (preorderAll tokens).filter isLeaf

theorem leaves_cons (t : Token) (rest : List Token) : leaves (t :: rest) = leaves [t] ++ leaves rest := by
  rw [leaves, preorderAll, List.filter_append, leaves, preorderAll_singleton, leaves]

theorem leaves_singleton (t : Token) :
    leaves [t] = if t.isLeaf then [t] else leaves t.children := by
  rw [leaves, preorderAll_singleton, preorder_eq, List.filter_cons]
  split
  · rename_i hleaf
    have hchildren : t.children = [] := List.isEmpty_iff.1 hleaf
    rw [hchildren]
    rfl
  · rfl

theorem trees_eq_map (tokens : List Token) : trees tokens = tokens.map tree := by
  induction tokens with
  | nil => rfl
  | cons t rest ih => rw [trees_cons, ih, List.map_cons]

@[simp] theorem name_tree (t : Token) : t.tree.name = t.name := by
  cases t
  rfl

@[simp] theorem children_tree (t : Token) : t.tree.children = t.children.map tree := by
  rw [← trees_eq_map]
  cases t
  rfl

mutual

theorem map_preorder : ∀ t : Token, t.preorder.map tree = t.tree.parts
  | ⟨name, source, span, children⟩ => by
    rw [preorder, tree, Tree.parts, List.map_cons, map_preorderAll children, tree]

theorem map_preorderAll : ∀ tokens : List Token,
    (preorderAll tokens).map tree = Tree.partsAll (trees tokens)
  | [] => rfl
  | t :: rest => by
    rw [preorderAll, List.map_append, map_preorder t, map_preorderAll rest, trees_cons,
      Tree.partsAll]

end

/-- The trees of what is inside a token are inside its tree. -/
theorem tree_mem_parts {t token : Token} (h : t ∈ token.preorder) : t.tree ∈ token.tree.parts := by
  rw [← map_preorder]
  exact List.mem_map_of_mem h

mutual

theorem leafText_tree : ∀ t : Token, (leaves [t]).flatMap (·.text.toList) = t.tree.leafText
  | ⟨name, source, span, []⟩ => by
    rw [leaves_singleton]
    exact List.append_nil _
  | ⟨name, source, span, first :: rest⟩ => by
    rw [leaves_singleton]
    exact leafTextAll_trees (first :: rest)

theorem leafTextAll_trees : ∀ tokens : List Token,
    (leaves tokens).flatMap (·.text.toList) = Tree.leafTextAll (trees tokens)
  | [] => rfl
  | t :: rest => by
    rw [leaves_cons, List.flatMap_append, leafText_tree t, leafTextAll_trees rest, trees_cons,
      Tree.leafTextAll]

end

/-! ## Leaves in order -/

section

variable {source : String}

theorem Ordered.mono {ts : List Token} {lo lo' hi : Nat} (h : Ordered source lo' ts hi)
    (hle : lo ≤ lo') : Ordered source lo ts hi :=
  h.append (ordered_nil.2 hle)

mutual

/-- Every token inside a sound token is sound. -/
theorem Sound.of_mem_preorder {t : Token} : ∀ token : Token, token.Sound source →
    t ∈ token.preorder → t.Sound source
  | ⟨name, text, span, children⟩, h, ht => by
    rw [preorder, List.mem_cons] at ht
    rcases ht with rfl | ht
    · exact h
    · exact Ordered.of_mem_preorderAll children h.2.2.2.2 ht

theorem Ordered.of_mem_preorderAll {t : Token} : ∀ (tokens : List Token) {lo hi : Nat},
    Ordered source lo tokens hi → t ∈ preorderAll tokens → t.Sound source
  | first :: rest, _, _, ⟨_, hsound, hrest⟩, ht => by
    rw [preorderAll, List.mem_append] at ht
    rcases ht with ht | ht
    · exact Sound.of_mem_preorder first hsound ht
    · exact Ordered.of_mem_preorderAll rest hrest ht

end

mutual

theorem Sound.leaves : ∀ t : Token, t.Sound source →
    Ordered source t.start (Token.leaves [t]) t.stop
  | ⟨name, text, span, []⟩, h => by
    rw [leaves_singleton]
    exact ⟨Nat.le_refl _, h, Nat.le_refl _⟩
  | ⟨name, text, span, first :: rest⟩, h => by
    rw [leaves_singleton]
    exact Ordered.leaves (first :: rest) h.2.2.2.2

/-- Leaves follow one another where the tokens do. -/
theorem Ordered.leaves : ∀ (tokens : List Token) {lo hi : Nat}, Ordered source lo tokens hi →
    Ordered source lo (Token.leaves tokens) hi
  | [], _, _, h => h
  | t :: rest, _, _, ⟨hstart, hsound, hrest⟩ => by
    rw [leaves_cons]
    exact (Ordered.leaves rest hrest).append ((Sound.leaves t hsound).mono hstart)

end

end

end Token

/-! ## Characters and leaves -/

namespace Text

/-- `part` is what stands between two offsets of the source. -/
def Between (source : String) (lo : Nat) (part : List Char) (hi : Nat) : Prop :=
  ∃ before after, source.toList = before ++ (part ++ after) ∧ utf8Length before = lo ∧
    lo + utf8Length part = hi

theorem between_toList {source : String} : Between source 0 source.toList source.utf8ByteSize :=
  ⟨[], [], by simp, rfl, by rw [utf8Length_toList, Nat.zero_add]⟩

/-- The longer of two beginnings of a text goes on behind the shorter one. -/
theorem exists_append_of_le {first second more more' : List Char}
    (h : first ++ more = second ++ more') (hle : utf8Length first ≤ utf8Length second) :
    ∃ gap, second = first ++ gap ∧ more = gap ++ more' := by
  rcases List.append_eq_append_iff.1 h with ⟨gap, rfl, rfl⟩ | ⟨gap, rfl, rfl⟩
  · exact ⟨gap, rfl, rfl⟩
  · rw [utf8Length_append] at hle
    obtain rfl : gap = [] := utf8Length_eq_zero.1 (by omega)
    exact ⟨[], by simp, by simp⟩

/-- A character of two texts in a row is in the first or in the second. -/
theorem append_cases {first second left right : List Char} {c : Char}
    (h : first ++ second = left ++ c :: right) :
    (∃ more, first = left ++ c :: more) ∨
      ∃ more, left = first ++ more ∧ second = more ++ c :: right := by
  rcases List.append_eq_append_iff.1 h with ⟨more, hleft, hsecond⟩ | ⟨more, hfirst, hmore⟩
  · exact .inr ⟨more, hleft, hsecond⟩
  · cases more with
    | nil =>
      rw [List.append_nil] at hfirst
      exact .inr ⟨[], by simp [hfirst], hmore.symm⟩
    | cons d more =>
      cases hmore
      exact .inl ⟨more, hfirst⟩

end Text

namespace Token

variable {source : String} {lo hi : Nat} {t : Token} {ts : List Token} {part : List Char}

/-- The first of several tokens stands behind a gap, and the others stand in the rest. -/
theorem Ordered.exists_splits (h : Ordered source lo (t :: ts) hi)
    (hpart : Text.Between source lo part hi) :
    ∃ gap rest, part = gap ++ (t.text.toList ++ rest) ∧ lo + utf8Length gap = t.start ∧
      t.start + utf8Length t.text.toList = t.stop ∧ Text.Between source t.stop rest hi := by
  obtain ⟨hstart, hsound, hrest⟩ := h
  obtain ⟨before, after, hsource, hbefore, hlength⟩ := hpart
  obtain ⟨before', after', hsource', hbefore', hstop⟩ := hsound.exists_splits
  obtain ⟨gap, rfl, hgap⟩ :=
    Text.exists_append_of_le (hsource.symm.trans hsource') (by omega)
  rw [Text.utf8Length_append] at hbefore'
  have hle : t.stop ≤ hi := hrest.le
  have htext : gap ++ t.text.toList ++ after' = part ++ after := by
    rw [hgap, List.append_assoc]
  obtain ⟨rest, rfl, hafter⟩ := Text.exists_append_of_le htext (by
    rw [Text.utf8Length_append]
    omega)
  refine ⟨gap, rest, by simp, by omega, hstop, before ++ gap ++ t.text.toList, after, ?_, ?_, ?_⟩
  · simp [hsource]
  · simp only [Text.utf8Length_append]
    omega
  · simp only [Text.utf8Length_append] at hlength
    omega

/-- The texts of tokens in order are in the text in that order. -/
theorem Ordered.sublist : ∀ {ts : List Token} {lo : Nat} {part : List Char},
    Ordered source lo ts hi → Text.Between source lo part hi →
    (ts.flatMap (·.text.toList)).Sublist part
  | [], _, _, _, _ => List.nil_sublist _
  | t :: ts, _, _, h, hpart => by
    obtain ⟨gap, rest, rfl, -, -, hrest⟩ := h.exists_splits hpart
    have hmore : (ts.flatMap (·.text.toList)).Sublist rest := h.2.2.sublist hrest
    rw [List.flatMap_cons]
    exact (hmore.append_left _).trans (List.sublist_append_right _ _)

/-- The token holds the character that stands at the offset. -/
def holds (t : Token) (pos : Nat) (c : Char) : Bool := t.span.contains ⟨pos, pos + c.utf8Size⟩

theorem holds_iff {pos : Nat} {c : Char} :
    t.holds pos c = true ↔ t.start ≤ pos ∧ pos + c.utf8Size ≤ t.stop := Span.contains_iff

/-- No token from an offset on holds a character before it. -/
theorem Ordered.filter_holds_eq_nil {pos : Nat} {c : Char} :
    ∀ {ts : List Token} {lo : Nat}, Ordered source lo ts hi → pos < lo →
      ts.filter (holds · pos c) = []
  | [], _, _, _ => rfl
  | t :: ts, lo, ⟨hstart, hsound, hrest⟩, hlt => by
    have hnot : t.holds pos c = false := Bool.eq_false_iff.2 fun hholds => by
      have := (holds_iff.1 hholds).1
      omega
    rw [List.filter_cons_of_neg (by simp [hnot])]
    exact hrest.filter_holds_eq_nil (by have := hsound.start_le_stop; omega)

/-- **No character is lost, and none is in two tokens**: where the texts of tokens in
order are all characters of some kind, each of these is in exactly one of the tokens. -/
theorem Ordered.exists_holds {kept : Char → Bool} {c : Char} {right : List Char}
    (hc : kept c = true) : ∀ {ts : List Token} {lo : Nat} {part left : List Char},
      Ordered source lo ts hi → Text.Between source lo part hi →
      ts.flatMap (·.text.toList) = part.filter kept → part = left ++ c :: right →
      ∃ t ∈ ts, ts.filter (holds · (lo + utf8Length left) c) = [t]
  | [], _, part, left, _, _, htexts, hpart => by
    rw [hpart, List.filter_append, List.filter_cons_of_pos hc] at htexts
    simp at htexts
  | t :: ts, lo, part, left, h, hbetween, htexts, hpart => by
    obtain ⟨gap, rest, rfl, hgap, hstop, hrest⟩ := h.exists_splits hbetween
    rw [List.flatMap_cons, List.filter_append, List.filter_append] at htexts
    -- all of what the tokens hold is of this kind, and in the rest there is room for no less
    have hkept : ∀ d ∈ t.text.toList ++ ts.flatMap (·.text.toList), kept d = true := by
      intro d hd
      rw [htexts, ← List.filter_append, ← List.filter_append] at hd
      exact (List.mem_filter.1 hd).2
    obtain ⟨htext, hmore⟩ := List.forall_mem_append.1 hkept
    rw [List.filter_eq_self.2 htext] at htexts
    have hsub : (ts.flatMap (·.text.toList)).Sublist (rest.filter kept) := by
      have hfilter := (h.2.2.sublist hrest).filter kept
      rwa [List.filter_eq_self.2 hmore] at hfilter
    have hnone : gap.filter kept = [] := by
      have hlength := congrArg List.length htexts
      simp only [List.length_append] at hlength
      have := hsub.length_le
      exact List.eq_nil_of_length_eq_zero (by omega)
    rw [hnone, List.nil_append, List.append_cancel_left_eq] at htexts
    -- the character is in the gap, in the first token, or behind it
    rcases Text.append_cases hpart with ⟨more, rfl⟩ | ⟨left', rfl, hbehind⟩
    · simp [List.filter_cons_of_pos hc] at hnone
    · rw [Text.utf8Length_append, ← Nat.add_assoc, hgap]
      have hsize := c.utf8Size_pos
      rcases Text.append_cases hbehind with ⟨more, hinside⟩ | ⟨left, rfl, hlater⟩
      · rw [hinside, Text.utf8Length_append, Text.utf8Length_cons] at hstop
        have hholds : t.holds (t.start + utf8Length left') c = true :=
          holds_iff.2 ⟨by omega, by omega⟩
        refine ⟨t, List.mem_cons_self, ?_⟩
        rw [List.filter_cons, if_pos hholds, h.2.2.filter_holds_eq_nil (by omega)]
      · obtain ⟨t', hmem, hfilter⟩ := exists_holds hc h.2.2 hrest htexts hlater
        have hnot : ¬t.holds (t.stop + utf8Length left) c = true := fun hholds => by
          have := (holds_iff.1 hholds).2
          omega
        refine ⟨t', List.mem_cons_of_mem _ hmem, ?_⟩
        rw [Text.utf8Length_append, ← Nat.add_assoc, hstop, List.filter_cons, if_neg hnot, hfilter]

/-- The leaves of a sound token are in order in all of its source. -/
theorem Sound.ordered {token : Token} (h : token.Sound source) :
    Ordered source 0 (Token.leaves [token]) source.utf8ByteSize := by
  have hstop : token.stop ≤ source.utf8ByteSize := by
    obtain ⟨name, _, span, children⟩ := token
    exact Text.le_of_isBoundary h.2.2.2.1
  exact Ordered.leaves [token] ⟨Nat.zero_le _, h, hstop⟩

/-- Where the leaves of a tree are all characters of some kind in its source, each of
these is in exactly one leaf. -/
theorem Sound.exists_leaf {token : Token} {kept : Char → Bool} {before after : List Char} {c : Char}
    (h : token.Sound source) (hleaves : token.tree.leafText = source.toList.filter kept)
    (hsource : source.toList = before ++ c :: after) (hc : kept c = true) :
    ∃ leaf ∈ token.preorder, leaf.isLeaf = true ∧
      (token.preorder.filter isLeaf).filter (holds · (utf8Length before) c) = [leaf] := by
  have htexts : (Token.leaves [token]).flatMap (·.text.toList) = source.toList.filter kept :=
    (leafText_tree token).trans hleaves
  obtain ⟨leaf, hmem, hfilter⟩ := h.ordered.exists_holds hc Text.between_toList htexts hsource
  have heq : Token.leaves [token] = token.preorder.filter isLeaf := by
    rw [Token.leaves, preorderAll_singleton]
  rw [heq] at hmem hfilter
  rw [Nat.zero_add] at hfilter
  obtain ⟨hinside, hleaf⟩ := List.mem_filter.1 hmem
  exact ⟨leaf, hinside, hleaf, hfilter⟩

end Token

end Packrat
