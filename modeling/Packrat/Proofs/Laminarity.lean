import Packrat.Proofs.Leaves

/-!
# Token trees are laminar

The checked constructor looks at one level of a tree: each child lies inside the token
and starts no earlier than the child before it ends. Over a whole tree this orders all
spans, whatever texts the tokens are over.

- `Token.Built`: the tokens that the constructor makes of tokens that it made.
- `Token.at?`, `Token.paths`: a token inside a tree is found by the indices on the way to
  it, so that two tokens that look the same are two tokens. It is inside another token if
  the other's path is the beginning of its path, and it comes later in pre-order if its path
  comes later in the lexicographic order.
- `Token.Laminar`: what is inside a token lies in its span, all else ends before it or
  starts behind it, the walk never goes back, and the texts of the leaves stand in the
  text of the tree one behind the other.
- `Token.Built.laminar`: trees that were built are laminar.
-/

namespace Packrat

namespace Token

open Text (utf8Length)

/-! ## Places in a tree -/

/-- The token that is reached by going to these children, one below the other. -/
def at? (t : Token) : List Nat → Option Token
  | [] => some t
  | index :: path => (t.child? index).bind (·.at? path)

@[simp] theorem at?_nil (t : Token) : t.at? [] = some t := rfl

theorem at?_cons {t : Token} {index : Nat} {path : List Nat} :
    t.at? (index :: path) = t.children[index]?.bind (·.at? path) := rfl

theorem at?_append (t : Token) (path more : List Nat) :
    t.at? (path ++ more) = (t.at? path).bind (·.at? more) := by
  induction path generalizing t with
  | nil => rfl
  | cons index path ih =>
    rw [List.cons_append, at?_cons, at?_cons]
    cases t.children[index]? with
    | none => rfl
    | some child => exact ih child

mutual

/-- The paths to all tokens of a tree, parents before children. -/
def paths : Token → List (List Nat)
  | ⟨_, _, _, children⟩ => [] :: pathsFrom 0 children

/-- The paths to all tokens of several trees, the first of which is the child at `index`. -/
def pathsFrom (index : Nat) : List Token → List (List Nat)
  | [] => []
  | t :: ts => (paths t).map (index :: ·) ++ pathsFrom (index + 1) ts

end

theorem paths_eq (t : Token) : t.paths = [] :: pathsFrom 0 t.children := by
  cases t
  rfl

/-- Paths into the trees that are still to come begin with their indices. -/
theorem exists_of_mem_pathsFrom {path : List Nat} : ∀ {ts : List Token} {index : Nat},
    path ∈ pathsFrom index ts → ∃ later rest, path = later :: rest ∧ index ≤ later
  | _ :: _, index, h => by
    rw [pathsFrom, List.mem_append, List.mem_map] at h
    rcases h with ⟨rest, -, rfl⟩ | h
    · exact ⟨index, rest, rfl, Nat.le_refl _⟩
    · obtain ⟨later, rest, rfl, hle⟩ := exists_of_mem_pathsFrom h
      exact ⟨later, rest, rfl, Nat.le_of_succ_le hle⟩

mutual

/-- The paths are listed in the lexicographic order. -/
theorem pairwise_paths : ∀ t : Token, t.paths.Pairwise (· < ·)
  | ⟨_, _, _, children⟩ => by
    rw [paths, List.pairwise_cons]
    refine ⟨fun path hpath => ?_, pairwise_pathsFrom children 0⟩
    obtain ⟨later, rest, rfl, -⟩ := exists_of_mem_pathsFrom hpath
    exact List.nil_lt_cons later rest

theorem pairwise_pathsFrom : ∀ (ts : List Token) (index : Nat),
    (pathsFrom index ts).Pairwise (· < ·)
  | [], _ => .nil
  | t :: ts, index => by
    rw [pathsFrom, List.pairwise_append, List.pairwise_map]
    refine ⟨(pairwise_paths t).imp List.cons_lt_cons_self.2, pairwise_pathsFrom ts (index + 1),
      ?_⟩
    intro path hpath path' hpath'
    obtain ⟨rest, -, rfl⟩ := List.mem_map.1 hpath
    obtain ⟨later, rest', rfl, hle⟩ := exists_of_mem_pathsFrom hpath'
    exact List.cons_lt_cons_iff.2 (.inl hle)

end

mutual

/-- The tokens at the paths are the tokens of the tree in pre-order. -/
theorem map_paths : ∀ t : Token, t.paths.map t.at? = t.preorder.map some
  | ⟨name, source, span, children⟩ => by
    rw [paths, preorder, List.map_cons, List.map_cons, at?_nil]
    exact congrArg _ (map_pathsFrom [] children rfl)

theorem map_pathsFrom {t : Token} : ∀ (before ts : List Token), t.children = before ++ ts →
    (pathsFrom before.length ts).map t.at? = (preorderAll ts).map some
  | _, [], _ => rfl
  | before, child :: ts, (hchildren : t.children = before ++ child :: ts) => by
    have hchild : t.children[before.length]? = some child := by simp [hchildren]
    have hfirst : t.at? ∘ (before.length :: ·) = child.at? := by
      funext path
      rw [Function.comp_apply, at?_cons, hchild, Option.bind_some]
    have hrest := map_pathsFrom (t := t) (before ++ [child]) ts (by simp [hchildren])
    rw [List.length_append] at hrest
    rw [pathsFrom, preorderAll, List.map_append, List.map_append, List.map_map, hfirst,
      map_paths child]
    exact congrArg _ hrest

end

/-- The paths into a child go through the child. -/
theorem cons_mem_pathsFrom {child : Token} {path : List Nat} (hpath : path ∈ child.paths) :
    ∀ {ts : List Token} {index i : Nat}, ts[i]? = some child →
      (index + i) :: path ∈ pathsFrom index ts
  | _ :: _, _, 0, rfl => List.mem_append_left _ (List.mem_map_of_mem hpath)
  | _ :: ts, index, i + 1, h => by
    have hrest : (index + 1 + i) :: path ∈ pathsFrom (index + 1) ts := cons_mem_pathsFrom hpath h
    rw [Nat.add_assoc, Nat.add_comm 1] at hrest
    exact List.mem_append_right _ hrest

/-- The paths of a tree are all those that lead to a token. -/
theorem mem_paths_iff {t : Token} {path : List Nat} :
    path ∈ t.paths ↔ ∃ d, t.at? path = some d := by
  constructor
  · intro h
    have hmem : t.at? path ∈ t.preorder.map some := map_paths t ▸ List.mem_map_of_mem h
    obtain ⟨d, -, hd⟩ := List.mem_map.1 hmem
    exact ⟨d, hd.symm⟩
  · rintro ⟨d, hd⟩
    induction path generalizing t with
    | nil =>
      rw [paths_eq]
      exact List.mem_cons_self
    | cons index path ih =>
      obtain ⟨child, hchild, hd⟩ := Option.bind_eq_some_iff.1 (at?_cons ▸ hd)
      rw [paths_eq]
      refine List.mem_cons_of_mem _ ?_
      have hpaths : (0 + index) :: path ∈ pathsFrom 0 t.children :=
        cons_mem_pathsFrom (ih hd) hchild
      rwa [Nat.zero_add] at hpaths

/-- What the walk over the pending trees still yields is their pre-order. -/
theorem Descendants.toList_eq (walk : Descendants) : walk.toList = preorderAll walk.pending := by
  induction walk using Descendants.toList.induct with
  | case1 => rw [toList, preorderAll]
  | case2 t rest ih =>
    rw [toList, ih, preorderAll, preorder_eq, List.cons_append]
    exact congrArg _ (preorderAll_append _ _)

theorem toList_descendants (t : Token) : t.descendants.toList = t.preorder := by
  rw [Descendants.toList_eq, descendants, preorderAll_singleton]

/-! ## Trees that were built -/

/-- A token that the checked constructor made, of children that it made. -/
inductive Built : Token → Prop where
  | make {name source : String} {span : Span} {children : List Token} {t : Token}
      (hmake : Token.make name source span children = .ok t)
      (hchildren : ∀ child ∈ children, Built child) : Built t

theorem Built.leaf {name source : String} {span : Span} {t : Token}
    (h : Token.leaf name source span = .ok t) : Built t :=
  .make h fun _ hmem => absurd hmem List.not_mem_nil

/-- Children that are not misplaced start behind one another, and none leaves the parent. -/
theorem pairwise_of_misplacedChild?_eq_none {parent : Span} :
    ∀ {ts : List Token} {cursor : Nat}, (∀ t ∈ ts, t.start ≤ t.stop) →
      misplacedChild? parent cursor ts = none →
        (∀ t ∈ ts, parent.contains t.span = true ∧ cursor ≤ t.start) ∧
          ts.Pairwise (·.stop ≤ ·.start)
  | [], _, _, _ => ⟨by simp, .nil⟩
  | t :: ts, cursor, hts, h => by
    obtain ⟨ht, hts⟩ := List.forall_mem_cons.1 hts
    rw [misplacedChild?] at h
    split at h
    · rename_i hplaced
      obtain ⟨hinside, hcursor⟩ := (Bool.and_eq_true _ _).mp hplaced
      have hcursor : cursor ≤ t.start := of_decide_eq_true hcursor
      obtain ⟨hrest, hapart⟩ := pairwise_of_misplacedChild?_eq_none hts h
      refine ⟨List.forall_mem_cons.2 ⟨⟨hinside, hcursor⟩, fun u hu => ⟨(hrest u hu).1, ?_⟩⟩,
        List.pairwise_cons.2 ⟨fun u hu => (hrest u hu).2, hapart⟩⟩
      have := (hrest u hu).2
      omega
    · cases h

/-- A token passes its check if its span lies in its source, between characters, and no
child is misplaced. -/
theorem check_eq_none_iff {t : Token} :
    t.check = none ↔ t.start ≤ t.stop ∧ t.stop ≤ t.source.utf8ByteSize ∧
      (Text.isBoundary t.start t.source = true ∧ Text.isBoundary t.stop t.source = true) ∧
        misplacedChild? t.span t.start t.children = none := by
  simp only [check]
  split
  · rename_i hbounds
    simp only [reduceCtorEq, false_iff]
    exact fun h => hbounds ⟨h.1, h.2.1⟩
  · rename_i hbounds
    obtain ⟨hle, hstop⟩ := Decidable.not_not.1 hbounds
    split
    · rename_i hsplit
      simp only [reduceCtorEq, false_iff]
      exact fun h => by simp [h.2.2.1] at hsplit
    · rename_i hsplit
      simp only [Bool.not_eq_true, Bool.not_eq_false', Bool.and_eq_true] at hsplit
      simp [hle, hstop, hsplit]

namespace Built

variable {t : Token}

theorem children (h : t.Built) {child : Token} (hmem : child ∈ t.children) : child.Built := by
  obtain ⟨hmake, hchildren⟩ := h
  obtain ⟨rfl, -⟩ := make_eq_ok_iff.1 hmake
  exact hchildren child hmem

theorem checked (h : t.Built) :
    t.start ≤ t.stop ∧ t.stop ≤ t.source.utf8ByteSize ∧
      (Text.isBoundary t.start t.source = true ∧ Text.isBoundary t.stop t.source = true) ∧
        misplacedChild? t.span t.start t.children = none := by
  obtain ⟨hmake, -⟩ := h
  obtain ⟨rfl, hcheck⟩ := make_eq_ok_iff.1 hmake
  exact check_eq_none_iff.1 hcheck

theorem start_le_stop (h : t.Built) : t.start ≤ t.stop := h.checked.1

/-- The children of a token that was built lie inside it, one behind the other. -/
theorem placed (h : t.Built) :
    (∀ child ∈ t.children, t.start ≤ child.start ∧ child.stop ≤ t.stop) ∧
      t.children.Pairwise (·.stop ≤ ·.start) := by
  obtain ⟨hinside, hapart⟩ := pairwise_of_misplacedChild?_eq_none
    (fun child hmem => (h.children hmem).start_le_stop) h.checked.2.2.2
  exact ⟨fun child hmem => Span.contains_iff.1 (hinside child hmem).1, hapart⟩

/-- What is inside a token was built as well, and lies inside its span. -/
theorem of_at? {d : Token} {path : List Nat} (h : t.Built) (hd : t.at? path = some d) :
    d.Built ∧ t.start ≤ d.start ∧ d.stop ≤ t.stop := by
  induction path generalizing t with
  | nil =>
    cases hd
    exact ⟨h, Nat.le_refl _, Nat.le_refl _⟩
  | cons index path ih =>
    obtain ⟨child, hchild, hd⟩ := Option.bind_eq_some_iff.1 (at?_cons ▸ hd)
    have hmem : child ∈ t.children := List.mem_of_getElem? hchild
    obtain ⟨hbuilt, hstart, hstop⟩ := ih (h.children hmem) hd
    obtain ⟨hstart', hstop'⟩ := h.placed.1 child hmem
    exact ⟨hbuilt, Nat.le_trans hstart' hstart, Nat.le_trans hstop hstop'⟩

/-- Where two paths part, the token on the earlier one ends before the other starts. -/
theorem stop_le_start {first second : Token} {path path' : List Nat} (h : t.Built)
    (hfirst : t.at? path = some first) (hsecond : t.at? path' = some second)
    (hlt : path < path') (hinside : ¬path <+: path') : first.stop ≤ second.start := by
  induction path generalizing t path' with
  | nil => exact absurd (List.nil_prefix) hinside
  | cons i path ih =>
    cases path' with
    | nil => exact absurd hlt (List.not_lt_nil _)
    | cons j path' =>
      obtain ⟨child, hchild, hfirst⟩ := Option.bind_eq_some_iff.1 (at?_cons ▸ hfirst)
      obtain ⟨child', hchild', hsecond⟩ := Option.bind_eq_some_iff.1 (at?_cons ▸ hsecond)
      have hbuilt := h.children (List.mem_of_getElem? hchild)
      have hbuilt' := h.children (List.mem_of_getElem? hchild')
      rcases List.cons_lt_cons_iff.1 hlt with hlt' | ⟨rfl, hlt'⟩
      · -- the paths part here, at two children of this token
        obtain ⟨hi, rfl⟩ := List.getElem?_eq_some_iff.1 hchild
        obtain ⟨hj, rfl⟩ := List.getElem?_eq_some_iff.1 hchild'
        have hapart := List.pairwise_iff_getElem.1 h.placed.2 i j hi hj hlt'
        exact Nat.le_trans (hbuilt.of_at? hfirst).2.2
          (Nat.le_trans hapart (hbuilt'.of_at? hsecond).2.1)
      · cases hchild.symm.trans hchild'
        exact ih hbuilt hfirst hsecond hlt' fun hprefix =>
          hinside (List.cons_prefix_cons.2 ⟨rfl, hprefix⟩)

/-- A token on a later path does not start earlier. -/
theorem start_le_start {first second : Token} {path path' : List Nat} (h : t.Built)
    (hfirst : t.at? path = some first) (hsecond : t.at? path' = some second)
    (hlt : path < path') : first.start ≤ second.start := by
  have hbuilt := (h.of_at? hfirst).1
  by_cases hinside : path <+: path'
  · obtain ⟨more, rfl⟩ := hinside
    rw [at?_append, hfirst, Option.bind_some] at hsecond
    exact (hbuilt.of_at? hsecond).2.1
  · exact Nat.le_trans hbuilt.start_le_stop (h.stop_le_start hfirst hsecond hlt hinside)

/-- The walk over a tree that was built never goes back. -/
theorem ascending (h : t.Built) : t.preorder.Pairwise (·.start ≤ ·.start) := by
  have hsome : (t.preorder.map some).Pairwise fun a b =>
      ∀ d ∈ a, ∀ e ∈ b, d.start ≤ e.start := by
    rw [← map_paths, List.pairwise_map]
    exact (pairwise_paths t).imp fun hlt d hd e he => h.start_le_start hd he hlt
  rw [List.pairwise_map] at hsome
  exact hsome.imp fun hle => hle _ rfl _ rfl

mutual

/-- Over one source, a tree that was built is sound. -/
theorem sound {source : String} : ∀ t : Token, t.Built → (∀ d ∈ t.preorder, d.source = source) →
    t.Sound source
  | ⟨name, text, span, children⟩, h, hsource => by
    obtain ⟨hle, -, ⟨hstart, hstop⟩, -⟩ := h.checked
    obtain ⟨hinside, hapart⟩ := h.placed
    rw [preorder, List.forall_mem_cons] at hsource
    obtain ⟨rfl, hchildren⟩ := hsource
    exact ⟨rfl, hle, hstart, hstop,
      ordered children hle hinside hapart (fun _ => h.children) hchildren⟩

theorem ordered {source : String} : ∀ (ts : List Token) {lo hi : Nat}, lo ≤ hi →
    (∀ t ∈ ts, lo ≤ t.start ∧ t.stop ≤ hi) → ts.Pairwise (·.stop ≤ ·.start) →
      (∀ t ∈ ts, t.Built) → (∀ d ∈ preorderAll ts, d.source = source) → Ordered source lo ts hi
  | [], _, _, hle, _, _, _, _ => hle
  | t :: ts, lo, hi, _, hinside, hapart, hbuilt, hsource => by
    obtain ⟨⟨hstart, hstop⟩, hinside⟩ := List.forall_mem_cons.1 hinside
    obtain ⟨hbehind, hapart⟩ := List.pairwise_cons.1 hapart
    obtain ⟨ht, hbuilt⟩ := List.forall_mem_cons.1 hbuilt
    rw [preorderAll, List.forall_mem_append] at hsource
    exact ⟨hstart, sound t ht hsource.1,
      ordered ts hstop (fun u hu => ⟨hbehind u hu, (hinside u hu).2⟩) hapart hbuilt hsource.2⟩

end

end Built

/-! ## Texts of tokens -/

/-- The tokens stand in the text, which begins at the offset, where their spans say: each
text is behind the one before it, with any characters between them. -/
inductive StandIn : Nat → List Token → List Char → Prop where
  | nil {offset : Nat} {text : List Char} : StandIn offset [] text
  | cons {offset : Nat} {t : Token} {ts : List Token} {gap rest : List Char}
      (hgap : offset + utf8Length gap = t.start)
      (hstop : t.start + utf8Length t.text.toList = t.stop)
      (hrest : StandIn t.stop ts rest) :
      StandIn offset (t :: ts) (gap ++ t.text.toList ++ rest)

/-- Tokens in order stand in the text between the offsets. -/
theorem Ordered.standIn {source : String} {hi : Nat} :
    ∀ {ts : List Token} {lo : Nat} {part : List Char},
      Ordered source lo ts hi → Text.Between source lo part hi → StandIn lo ts part
  | [], _, _, _, _ => .nil
  | t :: ts, _, _, h, hpart => by
    obtain ⟨gap, rest, rfl, hgap, hstop, hrest⟩ := h.exists_splits hpart
    rw [← List.append_assoc]
    exact .cons hgap hstop (h.2.2.standIn hrest)

/-- The text of a sound token is what stands at its span. -/
theorem Sound.between {source : String} {t : Token} (h : t.Sound source) :
    Text.Between source t.start t.text.toList t.stop := by
  obtain ⟨before, after, hsource, hbefore, hstop⟩ := h.exists_splits
  exact ⟨before, after, hsource, hbefore, hstop⟩

/-! ## Laminar trees -/

/-- How the spans of a tree lie. Tokens are told apart by their paths. -/
structure Laminar (t : Token) : Prop where
  /-- The walk takes the paths in their lexicographic order and leaves none out. -/
  walk : t.descendants.toList.map some = t.paths.map t.at? ∧ t.paths.Pairwise (· < ·) ∧
    ∀ path, path ∈ t.paths ↔ ∃ d, t.at? path = some d
  /-- A token lies inside each token that is above it. -/
  inside : ∀ {path more : List Nat} {outer inner : Token}, t.at? path = some outer →
    t.at? (path ++ more) = some inner → outer.start ≤ inner.start ∧ inner.stop ≤ outer.stop
  /-- Of two tokens that are not above one another, the earlier one ends before the later
  one starts. -/
  apart : ∀ {path path' : List Nat} {first second : Token}, t.at? path = some first →
    t.at? path' = some second → ¬path <+: path' → ¬path' <+: path → path < path' →
      first.stop ≤ second.start
  /-- The walk never goes back. -/
  ascending : t.descendants.toList.Pairwise (·.start ≤ ·.start)
  /-- Over one source, the leaves stand in the text of the tree in the order of the walk. -/
  leaves : ∀ {source : String}, (∀ d ∈ t.descendants.toList, d.source = source) →
    StandIn t.start (t.descendants.toList.filter isLeaf) t.text.toList

/-- **Token trees are laminar.** What the constructor checks at one level holds across the
whole tree, since a child that comes later starts where no earlier one can reach. -/
theorem Built.laminar {t : Token} (h : t.Built) : t.Laminar where
  walk := ⟨by rw [toList_descendants, map_paths], pairwise_paths t, fun _ => mem_paths_iff⟩
  inside houter hinner := by
    rw [at?_append, houter, Option.bind_some] at hinner
    exact ((h.of_at? houter).1.of_at? hinner).2
  apart hfirst hsecond hinside _ hlt := h.stop_le_start hfirst hsecond hlt hinside
  ascending := by
    rw [toList_descendants]
    exact h.ascending
  leaves hsource := by
    rw [toList_descendants] at hsource ⊢
    have hsound := Built.sound t h hsource
    have hordered := Sound.leaves t hsound
    rw [Token.leaves, preorderAll_singleton] at hordered
    exact hordered.standIn hsound.between

/-- A tree over two sources, with an empty leaf. -/
theorem laminar_pair : ∃ empty name pair, leaf "empty" "k=v" ⟨2, 2⟩ = .ok empty ∧
    leaf "name" "other" ⟨0, 1⟩ = .ok name ∧
      make "pair" "k=v" ⟨0, 3⟩ [name, empty] = .ok pair ∧ pair.Built ∧ pair.Laminar := by
  have hempty : leaf "empty" "k=v" ⟨2, 2⟩ = .ok ⟨"empty", "k=v", ⟨2, 2⟩, []⟩ := rfl
  have hname : leaf "name" "other" ⟨0, 1⟩ = .ok ⟨"name", "other", ⟨0, 1⟩, []⟩ := rfl
  have hpair : make "pair" "k=v" ⟨0, 3⟩
      [⟨"name", "other", ⟨0, 1⟩, []⟩, ⟨"empty", "k=v", ⟨2, 2⟩, []⟩] =
    .ok ⟨"pair", "k=v", ⟨0, 3⟩, _⟩ := rfl
  have hbuilt := Built.make hpair fun child hmem => by
    rcases List.mem_pair.1 hmem with rfl | rfl
    · exact .leaf hname
    · exact .leaf hempty
  exact ⟨_, _, _, hempty, hname, hpair, hbuilt, hbuilt.laminar⟩

end Token

end Packrat
