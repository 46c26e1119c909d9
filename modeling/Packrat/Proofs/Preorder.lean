import Packrat.Proofs.Laminarity

/-!
# The walk over a tree takes its pre-order

The walk knows nothing of the tree but a stack of tokens that it has still to visit. This is
enough: a step takes the uppermost token off the stack and puts its children there instead, so
that the trees on the stack, each in its pre-order and the uppermost first, lose their first
token and nothing else.

- `Descendants.stack walk`: the stack as a vector with its top at the end. `next?_stack`: a step
  pops one token and pushes its children, the last one first.
- `Descendants.ahead walk`: the pre-orders of the trees on the stack, from top to bottom.
- `Descendants.take_ahead`: by `n` steps the walk yields the first `n` tokens of this, and
  leaves the rest ahead.
- `Token.Walked`: what there is to say of the walk over a tree, at each of its steps.
- `Token.walked_descendants`: **the walk takes the pre-order of every tree.**
-/

namespace Packrat

namespace Token

/-! ## Pre-orders -/

theorem preorderAll_eq_flatMap (ts : List Token) : preorderAll ts = ts.flatMap preorder := by
  induction ts with
  | nil => rfl
  | cons t ts ih => rw [preorderAll, List.flatMap_cons, ih]

mutual

/-- A pre-order has as many tokens as the tree. -/
theorem length_preorder : ∀ t : Token, t.preorder.length = t.treeSize
  | ⟨_, _, _, children⟩ => by
    rw [preorder, treeSize, List.length_cons, length_preorderAll children, Nat.add_comm]

theorem length_preorderAll : ∀ ts : List Token, (preorderAll ts).length = forestSize ts
  | [] => rfl
  | t :: ts => by
    rw [preorderAll, forestSize, List.length_append, length_preorder t, length_preorderAll ts]

end

/-! ## Steps of the walk -/

namespace Descendants

variable {walk next : Descendants} {t : Token}

/-- The tokens still to visit as they lie in a vector, the next one last. -/
def stack (walk : Descendants) : List Token := walk.pending.reverse

/-- A step takes the last token of the vector and appends its children in reverse. -/
theorem next?_stack (walk : Descendants) :
    walk.next?.map (Prod.map id stack) =
      walk.stack.getLast?.map fun t => (t, walk.stack.dropLast ++ t.children.reverse) := by
  obtain ⟨pending⟩ := walk
  cases pending with
  | nil => rfl
  | cons t rest => simp [next?, stack]

/-- The trees on the stack in pre-order, from its top to its bottom. -/
def ahead (walk : Descendants) : List Token := walk.stack.reverse.flatMap preorder

theorem ahead_eq (walk : Descendants) : walk.ahead = preorderAll walk.pending := by
  rw [ahead, stack, List.reverse_reverse, preorderAll_eq_flatMap]

/-- A walk that is not stopped yields what is ahead of it. -/
theorem toList_eq_ahead (walk : Descendants) : walk.toList = walk.ahead := by
  rw [toList_eq, ahead_eq]

/-- The walk is at its end when nothing is ahead. -/
theorem next?_eq_none_iff : walk.next? = none ↔ walk.ahead = [] := by
  obtain ⟨pending⟩ := walk
  rw [ahead_eq]
  cases pending with
  | nil => simp [next?, preorderAll]
  | cons t rest => simp [next?, preorderAll, preorder_eq]

/-- A step yields the first token of what is ahead, and leaves the others there. -/
theorem ahead_of_next? (h : walk.next? = some (t, next)) : walk.ahead = t :: next.ahead := by
  obtain ⟨pending⟩ := walk
  cases pending with
  | nil => cases h
  | cons first rest =>
    cases h
    -- the children take the place of the tree, whose pre-order goes on with theirs
    rw [ahead_eq, ahead_eq, preorderAll, preorder_eq, preorderAll_append, List.cons_append]

/-- **What the walk yields by `n` steps was ahead of it before, and the rest is afterwards.** -/
theorem take_ahead (n : Nat) (walk : Descendants) :
    (walk.take n).1 = walk.ahead.take n ∧ (walk.take n).2.ahead = walk.ahead.drop n := by
  induction n generalizing walk with
  | zero => exact ⟨rfl, rfl⟩
  | succ n ih =>
    rw [take]
    split
    · rename_i hnone
      rw [next?_eq_none_iff.1 hnone]
      exact ⟨rfl, rfl⟩
    · rename_i t next hsome
      obtain ⟨htaken, hahead⟩ := ih next
      rw [ahead_of_next? hsome]
      exact ⟨congrArg (t :: ·) htaken, hahead⟩

theorem take_of_next?_eq_none (h : walk.next? = none) (n : Nat) : walk.take n = ([], walk) := by
  cases n with
  | zero => rfl
  | succ n => rw [take, h]

/-- Steps may be counted on from where others ended. -/
theorem take_add (n m : Nat) (walk : Descendants) :
    (walk.take (n + m)).2 = ((walk.take n).2.take m).2 := by
  induction n generalizing walk with
  | zero => rw [Nat.zero_add, take]
  | succ n ih =>
    rw [Nat.succ_add, take, take]
    split
    · rename_i hnone
      rw [take_of_next?_eq_none hnone]
    · rename_i t next hsome
      exact ih next

end Descendants

/-! ## Walks over a tree -/

/-- The walk over `t` after `n` steps. -/
def walkAfter (t : Token) (n : Nat) : Descendants := (t.descendants.take n).2

/-- How the walk over a tree goes. -/
structure Walked (t : Token) : Prop where
  /-- In pre-order, a token comes first and then come its children, each with all below it. -/
  preorder_eq : t.preorder = t :: t.children.flatMap preorder
  /-- The walk yields the tree in pre-order. -/
  toList_eq : t.descendants.toList = t.preorder
  /-- It comes to every place in the tree, and to none a second time. -/
  places : t.descendants.toList.map some = t.paths.map t.at? ∧ t.paths.Nodup ∧
    ∀ path, path ∈ t.paths ↔ (t.at? path).isSome
  /-- It is at its end after as many steps as there are tokens, and not before. -/
  ended (n : Nat) : (t.walkAfter n).next? = none ↔ t.treeSize ≤ n
  /-- A step pops a token from the stack and pushes its children in reverse. -/
  step (n : Nat) : (t.walkAfter n).next?.map (Prod.map id Descendants.stack) =
    (t.walkAfter n).stack.getLast?.map fun d =>
      (d, (t.walkAfter n).stack.dropLast ++ d.children.reverse)
  /-- So many steps yield so many tokens. -/
  taken (n : Nat) : (t.descendants.take n).1 = t.preorder.take n
  /-- The others are still to come, and these are the trees on the stack in pre-order. -/
  ahead (n : Nat) : (t.walkAfter n).toList = (t.walkAfter n).ahead ∧
    (t.walkAfter n).ahead = t.preorder.drop n
  /-- A copy taken there yields them too, and goes on as the walk itself does. -/
  resumed (n m : Nat) : (t.walkAfter n).take m = ((t.walkAfter n).ahead.take m, t.walkAfter (n + m))

/-- What is ahead after `n` steps is the pre-order without its first `n` tokens. -/
theorem ahead_walkAfter (t : Token) (n : Nat) : (t.walkAfter n).ahead = t.preorder.drop n := by
  rw [← toList_descendants, Descendants.toList_eq_ahead]
  exact (Descendants.take_ahead n t.descendants).2

/-- **The walk takes the pre-order of every tree.** It ends, it yields each token of the tree
once, a parent before its children and these in their order, and at each of its steps the stack
holds what is still to come. -/
theorem walked_descendants (t : Token) : t.Walked where
  preorder_eq := by
    rw [preorder_eq, preorderAll_eq_flatMap]
  toList_eq := toList_descendants t
  places := by
    refine ⟨?_, ?_, ?_⟩
    · rw [toList_descendants, map_paths]
    · -- the paths are listed in their order, and no path comes before itself
      refine (pairwise_paths t).imp ?_
      rintro path _ hlt rfl
      exact List.lt_irrefl path hlt
    · intro path
      exact mem_paths_iff.trans Option.isSome_iff_exists.symm
  ended n := by
    rw [Descendants.next?_eq_none_iff, ahead_walkAfter, List.drop_eq_nil_iff, length_preorder]
  step n := (t.walkAfter n).next?_stack
  taken n := by
    rw [← toList_descendants, Descendants.toList_eq_ahead]
    exact (Descendants.take_ahead n t.descendants).1
  ahead n := ⟨(t.walkAfter n).toList_eq_ahead, ahead_walkAfter t n⟩
  resumed n m := by
    refine Prod.ext (Descendants.take_ahead m (t.walkAfter n)).1 ?_
    exact (Descendants.take_add n m t.descendants).symm

end Token

end Packrat
