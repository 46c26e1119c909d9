import Mathlib.Data.Finset.Max
import Packrat.Proofs.ArithmeticReading
import Packrat.Proofs.Leaves

/-!
# Trees of arithmetic expressions

However an expression is written, it can be read off the tree of its text. And every
tree that is found is the tree of an expression: operands and operators alternate in it,
nothing but blanks and parentheses is outside its leaves, and no operator could have been
longer.

- `Arithmetic.decode`: the expression of a tree. `Writes.decodes`: it is the one that was
  written.
- `Writes.shaped`, `Writes.leafText`: the children of the trees that are written, and the
  text of their leaves.
- `IsOperator.isLongest`: where an operator is found, it is the longest that is there.
- `Arithmetic.run_written`: what is written is parsed to its tree.
- `Arithmetic.Faithful`, `Arithmetic.run_faithful`: what holds of every tree that a run
  finds, and the trees that it finds for what was written.
-/

namespace Packrat

namespace Arithmetic

open Builder Lexical
open Text (utf8Length)

/-! ## Reading expressions back -/

mutual

/-- The operand that a tree stands for. An expression among operands was in parentheses. -/
def decodeOperand : Tree → Option Operand
  | .mk name text children =>
    match name, children with
    | "Number", [] => some (.number text.toList)
    | "PrefixExpr", [.mk "PrefixOp" op [], tree] => (decodeOperand tree).map (.unary op)
    | "Expression", children => (decodeRow children).map .group
    | _, _ => none

/-- The expression that operands and operators in a row stand for. -/
def decodeRow : List Tree → Option Expression
  | [] => none
  | tree :: rest => (decodeOperand tree).bind fun first => (decodeFurther rest).map (.mk first)

/-- What operators and operands in turn stand for. -/
def decodeFurther : List Tree → Option (List (String × Operand))
  | [] => some []
  | .mk "BinaryOp" op [] :: tree :: rest =>
    (decodeOperand tree).bind fun operand => (decodeFurther rest).map ((op, operand) :: ·)
  | _ => none

end

/-- The expression that the tree of a whole text stands for. -/
def decode : Tree → Option Expression
  | .mk "Expression" _ children => decodeRow children
  | .mk "Arithmetic" _ [.mk "Expression" _ children] => decodeRow children
  | _ => none

/-- The trees stand for what the text stands for. -/
def Phrase.Decoded : Phrase → Prop
  | .operand x tree => decodeOperand tree = some x
  | .expression e tree =>
    ∃ text children, tree = .mk "Expression" text children ∧ decodeRow children = some e
  | .further xs trees => decodeFurther trees = some xs

variable {phrase : Phrase} {text : List Char} {e : Expression} {tree : Tree}

/-- **What was written can be read off the trees.** -/
theorem Writes.decodes (h : Writes phrase text) : phrase.Decoded := by
  induction h with
  | number => exact congrArg (some ∘ Operand.number) String.toList_ofList
  | unary _ _ _ ih =>
    show (decodeOperand _).map _ = _
    rw [show decodeOperand _ = some _ from ih]
    rfl
  | group _ _ _ ih =>
    obtain ⟨text, children, rfl, hrow⟩ := ih
    show (decodeRow children).map _ = _
    rw [hrow]
    rfl
  | expression _ _ ih ih' =>
    refine ⟨_, _, rfl, ?_⟩
    show (decodeOperand _).bind _ = _
    rw [show decodeOperand _ = some _ from ih, show decodeFurther _ = some _ from ih']
    rfl
  | ended => rfl
  | next _ _ _ _ ih ih' =>
    show (decodeOperand _).bind _ = _
    rw [show decodeOperand _ = some _ from ih, show decodeFurther _ = some _ from ih']
    rfl

/-! ## What the trees are made of -/

/-- The names of the trees of operands. -/
def operandNames : List String := ["Number", "PrefixExpr", "Expression"]

/-- The names of the trees that have nothing inside. -/
def leafNames : List String := ["Number", "BinaryOp", "PrefixOp"]

/-- Operands, and an operator between any two of them: an odd number of names, with those
of operands at even indices. -/
def Alternating (names : List String) : Prop :=
  names.length % 2 = 1 ∧
    ∀ i name, names[i]? = some name → if i % 2 = 0 then name ∈ operandNames else name = "BinaryOp"

/-- The names inside suit the name of the tree. -/
structure Shaped (name : String) (inside : List String) : Prop where
  expression : name = "Expression" → Alternating inside
  unary : name = "PrefixExpr" → ∃ operand ∈ operandNames, inside = ["PrefixOp", operand]
  leaf : inside = [] → name ∈ leafNames

theorem alternating_singleton {name : String} (h : name ∈ operandNames) : Alternating [name] := by
  refine ⟨rfl, fun i other hother => ?_⟩
  cases i with
  | zero =>
    cases hother
    exact h
  | succ => cases hother

theorem Alternating.cons {name : String} {names : List String} (hname : name ∈ operandNames)
    (h : Alternating names) : Alternating (name :: "BinaryOp" :: names) := by
  obtain ⟨hodd, hnames⟩ := h
  constructor
  · simp only [List.length_cons]
    omega
  · intro i other hother
    -- the first operand, the operator behind it, and those that were there before
    match i with
    | 0 =>
      cases hother
      exact hname
    | 1 =>
      cases hother
      rfl
    | i + 2 =>
      have hrest := hnames i other hother
      rwa [Nat.add_mod_right]

theorem shaped_leaf {name : String} (h : name ∈ leafNames) : Shaped name [] where
  expression hname := by
    rw [hname] at h
    exact absurd h (by decide)
  unary hname := by
    rw [hname] at h
    exact absurd h (by decide)
  leaf _ := h

theorem shaped_unary {operand : String} (h : operand ∈ operandNames) :
    Shaped "PrefixExpr" ["PrefixOp", operand] where
  expression hname := absurd hname (by decide)
  unary _ := ⟨operand, h, rfl⟩
  leaf hnone := nomatch hnone

theorem shaped_expression {inside : List String} (h : Alternating inside) :
    Shaped "Expression" inside where
  expression _ := h
  unary hname := absurd hname (by decide)
  leaf hnone := by
    rw [hnone] at h
    exact absurd h.1 (by decide)

theorem shaped_root (name : String) : Shaped "Arithmetic" [name] where
  expression hname := absurd hname (by decide)
  unary hname := absurd hname (by decide)
  leaf hnone := nomatch hnone

/-- The trees are of operands and operators, as the phrase says, and so is all inside. -/
def Phrase.Shaped : Phrase → Prop
  | .operand _ tree =>
    tree.name ∈ operandNames ∧
      ∀ part ∈ tree.parts, Arithmetic.Shaped part.name (part.children.map Tree.name)
  | .expression _ tree =>
    tree.name = "Expression" ∧
      ∀ part ∈ tree.parts, Arithmetic.Shaped part.name (part.children.map Tree.name)
  | .further _ trees =>
    (∀ first ∈ operandNames, Alternating (first :: trees.map Tree.name)) ∧
      ∀ part ∈ Tree.partsAll trees, Arithmetic.Shaped part.name (part.children.map Tree.name)

/-- **Operands and operators alternate in the trees of expressions**, and an operator and
an operand are inside the others. -/
theorem Writes.shaped (h : Writes phrase text) : phrase.Shaped := by
  have hnumber : "Number" ∈ operandNames := by decide
  have hunary : "PrefixExpr" ∈ operandNames := by decide
  have hgroup : "Expression" ∈ operandNames := by decide
  induction h with
  | number =>
    refine ⟨hnumber, fun part hpart => ?_⟩
    obtain rfl : part = _ := List.mem_singleton.1 hpart
    have hleaf : "Number" ∈ leafNames := by decide
    exact shaped_leaf hleaf
  | unary _ _ _ ih =>
    obtain ⟨hname, hparts⟩ := ih
    have hleaf : "PrefixOp" ∈ leafNames := by decide
    refine ⟨hunary, ?_⟩
    simp only [Tree.parts, Tree.partsAll, List.cons_append, List.nil_append, List.append_nil,
      List.forall_mem_cons]
    exact ⟨shaped_unary hname, shaped_leaf hleaf, hparts⟩
  | group _ _ _ ih =>
    obtain ⟨hname, hparts⟩ := ih
    exact ⟨hname ▸ hgroup, hparts⟩
  | expression _ _ ih ih' =>
    obtain ⟨hname, hparts⟩ := ih
    obtain ⟨halternate, hmore⟩ := ih'
    refine ⟨rfl, ?_⟩
    simp only [Tree.parts, Tree.partsAll, List.forall_mem_cons, List.forall_mem_append]
    exact ⟨shaped_expression (halternate _ hname), hparts, hmore⟩
  | ended => exact ⟨fun first hfirst => alternating_singleton hfirst, List.forall_mem_nil _⟩
  | next _ _ _ _ ih ih' =>
    obtain ⟨hname, hparts⟩ := ih
    obtain ⟨halternate, hmore⟩ := ih'
    have hleaf : "BinaryOp" ∈ leafNames := by decide
    constructor
    · intro first hfirst
      exact (halternate _ hname).cons hfirst
    · simp only [Tree.parts, Tree.partsAll, List.cons_append, List.nil_append,
        List.forall_mem_cons, List.forall_mem_append]
      exact ⟨shaped_leaf hleaf, hparts, hmore⟩

/-! ## What the leaves hold -/

/-- Whether `c` is neither a blank nor a parenthesis. -/
def isKept (c : Char) : Bool := !isBlank c && c != '(' && c != ')'

theorem filter_blank {blank : List Char} (h : Blank blank) : blank.filter isKept = [] := by
  refine List.filter_eq_nil_iff.2 fun c hc => ?_
  simp [isKept, h c hc]

theorem isKept_of_isFigure {c : Char} (h : isFigure c = true) : isKept c = true := by
  by_contra hnot
  simp only [isKept, isBlank, Bool.and_eq_true, Bool.not_eq_true', Bool.or_eq_false_iff, bne_iff_ne,
    beq_eq_false_iff_ne, not_and_or, not_not] at hnot
  rcases hnot with ((((rfl | rfl) | rfl) | rfl) | rfl) | rfl <;> cases h

theorem filter_numeral {numeral : List Char} (h : Numeral numeral) :
    numeral.filter isKept = numeral := by
  obtain ⟨digits, fraction, power, hdigits, hfraction, hpower, rfl⟩ := h
  exact List.filter_eq_self.2 fun c hc =>
    isKept_of_isFigure (figures_number hdigits hfraction hpower c hc)

theorem filter_operator {op : String} (h : op ∈ unaryOperators ++ binaryOperators) :
    op.toList.filter isKept = op.toList := by
  have hall : ∀ op ∈ unaryOperators ++ binaryOperators, op.toList.filter isKept = op.toList := by
    decide +kernel
  exact hall op h

/-- The leaves of the trees are what the text has besides blanks and parentheses. -/
def Phrase.Holds (text : List Char) : Phrase → Prop
  | .operand _ tree => tree.leafText = text.filter isKept
  | .expression _ tree => tree.leafText = text.filter isKept
  | .further _ trees => Tree.leafTextAll trees = text.filter isKept

/-- **Nothing but blanks and parentheses is outside the leaves.** -/
theorem Writes.leafText (h : Writes phrase text) : phrase.Holds text := by
  induction h with
  | number hnumeral hblank =>
    show (String.ofList _).toList = _
    rw [String.toList_ofList, List.filter_append, filter_numeral hnumeral, filter_blank hblank,
      List.append_nil]
  | @unary op _ tree blank text hop hblank _ ih =>
    show op.toList ++ (tree.leafText ++ []) = _
    rw [show tree.leafText = _ from ih, List.append_nil, List.filter_append, List.filter_append,
      filter_operator (List.mem_append_left _ hop), filter_blank hblank, List.append_nil]
  | @group _ tree blank blank' text hblank hblank' _ ih =>
    show tree.leafText = _
    rw [show tree.leafText = _ from ih, List.filter_cons_of_neg (by decide), List.filter_append,
      List.filter_append, List.filter_cons_of_neg (by decide), filter_blank hblank,
      filter_blank hblank', List.nil_append, List.append_nil]
  | @expression _ _ tree trees text more _ _ ih ih' =>
    show tree.leafText ++ Tree.leafTextAll trees = _
    rw [show tree.leafText = _ from ih, show Tree.leafTextAll trees = _ from ih',
      List.filter_append]
  | ended => rfl
  | @next op _ _ tree trees blank text more hop hblank _ _ ih ih' =>
    show op.toList ++ (tree.leafText ++ Tree.leafTextAll trees) = _
    rw [show tree.leafText = _ from ih, show Tree.leafTextAll trees = _ from ih',
      List.filter_append, List.filter_append, List.filter_append,
      filter_operator (List.mem_append_right _ hop), filter_blank hblank, List.append_nil]

/-! ## Which operators are found -/

section

variable {scope : Scope} {r : Rules} {rule : Rule} {table : List String} {op name input : String}
  {before ahead : List Char} {t : Token} {pos stop : Nat} {wants : List Want}

/-- If the text begins with an operator of the table, one of these is the longest. -/
theorem exists_isLongest (hop : op ∈ table) (hthere : op.toList <+: ahead) :
    ∃ longest, IsLongest table longest ahead := by
  let there : List String := table.filter fun op => op.toList.isPrefixOf ahead
  have hmem {op : String} : op ∈ there.toFinset ↔ op ∈ table ∧ op.toList <+: ahead := by
    rw [List.mem_toFinset, List.mem_filter, List.isPrefixOf_iff_prefix]
  obtain ⟨longest, hlongest, hall⟩ :=
    Finset.exists_max_image there.toFinset (·.toList.length) ⟨op, hmem.2 ⟨hop, hthere⟩⟩
  obtain ⟨hintable, hprefix⟩ := hmem.1 hlongest
  exact ⟨longest, hintable, hprefix, fun other hother hstarts =>
    hall other (hmem.2 ⟨hother, hstarts⟩)⟩

/-- **The operator that is found is the longest that is there.** -/
theorem IsOperator.isLongest (h : IsOperator table rule) (hname : scope.name rule.id = some name)
    (hfirst : LongestFirst table)
    (heval : Evaluates scope input True rule pos (some (stop, [t])) wants)
    (hinput : input.toList = before ++ ahead) (hpos : utf8Length before = pos) :
    IsLongest table t.text ahead := by
  obtain ⟨read, rest, rfl, -, hread⟩ := heval.covers rfl before ahead hinput hpos
  obtain ⟨op, hop, rfl⟩ := h.generates hread
  obtain ⟨longest, hlongest⟩ := exists_isLongest hop (List.prefix_append op.toList rest)
  obtain ⟨after, hafter⟩ := hlongest.2.1
  -- the rule reads the longest one, and what is there has one reading only
  obtain ⟨tokens, hderives, htrees⟩ : ∃ tokens,
      Derives scope input rule pos (some (pos + utf8Length longest.toList, tokens)) ∧
        Token.trees tokens = [.mk name longest []] := by
    have hreads := h.reads hname hfirst (hafter.symm ▸ hlongest) before
    rwa [hafter, ← hinput, String.ofList_toList, hpos] at hreads
  obtain ⟨wants', heval'⟩ := hderives.evaluates
  obtain ⟨hsame, -⟩ := (heval'.mono False.elim).det heval
  simp only [Option.some.injEq, Prod.mk.injEq] at hsame
  obtain ⟨-, rfl⟩ := hsame
  rw [Token.trees_cons, t.tree_eq] at htrees
  have htext : t.text = longest := by
    simp only [List.cons.injEq, Tree.mk.injEq] at htrees
    exact htrees.1.2.1
  rwa [htext]

/-- Binary operators stand in expressions, and these in documents. -/
theorem Rules.Composed.reaches_binaryOp (h : r.Composed) :
    r.arithmetic.Reaches scope r.binaryOp := by
  obtain ⟨id, leading, last, -, harithmetic⟩ := h.arithmetic
  obtain ⟨id₁, id₂, id₃, id₄, mark, hmark, hexpression⟩ := h.expression
  obtain ⟨id₅, blanks, -, hlexeme⟩ := makes_lexeme hmark
  have hexpr : r.arithmetic.Reaches scope r.expression := by
    rw [harithmetic]
    exact Rule.Reaches.refl.operand (by simp [Rule.operands])
  have hrow : r.expression.Reaches scope
      (.seq id₂ [r.simpleExpr, .zeroOrMore id₃ (.seq id₄ [mark, r.simpleExpr])]) := by
    rw [hexpression]
    exact Rule.Reaches.refl.operand (List.mem_singleton_self _)
  have hmore : r.expression.Reaches scope (.zeroOrMore id₃ (.seq id₄ [mark, r.simpleExpr])) :=
    hrow.operand (List.mem_cons_of_mem _ (List.mem_singleton_self _))
  have hfurther : r.expression.Reaches scope (.seq id₄ [mark, r.simpleExpr]) :=
    hmore.operand (List.mem_singleton_self _)
  have hmarked : mark.Reaches scope r.binaryOp := by
    rw [hlexeme]
    exact Rule.Reaches.refl.operand List.mem_cons_self
  exact ((hexpr.trans hfurther).operand List.mem_cons_self).trans hmarked

end

/-! ## Runs -/

/-- What is known of the tree of an expression. The names inside suit the names around
them; each character but blanks and parentheses is in one leaf, and no other leaf has it;
and no longer operator of the table begins where one stands. -/
structure Faithful (input : String) (token : Token) : Prop where
  shaped : ∀ t ∈ token.preorder, Shaped t.name (t.children.map Token.name)
  covered : ∀ before c after, input.toList = before ++ c :: after → isKept c = true →
    ∃ leaf, (token.preorder.filter Token.isLeaf).filter (·.holds (utf8Length before) c) = [leaf] ∧
      leaf.name ∈ leafNames
  longest : ∀ t ∈ token.preorder, t.name = "BinaryOp" →
    ∃ before ahead, input.toList = before ++ ahead ∧ utf8Length before = t.start ∧
      IsLongest binaryOperators t.text ahead

/-- The tree of a document is the tree of its expression if no blanks stand before it. -/
theorem Writes.root_eq {before body : List Char} (h : Writes (.expression e tree) body) :
    Tree.root "Arithmetic" (String.ofList (before ++ body)) [tree] =
      if before = [] then tree else .mk "Arithmetic" (String.ofList (before ++ body)) [tree] := by
  cases h with
  | expression =>
    have hcovers {before body : List Char} :
        String.ofList body = String.ofList (before ++ body) ↔ before = [] := by
      rw [String.ofList_inj, List.self_eq_append_left]
    rw [Tree.root]
    exact if_congr hcovers rfl rfl

/-- The expression can be read off the tree of a document, with blanks before it or without. -/
theorem Writes.decode_root {before body : List Char} (h : Writes (.expression e tree) body) :
    decode (Tree.root "Arithmetic" (String.ofList (before ++ body)) [tree]) = some e := by
  rw [h.root_eq]
  obtain ⟨text, children, rfl, hrow⟩ := h.decodes
  split
  · exact hrow
  · exact hrow

/-- What is written has such a tree also with blanks before it: names inside suit the names
around them, and the leaves are what the text has besides blanks and parentheses. -/
theorem root_shaped {before body : List Char} (hbefore : Blank before)
    (hbody : Writes (.expression e tree) body) :
    (∀ part ∈ (Tree.root "Arithmetic" (String.ofList (before ++ body)) [tree]).parts,
        Shaped part.name (part.children.map Tree.name)) ∧
      (Tree.root "Arithmetic" (String.ofList (before ++ body)) [tree]).leafText =
        (before ++ body).filter isKept := by
  obtain ⟨-, hparts⟩ := hbody.shaped
  have htext : tree.leafText = body.filter isKept := hbody.leafText
  rw [hbody.root_eq, List.filter_append, filter_blank hbefore, List.nil_append]
  split
  · exact ⟨hparts, htext⟩
  · constructor
    · simp only [Tree.parts, Tree.partsAll, List.append_nil, List.forall_mem_cons]
      exact ⟨shaped_root tree.name, hparts⟩
    · show tree.leafText ++ [] = _
      rw [List.append_nil, htext]

section

variable {scope : Scope} {r : Rules} {limits : Limits} {memoize complete : Bool} {input : String}
  {token : Token} (hmakes : rules.Makes r) (hknows : scope.Knows r.draft.rules)
  (hresolves : scope.Resolves r.arithmetic) (hidentifies : scope.Identifies r.arithmetic)
  (hrun : (Parser.run ⟨r.arithmetic, limits, memoize⟩ scope input complete).result =
    .ok (.ok token))

include hmakes hknows hresolves hidentifies hrun

/-- What a run finds is the tree of a document. -/
theorem exists_document :
    ∃ before e tree body, Blank before ∧ Writes (.expression e tree) body ∧
      input.toList = before ++ body ∧ token.tree = Tree.root "Arithmetic" input [tree] := by
  obtain ⟨read, rest, hinput, hread⟩ := Parser.generates_of_run _ hresolves hidentifies hrun
  obtain ⟨⟨before, e, tree, body, hbefore, hbody, rfl⟩, rfl⟩ :=
    (composed hmakes).document_of_generates hknows hread
  rw [List.append_nil] at hinput
  rcases run_document hmakes hknows hresolves hidentifies limits memoize complete hbefore hbody
    hinput with ⟨error, hlimit⟩ | ⟨found, hfound, htree⟩
  · rw [hlimit] at hrun
    cases hrun
  · rw [hfound] at hrun
    cases hrun
    exact ⟨before, e, tree, body, hbefore, hbody, hinput, htree⟩

/-- The operators that a run finds are the longest that there are. -/
theorem isLongest_of_run (hclosed : r.draft.Closed) {t : Token} (ht : t ∈ token.preorder)
    (hop : t.name = "BinaryOp") :
    ∃ before ahead, input.toList = before ++ ahead ∧ utf8Length before = t.start ∧
      IsLongest binaryOperators t.text ahead := by
  have hroot : ("Arithmetic", r.arithmetic) ∈ r.draft.rules := by simp [Rules.draft]
  have hbinary : ("BinaryOp", r.binaryOp) ∈ r.draft.rules := by simp [Rules.draft]
  have hsound : token.Sound input := Parser.sound_of_run _ hresolves hrun
  obtain ⟨before, ahead, hinput, hstart, -⟩ :=
    (Token.Sound.of_mem_preorder token hsound ht).exists_splits
  refine ⟨before, _, hinput, hstart, ?_⟩
  -- the token is no root over others, so it comes from a node, which is that of operators
  obtain ⟨st, cx, -, hmade, hcomes⟩ := Parser.run_comesFrom ⟨r.arithmetic, limits, memoize⟩
    hresolves hidentifies complete hrun
  have hemitted : t ∈ Token.preorderAll st.emitted.toList := by
    rcases hmade with honly | ⟨hname, hchildren⟩
    · rwa [honly, Token.preorderAll_singleton]
    · rw [Token.preorder_eq, List.mem_cons] at ht
      rcases ht with rfl | hbelow
      · rw [hknows.name_eq _ hroot, hop] at hname
        have hsame : "BinaryOp" = "Arithmetic" := hname
        exact absurd hsame (by decide)
      · rwa [← hchildren]
  obtain ⟨id, operand, wants, hreaches, heval⟩ := hcomes t hemitted
  have hnode : .node id operand = r.binaryOp :=
    hknows.node_eq hclosed hidentifies hroot hbinary (composed hmakes).reaches_binaryOp hreaches
      (heval.name_eq.symm.trans hop)
  rw [hnode] at heval
  exact (composed hmakes).binaryOp.isLongest (hknows.name_eq _ hbinary)
    longestFirst_binaryOperators heval hinput hstart

/-- **The trees of runs are faithful.** -/
theorem faithful_of_run (hclosed : r.draft.Closed) : Faithful input token := by
  obtain ⟨before, e, tree, body, hbefore, hbody, hinput, htree⟩ :=
    exists_document hmakes hknows hresolves hidentifies hrun
  obtain ⟨hparts, hleaves⟩ := root_shaped hbefore hbody
  -- what is known of trees holds of tokens with these trees
  rw [← hinput, String.ofList_toList, ← htree] at hparts hleaves
  have hshaped : ∀ t ∈ token.preorder, Shaped t.name (t.children.map Token.name) := by
    intro t ht
    have hpart := hparts t.tree (Token.tree_mem_parts ht)
    rw [Token.name_tree, Token.children_tree, List.map_map] at hpart
    have hnames : Tree.name ∘ Token.tree = Token.name := funext Token.name_tree
    rwa [hnames] at hpart
  refine ⟨hshaped, ?_, ?_⟩
  · intro before c after hsource hc
    have hsound : token.Sound input := Parser.sound_of_run _ hresolves hrun
    obtain ⟨leaf, hmem, hleaf, hfilter⟩ := hsound.exists_leaf hleaves hsource hc
    refine ⟨leaf, hfilter, (hshaped leaf hmem).leaf ?_⟩
    rw [List.isEmpty_iff.1 hleaf]
    rfl
  · intro t ht hop
    exact isLongest_of_run hmakes hknows hresolves hidentifies hrun hclosed ht hop

end

/-- What is written is parsed to the tree that mirrors it and read back, up to limits. -/
theorem run_written {r : Rules} (hmakes : rules.Makes r) {scope : Scope}
    (hknows : scope.Knows r.draft.rules) (hresolves : scope.Resolves r.arithmetic)
    (hidentifies : scope.Identifies r.arithmetic) (limits : Limits) (memoize complete : Bool)
    {before body : List Char} {e : Expression} {tree : Tree} (hbefore : Blank before)
    (hbody : Writes (.expression e tree) body) :
    let input := String.ofList (before ++ body)
    let result := (Parser.run ⟨r.arithmetic, limits, memoize⟩ scope input complete).result
    (∃ error, result = .ok (.error (.limit error))) ∨
      ∃ token, result = .ok (.ok token) ∧
        token.tree = (if before = [] then tree else .mk "Arithmetic" input [tree]) ∧
        decode token.tree = some e := by
  intro input result
  have hrun := run_document hmakes hknows hresolves hidentifies limits memoize complete hbefore
    hbody String.toList_ofList
  refine hrun.imp_right fun ⟨token, htoken, htree⟩ => ⟨token, htoken, ?_, ?_⟩
  · exact htree.trans hbody.root_eq
  · rw [htree]
    exact hbody.decode_root

/-- **Trees of arithmetic expressions are faithful.** However an expression is written,
with blanks or without, a run that meets no limit finds the tree that mirrors it, inside
an `Arithmetic` tree where blanks stand before it, and the expression can be read off. And
whatever tree a run finds, operands and operators alternate in it, its leaves divide all
characters but blanks and parentheses among them, and its operators are the longest that
there are. -/
theorem run_faithful :
    ∃ g, Catalog.standard.find? "arithmetic" = some g ∧
      ∀ (limits : Limits) (memoize complete : Bool),
        (∀ (before body : List Char) (e : Expression) (tree : Tree),
          Blank before → Writes (.expression e tree) body →
            let input := String.ofList (before ++ body)
            let result :=
              (Parser.run ⟨g.root, limits, memoize⟩ Catalog.standard.scope input complete).result
            (∃ error, result = .ok (.error (.limit error))) ∨
              ∃ token, result = .ok (.ok token) ∧
                token.tree = (if before = [] then tree else .mk "Arithmetic" input [tree]) ∧
                decode token.tree = some e) ∧
        ∀ (input : String) (token : Token),
          (Parser.run ⟨g.root, limits, memoize⟩ Catalog.standard.scope input complete).result =
              .ok (.ok token) →
            Faithful input token := by
  obtain ⟨r, g, hmakes, hfind, hroot, hclosed, hknows, hresolves, hidentifies⟩ :=
    Catalog.exists_arithmetic
  refine ⟨g, hfind, fun limits memoize complete => ?_⟩
  rw [hroot]
  constructor
  · intro before body e tree hbefore hbody
    exact run_written hmakes hknows hresolves hidentifies limits memoize complete hbefore hbody
  · intro input token hrun
    exact faithful_of_run hmakes hknows hresolves hidentifies hrun hclosed

/-- Two operators with no blank between them: the first is not read on into the second. -/
theorem run_faithful_comparison :
    ∃ g, Catalog.standard.find? "arithmetic" = some g ∧
      ∀ (limits : Limits) (memoize complete : Bool),
        let input := " 1<-2"
        let result :=
          (Parser.run ⟨g.root, limits, memoize⟩ Catalog.standard.scope input complete).result
        (∃ error, result = .ok (.error (.limit error))) ∨
          ∃ token, result = .ok (.ok token) ∧
            token.tree = .mk "Arithmetic" input
              [.mk "Expression" "1<-2"
                [.mk "Number" "1" [], .mk "BinaryOp" "<" [],
                  .mk "PrefixExpr" "-2" [.mk "PrefixOp" "-" [], .mk "Number" "2" []]]] ∧
            decode token.tree = some (.mk (.number ['1']) [("<", .unary "-" (.number ['2']))]) ∧
            Faithful input token := by
  have hspace : Blank [' '] := by simp [Blank, isBlank]
  have hnone : Blank [] := List.forall_mem_nil _
  have hdigit {c : Char} (hc : c.isDigit = true) : Numeral [c] :=
    ⟨[c], [], [], ⟨List.cons_ne_nil _ _, by simpa using hc⟩, .inl rfl, .inl rfl, rfl⟩
  have hone : Numeral ['1'] := hdigit rfl
  have htwo : Numeral ['2'] := hdigit rfl
  have hminus : "-" ∈ unaryOperators := by decide
  have hless : "<" ∈ binaryOperators := by decide +kernel
  have hfurther := Writes.next hless hnone (.unary hminus hnone (.number htwo hnone)) .ended
  have hwritten := Writes.expression (.number hone hnone) hfurther
  obtain ⟨g, hfind, hall⟩ := run_faithful
  refine ⟨g, hfind, fun limits memoize complete => ?_⟩
  obtain ⟨hforward, hconverse⟩ := hall limits memoize complete
  rcases hforward [' '] _ _ _ hspace hwritten with hlimit | ⟨token, htoken, htree, hdecode⟩
  · exact .inl hlimit
  · exact .inr ⟨token, htoken, htree, hdecode, hconverse _ token htoken⟩

end Arithmetic

end Packrat
