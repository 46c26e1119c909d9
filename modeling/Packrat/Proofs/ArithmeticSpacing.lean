import Packrat.Proofs.ArithmeticDepth
import Packrat.Proofs.JsonSpacing

/-!
# Blanks in arithmetic expressions

Blanks may be inserted in an expression anywhere but inside its numbers and operators.

- `Arithmetic.Writes.stretches`: with blanks inserted, the text of a phrase is one of the
  same phrase, which stands for the same expression.
- `Arithmetic.ignoresBlanks`: so blanks mean nothing to the rule of expressions.
- `Catalog.run_spaced`: neither grammar of the catalog minds blanks.
-/

namespace Packrat

namespace Arithmetic

open Lexical
open Text (Firm Stretches)

/-! ## Lexemes -/

/-- Whether `c` may stand between lexemes: a blank, or a parenthesis. -/
def isBetween (c : Char) : Bool := !isKept c

theorem isBetween_of_isBlank {c : Char} (h : isBlank c = true) : isBetween c = true := by
  simp [isBetween, isKept, h]

theorem Numeral.firm {numeral : List Char} (h : Numeral numeral) : Firm isBetween numeral := by
  have hne : numeral ≠ [] := by
    obtain ⟨digits, fraction, power, hdigits, -, -, rfl⟩ := h
    simp [hdigits.1]
  have hkept := List.filter_eq_self.1 (filter_numeral h)
  exact .of_forall hne fun c hc => by rw [isBetween, hkept c hc, Bool.not_true]

theorem firm_operator {op : String} (h : op ∈ unaryOperators ++ binaryOperators) :
    Firm isBetween op.toList := by
  have hall : ∀ op ∈ unaryOperators ++ binaryOperators, op.toList ≠ [] := by decide +kernel
  have hkept := List.filter_eq_self.1 (filter_operator h)
  exact .of_forall (hall op h) fun c hc => by rw [isBetween, hkept c hc, Bool.not_true]

/-! ## Wider phrases -/

namespace Phrase

/-- The lexemes of a phrase, in order. -/
def lexemes : Phrase → List (List Char)
  | operand _ tree => Tree.lexemes leafNames [tree]
  | expression _ tree => Tree.lexemes leafNames [tree]
  | further _ trees => Tree.lexemes leafNames trees

/-- The text is one of the same phrase, with trees of the same outline. -/
def Widens : Phrase → List Char → Prop
  | operand x tree, wide => ∃ tree', Writes (.operand x tree') wide ∧
      tree'.outline leafNames = tree.outline leafNames
  | expression e tree, wide => ∃ tree', Writes (.expression e tree') wide ∧
      tree'.outline leafNames = tree.outline leafNames
  | further xs trees, wide => ∃ trees', Writes (.further xs trees') wide ∧
      Tree.outlineAll leafNames trees' = Tree.outlineAll leafNames trees

end Phrase

variable {gaps : Nat → List Char} {phrase : Phrase} {text : List Char} {tree : Tree}

/-- **Phrases stretch**: with blanks inserted outside its lexemes, the text of a phrase is
one of the same phrase. -/
theorem Writes.stretches (hgaps : ∀ offset, Blank (gaps offset)) (h : Writes phrase text) :
    Stretches isBetween gaps phrase.lexemes text phrase.Widens := by
  have hbetween : ∀ c, isBlank c = true → isBetween c = true := fun _ => isBetween_of_isBlank
  have hfirm {lexeme blank : List Char} (hlexeme : Firm isBetween lexeme) (hblank : Blank blank) :=
    Stretches.firm hgaps hbetween hlexeme hblank
  have hopen : isBetween '(' = true := rfl
  have hclose : isBetween ')' = true := rfl
  -- by induction on how the text is written: numbers, operators and parentheses take the blanks
  -- behind them
  induction h with
  | @number numeral blank hnumeral hblank =>
    refine (hfirm hnumeral.firm hblank).imp ?_ rfl ?_
    · rw [Phrase.lexemes, Tree.lexemes_leaf rfl, String.toList_ofList]
      rfl
    · rintro wide ⟨blank', hblank', rfl⟩
      exact ⟨_, .number hnumeral hblank', rfl⟩
  | @unary op operand tree blank text hop hblank _ ih =>
    have hfirst := firm_operator (List.mem_append_left _ hop)
    refine ((hfirm hfirst hblank).append ih).imp ?_ rfl ?_
    · exact ((Tree.lexemes_mk rfl).trans (Tree.lexemes_leaf rfl)).symm
    · rintro wide ⟨_, text', ⟨blank', hblank', rfl⟩, ⟨tree', htext', houtline⟩, rfl⟩
      refine ⟨_, .unary hop hblank' htext', Tree.outline_eq rfl ?_⟩
      simp only [Tree.outlineAll, houtline]
  | @group e tree blank blank' text hblank hblank' _ ih =>
    refine ((Stretches.mark hgaps hbetween hopen hblank).append
      (ih.append (.mark hgaps hbetween hclose hblank'))).imp (List.append_nil _) rfl ?_
    rintro wide ⟨_, _, ⟨blank₁, hblank₁, rfl⟩, ⟨text', _, ⟨tree', htext', houtline⟩,
      ⟨blank₂, hblank₂, rfl⟩, rfl⟩, rfl⟩
    exact ⟨tree', by simpa using Writes.group hblank₁ hblank₂ htext', houtline⟩
  | expression _ _ ih ih' =>
    refine (ih.append ih').imp ?_ rfl ?_
    · exact (Tree.lexemes_cons.symm.trans (Tree.lexemes_mk rfl).symm)
    · rintro wide ⟨text', more', ⟨tree', htext', houtline⟩, ⟨trees', hmore', houtlines⟩, rfl⟩
      refine ⟨_, .expression htext' hmore', Tree.outline_eq rfl ?_⟩
      simp only [Tree.outlineAll, houtline, houtlines]
  | ended =>
    refine Stretches.nil.imp rfl rfl ?_
    rintro wide rfl
    exact ⟨[], .ended, rfl⟩
  | @next op operand further tree trees blank text more hop hblank _ _ ih ih' =>
    have hfirst := firm_operator (List.mem_append_right _ hop)
    refine ((hfirm hfirst hblank).append (ih.append ih')).imp ?_ rfl ?_
    · exact (congrArg _ Tree.lexemes_cons.symm).trans (Tree.lexemes_leaf rfl).symm
    · rintro wide ⟨_, _, ⟨blank', hblank', rfl⟩, ⟨text', more', ⟨tree', htext', houtline⟩, ⟨trees',
        hmore', houtlines⟩, rfl⟩, rfl⟩
      refine ⟨_, .next hop hblank' htext' hmore', ?_⟩
      simp only [Tree.outlineAll, houtline, houtlines]

/-! ## Expressions in parses -/

/-- The token of an expression is not one around it. -/
theorem Writes.name_ne {e : Expression} (h : Writes (.expression e tree) text) :
    tree.name ≠ "Arithmetic" := by
  cases h with
  | expression => exact (by decide : "Expression" ≠ "Arithmetic")

/-- **Blanks between lexemes mean nothing**: an expression whose lexemes are spared is
parsed, with blanks inserted, to a tree of the same outline. -/
theorem ignoresBlanks {r : Rules} (hmakes : rules.Makes r) {scope : Scope}
    (hknows : scope.Knows r.draft.rules) (hresolves : scope.Resolves r.arithmetic)
    (hidentifies : scope.Identifies r.arithmetic) :
    r.arithmetic.IgnoresBlanks scope leafNames "Arithmetic" := by
  intro limits limits' memoize memoize' complete complete' input token gaps hrun hgaps hspared
  obtain ⟨before, e, tree, body, hbefore, hbody, hinput, htree⟩ :=
    exists_document hmakes hknows hresolves hidentifies hrun
  have hsound : token.Sound input := Parser.sound_of_run _ hresolves hrun
  have hlexemes : [] ++ Phrase.lexemes (.expression e tree) =
      Tree.lexemes leafNames [token.tree] := by
    rw [List.nil_append, htree, Tree.lexemes_root rfl]
    rfl
  have hblanks := Stretches.blanks hgaps (fun _ => isBetween_of_isBlank) hbefore
  have hstretches := (hblanks.append (hbody.stretches hgaps)).imp hlexemes hinput.symm fun _ h => h
  obtain ⟨before', body', hbefore', ⟨tree', hbody', houtline⟩, hwide⟩ :=
    hspared.wider hsound hstretches
  have hinput' : (Text.insertAll gaps input).toList = gaps 0 ++ before' ++ body' := by
    rw [Text.insertAll, String.toList_ofList, hwide, List.append_assoc]
  rcases run_document hmakes hknows hresolves hidentifies limits' memoize' complete'
    ((hgaps 0).append hbefore') hbody' hinput' with hlimit | ⟨token', hrun', htree'⟩
  · exact .inl hlimit
  · refine .inr ⟨token', hrun', ?_⟩
    rw [htree', htree, Tree.unwrap_root hbody'.name_ne, Tree.unwrap_root hbody.name_ne, houtline]

end Arithmetic

namespace Catalog

open Text (utf8Length)

/-- **Blanks mean nothing in both grammars**, except inside strings, numbers and words of
JSON documents, and inside numbers and operators of arithmetic expressions. -/
theorem run_spaced :
    (∃ g, standard.find? "json" = some g ∧
      g.root.IgnoresBlanks standard.scope JsonValue.lexemeNames "Json") ∧
    ∃ g, standard.find? "arithmetic" = some g ∧
      g.root.IgnoresBlanks standard.scope Arithmetic.leafNames "Arithmetic" := by
  constructor
  · obtain ⟨r, g, hmakes, hfind, hroot, hknows, hresolves, hidentifies⟩ := exists_json
    exact ⟨g, hfind, hroot ▸ JsonValue.ignoresBlanks hmakes hknows hresolves hidentifies⟩
  · obtain ⟨r, g, hmakes, hfind, hroot, -, hknows, hresolves, hidentifies⟩ := exists_arithmetic
    exact ⟨g, hfind, hroot ▸ Arithmetic.ignoresBlanks hmakes hknows hresolves hidentifies⟩

/-- A space everywhere but between two offsets. -/
def spaces (lo hi : Nat) (offset : Nat) : List Char := if lo < offset ∧ offset < hi then [] else [' ']

theorem blank_spaces (lo hi offset : Nat) : Lexical.Blank (spaces lo hi offset) := by
  rw [spaces]
  split
  · exact List.forall_mem_nil _
  · exact List.forall_mem_singleton.2 rfl

/-- Nothing stands inside a lexeme that is between the two offsets, or that is one byte long. -/
theorem spares_spaces {lo hi : Nat} {site : Nat × List Char}
    (h : lo ≤ site.1 ∧ site.1 + utf8Length site.2 ≤ hi ∨ utf8Length site.2 = 1) :
    Text.Spares (spaces lo hi) site := fun offset hlt hgt => if_pos (by omega)

/-- A run finds an array, and spaces around its string are not inside it. -/
theorem exists_spared_array :
    ∃ g token, standard.find? "json" = some g ∧
      (Parser.run ⟨g.root, .standard, false⟩ standard.scope "[\"a b\"]" true).result =
        .ok (.ok token) ∧
      token.tree = .mk "Array" "[\"a b\"]" [.mk "String" "\"a b\"" []] ∧
      token.Spared JsonValue.lexemeNames (spaces 1 6) := by
  obtain ⟨r, g, hmakes, hfind, hroot, hknows, hresolves, hidentifies⟩ := exists_json
  have hnone : Lexical.Blank [] := List.forall_mem_nil _
  have hstring : JsonValue.StringText ['"', 'a', ' ', 'b', '"'] :=
    .inl ⟨['a', ' ', 'b'], .plain (by decide) (by decide) (.plain (by decide) (by decide)
      (.plain (by decide) (by decide) .nil)), rfl⟩
  have hvalue := @JsonValue.Spells.filled .value [] _ _ hnone (.last (.string hstring) hnone)
  have hinput : "[\"a b\"]".toList = [] ++ (['[', '"', 'a', ' ', 'b', '"', ']'] ++ []) := rfl
  obtain ⟨-, hfound⟩ := JsonValue.within_of_spells (k := 1) hmakes hknows hresolves hidentifies
    hnone hnone hvalue hinput (Nat.le_refl 1)
  obtain ⟨token, hrun, htree⟩ := hfound (by decide) false true
  have hsound : token.Sound "[\"a b\"]" := Parser.sound_of_run _ hresolves hrun
  rw [← hroot] at hrun
  refine ⟨g, token, hfind, hrun, htree, ?_⟩
  have hscattered : Text.Scattered JsonValue.isBetween 0 [(1, ['"', 'a', ' ', 'b', '"'])]
      ['[', '"', 'a', ' ', 'b', '"', ']'] :=
    .gap rfl (.lexeme hstring.firm (.gap rfl .nil))
  refine hsound.spared hscattered ?_ ?_ ?_
  · rw [htree]
    rfl
  · have htree' : token.tree = .mk "Array" "[\"a b\"]" [.mk "String" "\"a b\"" []] := htree
    simp [htree', Tree.parts, Tree.partsAll, Tree.name, Tree.children, JsonValue.lexemeNames]
  · exact List.forall_mem_singleton.2 (spares_spaces (.inl ⟨Nat.le_refl 1, Nat.le_refl 6⟩))

/-- A run finds a product, and spaces around its numbers are not inside them. -/
theorem exists_spared_product :
    ∃ g token, standard.find? "arithmetic" = some g ∧
      (Parser.run ⟨g.root, .standard, false⟩ standard.scope "12*3" true).result =
        .ok (.ok token) ∧
      token.tree = .mk "Expression" "12*3"
        [.mk "Number" "12" [], .mk "BinaryOp" "*" [], .mk "Number" "3" []] ∧
      token.Spared Arithmetic.leafNames (spaces 0 2) := by
  obtain ⟨r, g, hmakes, hfind, hroot, -, hknows, hresolves, hidentifies⟩ := exists_arithmetic
  have hnone : Lexical.Blank [] := List.forall_mem_nil _
  have hnumeral {digits : List Char} (h : Lexical.Digits digits) : Arithmetic.Numeral digits :=
    ⟨digits, [], [], h, .inl rfl, .inl rfl, by simp⟩
  have htwelve : Arithmetic.Numeral ['1', '2'] := hnumeral ⟨List.cons_ne_nil _ _, by simp⟩
  have hthree : Arithmetic.Numeral ['3'] := hnumeral ⟨List.cons_ne_nil _ _, by simp⟩
  have htimes : "*" ∈ Arithmetic.binaryOperators := by decide +kernel
  have hbody := Arithmetic.Writes.expression (.number htwelve hnone)
    (.next htimes hnone (.number hthree hnone) .ended)
  have hinput : "12*3".toList = [] ++ ['1', '2', '*', '3'] := rfl
  obtain ⟨-, hfound⟩ := Arithmetic.within_of_writes (n := 0) hmakes hknows hresolves hidentifies
    hnone hbody hinput (Nat.le_refl 0)
  obtain ⟨token, hrun, htree⟩ := hfound (by decide) false true
  have hsound : token.Sound "12*3" := Parser.sound_of_run _ hresolves hrun
  rw [← hroot] at hrun
  refine ⟨g, token, hfind, hrun, htree, ?_⟩
  have hscattered : Text.Scattered Arithmetic.isBetween 0 [(0, ['1', '2']), (2, ['*']), (3, ['3'])]
      ['1', '2', '*', '3'] :=
    .lexeme htwelve.firm (.lexeme (Arithmetic.firm_operator (List.mem_append_right _ htimes))
      (.lexeme hthree.firm .nil))
  refine hsound.spared hscattered ?_ ?_ ?_
  · rw [htree]
    rfl
  · have htree' : token.tree = .mk "Expression" "12*3"
        [.mk "Number" "12" [], .mk "BinaryOp" "*" [], .mk "Number" "3" []] := htree
    simp [htree', Tree.parts, Tree.partsAll, Tree.name, Tree.children, Arithmetic.leafNames]
  · refine List.forall_mem_cons.2 ⟨spares_spaces (.inl ⟨Nat.le_refl 0, Nat.le_refl 2⟩),
      List.forall_mem_cons.2 ⟨spares_spaces (.inr rfl), ?_⟩⟩
    exact List.forall_mem_singleton.2 (spares_spaces (.inr rfl))

/-- A string with a space inside is found in a wider array, and a number of two digits in a
wider product. -/
theorem run_spaced_samples :
    (∃ g token, standard.find? "json" = some g ∧
      (Parser.run ⟨g.root, .standard, false⟩ standard.scope "[\"a b\"]" true).result =
        .ok (.ok token) ∧ token.Spared JsonValue.lexemeNames (spaces 1 6) ∧
      ((∃ error, (Parser.run ⟨g.root, .standard, false⟩ standard.scope " [ \"a b\" ] " true).result =
        .ok (.error (.limit error))) ∨
      ∃ token', (Parser.run ⟨g.root, .standard, false⟩ standard.scope " [ \"a b\" ] " true).result =
        .ok (.ok token') ∧ (token'.tree.unwrap "Json").outline JsonValue.lexemeNames =
          .mk "Array" "" [.mk "String" "\"a b\"" []])) ∧
    ∃ g token, standard.find? "arithmetic" = some g ∧
      (Parser.run ⟨g.root, .standard, false⟩ standard.scope "12*3" true).result =
        .ok (.ok token) ∧ token.Spared Arithmetic.leafNames (spaces 0 2) ∧
      ((∃ error, (Parser.run ⟨g.root, .standard, false⟩ standard.scope " 12 * 3 " true).result =
        .ok (.error (.limit error))) ∨
      ∃ token', (Parser.run ⟨g.root, .standard, false⟩ standard.scope " 12 * 3 " true).result =
        .ok (.ok token') ∧ (token'.tree.unwrap "Arithmetic").outline Arithmetic.leafNames =
          .mk "Expression" "" [.mk "Number" "12" [], .mk "BinaryOp" "*" [], .mk "Number" "3" []]) := by
  obtain ⟨⟨g, hfind, hspaced⟩, g', hfind', hspaced'⟩ := run_spaced
  obtain ⟨g₁, token, hfind₁, hrun, htree, hspared⟩ := exists_spared_array
  obtain ⟨g₂, token', hfind₂, hrun', htree', hspared'⟩ := exists_spared_product
  obtain rfl : g = g₁ := Option.some.inj (hfind.symm.trans hfind₁)
  obtain rfl : g' = g₂ := Option.some.inj (hfind'.symm.trans hfind₂)
  refine ⟨⟨g, token, hfind, hrun, hspared, ?_⟩, g', token', hfind', hrun', hspared', ?_⟩
  · have hwide := hspaced _ .standard _ false _ true _ _ _ hrun (blank_spaces 1 6) hspared
    have hinput : Text.insertAll (spaces 1 6) "[\"a b\"]" = " [ \"a b\" ] " := rfl
    rw [hinput, htree] at hwide
    exact hwide
  · have hwide := hspaced' _ .standard _ false _ true _ _ _ hrun' (blank_spaces 0 2) hspared'
    have hinput : Text.insertAll (spaces 0 2) "12*3" = " 12 * 3 " := rfl
    rw [hinput, htree'] at hwide
    exact hwide

end Catalog

end Packrat
