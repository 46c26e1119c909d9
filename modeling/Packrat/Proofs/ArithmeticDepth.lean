import Packrat.Proofs.ArithmeticTrees
import Packrat.Proofs.JsonDepth

/-!
# The depth of arithmetic expressions

How deep the rules of the arithmetic grammar are applied is linear in how many parentheses
and operators enclose an operand, and has nothing to do with the length of the expression.

- `Arithmetic.Expression.nesting`: how many parentheses and operators enclose a numeral.
- `Arithmetic.Rules.Composed.nests_simpleExpr`: what operands need, given what those with an
  operator or in parentheses do.
- `Arithmetic.Writes.nests`, `Arithmetic.Rules.Composed.nests_document`: what is needed for
  the texts of the language.
- `Catalog.run_depth_documents`: the depth in which the texts of both languages are parsed.
- `Catalog.run_depth`: the same of whatever is parsed under some limits.
-/

namespace Packrat

namespace Arithmetic

open Builder Lexical
open Text (Avoids)

/-! ## Nested expressions -/

mutual

/-- How many parentheses and operators before an operand enclose any of its numerals. -/
def Operand.nesting : Operand → Nat
  | .number _ => 0
  | .unary _ operand => operand.nesting + 1
  | .group expression => expression.nesting + 1

/-- The same of the operands of an expression. -/
def Expression.nesting : Expression → Nat
  | .mk first further => max first.nesting (furtherNesting further)

/-- The same of the operands behind the first one. -/
def furtherNesting : List (String × Operand) → Nat
  | [] => 0
  | (_, operand) :: rest => max operand.nesting (furtherNesting rest)

end

/-! ## What the rules need -/

variable {scope : Scope} {r : Rules} {rule : Rule} {table : List String} {op : String}
  {depth : Nat} {read rest ahead blank : List Char} {c : Char}

theorem IsOperator.bounded (h : IsOperator table rule) : rule.Bounded 3 := by
  obtain ⟨id, id', literals, hliterals, rfl⟩ := h
  refine Rule.bounded_node.2 (Rule.bounded_choice.2 fun rule hmem => ?_)
  obtain ⟨op, -, id'', rfl⟩ := mem_of_isLiteral hliterals hmem
  exact Rule.bounded_literal

theorem bounded_operatorLexeme {lexeme : Rule} (h : (Lexical.lexeme rule).Makes lexeme)
    (hrule : IsOperator table rule) : lexeme.Bounded 4 :=
  bounded_lexeme h hrule.bounded

namespace Rules.Composed

theorem bounded_number (h : r.Composed) : r.number.Bounded 9 := by
  obtain ⟨id, id', float, integer, hfloat, hinteger, heq⟩ := h.number
  simp [heq, bounded_float hfloat, (bounded_integer hinteger).mono (show 3 ≤ 7 by decide)]

/-- What no operator begins is no operand with one. -/
theorem nests_unaryExpr_failed (h : r.Composed) (hahead : Avoids (begins unaryOperators) ahead) :
    Nests scope 6 r.unaryExpr ahead := by
  obtain ⟨id, id', op, operand, hop, heq⟩ := h.unaryExpr
  have hrefuses : Refuses scope op ahead :=
    refuses_lexeme hop (h.unaryOp.refuses (by decide) hahead)
  rw [heq]
  exact .node (.seq_failed hrefuses (bounded_operatorLexeme hop h.unaryOp).nests)

/-- An operand with an operator needs what is behind the operator needs, and three
applications around it. -/
theorem nests_unaryExpr (h : r.Composed) (hknown : scope.Knows r.draft.rules)
    (hop : op ∈ unaryOperators) (hblank : Blank blank) (hbegins : Avoids isBlank rest)
    (hoperand : Nests scope (depth + 3) r.simpleExpr rest) :
    Nests scope (depth + 6) r.unaryExpr (op.toList ++ blank ++ rest) := by
  obtain ⟨id, id', lexeme, operand, hlexeme, htarget, heq⟩ := h.unaryExpr_target hknown
  have hreads := h.reads_unaryLexeme hknown hlexeme hop hblank hbegins
  have hbounded : lexeme.Bounded (depth + 4) :=
    (bounded_operatorLexeme hlexeme h.unaryOp).mono (Nat.le_add_left ..)
  rw [heq]
  exact .node (.seq_cons hreads hbounded.nests (.seq_singleton (hoperand.recursive htarget)))

/-- An operand that is not in parentheses needs no more than a numeral, or than its operator
does. -/
theorem nests_simpleExpr (h : r.Composed) (hknown : scope.Knows r.draft.rules)
    (hdepth : 10 ≤ depth) (hunary : Nests scope depth r.unaryExpr ahead)
    (hgroup : ahead.head? = some '(' → ∀ id opening expression closing,
      (symbol "(").Makes opening → scope.target expression "Expression" = some r.expression →
      (symbol ")").Makes closing →
      Nests scope depth (.seq id [opening, .recursive expression "Expression", closing]) ahead) :
    Nests scope (depth + 1) r.simpleExpr ahead := by
  obtain ⟨id, id', number, opening, expression, closing, hnumber, hopening, hclosing, htarget,
    heq⟩ := h.simpleExpr_target hknown
  have hnumeral : number.Bounded depth := (bounded_lexeme hnumber h.bounded_number).mono hdepth
  have hparentheses : Nests scope depth
      (.seq id' [opening, .recursive expression "Expression", closing]) ahead := by
    by_cases hhead : ahead.head? = some '('
    · exact hgroup hhead id' opening expression closing hopening htarget hclosing
    · have havoids : Avoids (· == '(') ahead :=
        fun c hc => beq_false_of_ne fun heq => hhead (heq ▸ hc)
      have hrefuses : Refuses scope opening ahead :=
        refuses_symbol hopening (Text.not_prefix_of_avoids havoids)
      exact (Nests.seq_failed hrefuses (bounded_symbol hopening).nests).mono (by omega)
  rw [heq]
  refine .choice ?_
  simp only [List.forall_mem_cons]
  exact ⟨hunary, hnumeral.nests, hparentheses, List.forall_mem_nil _⟩

end Rules.Composed

/-- What it means that phrases with operands `n` deep need a depth linear in `n`. -/
def Phrase.NestsBy (scope : Scope) (r : Rules) (n : Nat) : Phrase → List Char → Prop
  | .operand x _, text =>
    x.nesting ≤ n → ∀ rest, Follows rest → Nests scope (7 * n + 11) r.simpleExpr (text ++ rest)
  | .expression e _, text =>
    e.nesting ≤ n → ∀ rest, Ends rest → Nests scope (7 * n + 15) r.expression (text ++ rest)
  | .further xs _, text =>
    furtherNesting xs ≤ n → ∀ id id' lexeme rest, (Lexical.lexeme r.binaryOp).Makes lexeme →
      Ends rest →
      Nests scope (7 * n + 13) (.zeroOrMore id (.seq id' [lexeme, r.simpleExpr])) (text ++ rest)

/-- **The rules need a depth linear in the nesting of operands**, whatever the length of
the text. -/
theorem Writes.nests {phrase : Phrase} (h : Writes phrase read) (hmade : r.Composed)
    (hknown : scope.Knows r.draft.rules) : ∀ n, phrase.NestsBy scope r n read := by
  -- by induction on how the text is written, for all that may follow its phrase
  induction h with
  | @number numeral blank hnumeral _ =>
    intro n _ rest _
    obtain ⟨digits, fraction, power, hdigits, -, -, rfl⟩ := hnumeral
    obtain ⟨c, digits, rfl⟩ := List.exists_cons_of_ne_nil hdigits.1
    have hc : c.isDigit = true := hdigits.2 c List.mem_cons_self
    have hunary : Avoids (begins unaryOperators) (c :: digits ++ (fraction ++ power) ++ blank ++ rest) :=
      Text.avoids_cons.2 (not_begins_of_isDigit hc).1
    refine hmade.nests_simpleExpr hknown (Nat.le_add_left ..)
      ((hmade.nests_unaryExpr_failed hunary).mono (by omega)) fun hhead => ?_
    cases hhead
    cases hc
  | @unary op operand tree blank text hop hblank hoperand ih =>
    intro n hn rest hrest
    obtain ⟨n, rfl⟩ := Nat.exists_eq_add_of_le' (Nat.le_trans (Nat.le_add_left 1 _) hn)
    have hinside : Nests scope (7 * n + 8 + 3) r.simpleExpr (text ++ rest) :=
      ih n (Nat.le_of_succ_le_succ hn) rest hrest
    have hunary := hmade.nests_unaryExpr hknown hop hblank hoperand.avoids_operand.1 hinside
    rw [← List.append_assoc] at hunary
    refine hmade.nests_simpleExpr hknown (Nat.le_add_left ..) (hunary.mono (by omega)) fun hhead => ?_
    simp only [unaryOperators, List.mem_cons, List.not_mem_nil, or_false] at hop
    rcases hop with rfl | rfl | rfl | rfl <;> cases hhead
  | @group e tree blank blank' text hblank hblank' hinside ih =>
    intro n hn rest hrest
    obtain ⟨n, rfl⟩ := Nat.exists_eq_add_of_le' (Nat.le_trans (Nat.le_add_left 1 _) hn)
    have hends : Ends (')' :: (blank' ++ rest)) := fun c hc => by cases hc; rfl
    have hnests : Nests scope (7 * n + 15) r.expression (text ++ ')' :: (blank' ++ rest)) :=
      ih n (Nat.le_of_succ_le_succ hn) _ hends
    have hreads : Reads scope r.expression text (')' :: (blank' ++ rest)) [tree] :=
      hinside.reads hmade hknown _ hends
    have hunary : Avoids (begins unaryOperators) ('(' :: (blank ++ (text ++ ')' :: blank')) ++ rest) :=
      Text.avoids_cons.2 (by decide)
    refine hmade.nests_simpleExpr hknown (Nat.le_add_left ..)
      ((hmade.nests_unaryExpr_failed hunary).mono (by omega))
      fun _ id opening expression closing hopening htarget hclosing => ?_
    have hstart : Reads scope opening ('(' :: blank) (text ++ ')' :: (blank' ++ rest)) [] :=
      reads_symbol hopening hblank hinside.avoids_isBlank
    have hsymbol {text : String} {made : Rule} (hmakes : (symbol text).Makes made) :
        made.Bounded (7 * n + 16) := (bounded_symbol hmakes).mono (by omega)
    have hall : Nests scope (7 * n + 17)
        (.seq id [opening, .recursive expression "Expression", closing]) _ :=
      .seq_cons hstart (hsymbol hopening).nests
        (.seq_cons (.recursive htarget hreads) (hnests.recursive htarget)
          (.seq_singleton (hsymbol hclosing).nests))
    have hle : 7 * n + 17 ≤ 7 * (n + 1) + 10 := by omega
    simpa using hall.mono hle
  | @expression first further tree trees text more hfirst hmore ih ih' =>
    intro n hn rest hrest
    obtain ⟨id, id', id'', id''', lexeme, hlexeme, heq⟩ := hmade.expression
    have hfollows := hmore.follows hrest
    have hreads : Reads scope r.simpleExpr text (more ++ rest) [tree] :=
      hfirst.reads hmade hknown _ hfollows
    have hnests : Nests scope (7 * n + 11) r.simpleExpr (text ++ (more ++ rest)) :=
      ih n (Nat.le_trans (Nat.le_max_left ..) hn) _ hfollows
    have hnestsMore := ih' n (Nat.le_trans (Nat.le_max_right ..) hn) id'' id''' lexeme rest hlexeme
      hrest
    rw [List.append_assoc, heq]
    exact .node (.seq_cons hreads (hnests.mono (by omega)) (.seq_singleton hnestsMore))
  | ended =>
    intro n _ id id' lexeme rest hlexeme hrest
    have hrefuses : Refuses scope lexeme rest :=
      refuses_lexeme hlexeme (hmade.binaryOp.refuses (by decide +kernel) hrest.avoids_begins)
    have hbounded : lexeme.Bounded (7 * n + 11) :=
      (bounded_operatorLexeme hlexeme hmade.binaryOp).mono (by omega)
    exact .zeroOrMore_ended hrefuses.seq_failed (.seq_failed hrefuses hbounded.nests)
  | @next op operand further tree trees blank text more hop hblank hoperand hmore ih ih' =>
    intro n hn id id' lexeme rest hlexeme hrest
    have hfollows := hmore.follows hrest
    have hmark : Reads scope lexeme (op.toList ++ blank) (text ++ (more ++ rest)) _ :=
      hmade.reads_binaryLexeme hknown hlexeme hop hblank hoperand.avoids_operand
    have hreads : Reads scope r.simpleExpr text (more ++ rest) [tree] :=
      hoperand.reads hmade hknown _ hfollows
    have hnests : Nests scope (7 * n + 11) r.simpleExpr (text ++ (more ++ rest)) :=
      ih n (Nat.le_trans (Nat.le_max_left ..) hn) _ hfollows
    have hbounded : lexeme.Bounded (7 * n + 11) :=
      (bounded_operatorLexeme hlexeme hmade.binaryOp).mono (by omega)
    have hstep : Reads scope (.seq id' [lexeme, r.simpleExpr]) (op.toList ++ blank ++ text)
        (more ++ rest) _ := hmark.seq_cons hreads.seq_singleton
    have hnestsStep : Nests scope (7 * n + 12) (.seq id' [lexeme, r.simpleExpr])
        (op.toList ++ blank ++ (text ++ (more ++ rest))) :=
      .seq_cons hmark hbounded.nests (.seq_singleton hnests)
    have hnestsMore := ih' n (Nat.le_trans (Nat.le_max_right ..) hn) id id' lexeme rest hlexeme hrest
    rw [← List.append_assoc] at hnestsStep
    have hall : Nests scope (7 * n + 13) (.zeroOrMore id _) _ :=
      .zeroOrMore_next hstep hnestsStep hnestsMore
    simpa using hall

/-- A document needs one application more than its expression. -/
theorem Rules.Composed.nests_document {before body : List Char} {e : Expression} {tree : Tree}
    {n : Nat} (h : r.Composed) (hknown : scope.Knows r.draft.rules) (hbefore : Blank before)
    (hbody : Writes (.expression e tree) body) (hn : e.nesting ≤ n) :
    Nests scope (7 * n + 16) r.arithmetic (before ++ body) := by
  obtain ⟨id, leading, stop, hleading, heq⟩ := h.arithmetic
  have hends : Ends [] := fun _ hc => nomatch hc
  have hbegins : Avoids isBlank (body ++ []) := hbody.avoids_isBlank
  have hfirst : Reads scope leading before (body ++ []) [] :=
    reads_blanks hleading hbefore hbegins
  have hread : Reads scope r.expression body [] [tree] := hbody.reads h hknown [] hends
  have hnests : Nests scope (7 * n + 15) r.expression (body ++ []) :=
    hbody.nests h hknown n hn [] hends
  have hblanks : leading.Bounded (7 * n + 15) := (bounded_blanks hleading).mono (by omega)
  rw [heq, ← List.append_nil body]
  exact .seq_cons hfirst hblanks.nests
    (.seq_cons hread hnests (.seq_singleton Rule.bounded_endOfInput.nests))

/-! ## Runs -/

section

variable {before body : List Char} {e : Expression} {tree : Tree} {limits : Limits}
  {memoize complete : Bool} {input : String} {token : Token} {n : Nat}
  (hmakes : rules.Makes r) (hknows : scope.Knows r.draft.rules)
  (hresolves : scope.Resolves r.arithmetic) (hidentifies : scope.Identifies r.arithmetic)

include hmakes hknows hresolves hidentifies

/-- For an expression no run needs more than a depth linear in the nesting of its operands, and
where they are not nested too deep, the standard limits are not met. -/
theorem within_of_writes (hbefore : Blank before) (hbody : Writes (.expression e tree) body)
    (hinput : input.toList = before ++ body) (hn : e.nesting ≤ n) :
    Parser.Within r.arithmetic scope input (7 * n + 16) ∧
      (n ≤ 144 → ∀ memoize complete, ∃ found,
        (Parser.run ⟨r.arithmetic, .standard, memoize⟩ scope input complete).result =
          .ok (.ok found) ∧ found.tree = Tree.root "Arithmetic" input [tree]) := by
  have hnests := (composed hmakes).nests_document hknows hbefore hbody hn
  have hwithin := Parser.within_of_nests hresolves hidentifies (hinput ▸ hnests)
  refine ⟨hwithin, fun hdepth memoize complete => ?_⟩
  refine (run_document hmakes hknows hresolves hidentifies .standard memoize complete hbefore
    hbody hinput).resolve_left fun ⟨error, hlimit⟩ => ?_
  exact hwithin.result_ne_limit (by omega) memoize complete error hlimit

/-- The same of every input that some run accepts, and of the expression read off its tree. -/
theorem within_of_run
    (hrun : (Parser.run ⟨r.arithmetic, limits, memoize⟩ scope input complete).result =
      .ok (.ok token)) :
    ∃ e, decode token.tree = some e ∧ ∀ n, e.nesting ≤ n →
      Parser.Within r.arithmetic scope input (7 * n + 16) ∧
        (n ≤ 144 → ∀ memoize complete, ∃ found,
          (Parser.run ⟨r.arithmetic, .standard, memoize⟩ scope input complete).result =
            .ok (.ok found) ∧ found.tree = token.tree) := by
  obtain ⟨before, e, tree, body, hbefore, hbody, hinput, htree⟩ :=
    exists_document hmakes hknows hresolves hidentifies hrun
  have hdecode : decode (Tree.root "Arithmetic" input [tree]) = some e := by
    rw [← String.ofList_toList (s := input), hinput]
    exact hbody.decode_root
  rw [htree]
  exact ⟨e, hdecode, fun n hn =>
    within_of_writes hmakes hknows hresolves hidentifies hbefore hbody hinput hn⟩

end

end Arithmetic

namespace Catalog

/-- **All texts of the two languages are parsed in a depth linear in their nesting**, whatever
their length. Nothing is asked of a run here: a document is what its language says, and however
it is parsed, no more than `11 * k + 11` applications are open at once where objects and arrays
are nested at most `k` deep, and for an expression with numerals in at most `n` parentheses and
operators no more than `7 * n + 16`. With the standard limits all of them up to `k = 92` and
`n = 144` are parsed, to the trees that their languages give them. -/
theorem run_depth_documents :
    (∃ g, standard.find? "json" = some g ∧
      ∀ (before value after : List Char) (tree : Tree) (k : Nat),
        Lexical.Blank before → Lexical.Blank after →
        JsonValue.Spells (.one .value tree) value → tree.nesting ["Object", "Array"] ≤ k →
          let input := String.ofList (before ++ (value ++ after))
          Parser.Within g.root standard.scope input (11 * k + 11) ∧
            (k ≤ 92 → ∀ memoize complete, ∃ found,
              (Parser.run ⟨g.root, .standard, memoize⟩ standard.scope input complete).result =
                .ok (.ok found) ∧ found.tree = Tree.root "Json" input [tree])) ∧
      ∃ g, standard.find? "arithmetic" = some g ∧
        ∀ (before body : List Char) (e : Arithmetic.Expression) (tree : Tree) (n : Nat),
          Lexical.Blank before → Arithmetic.Writes (.expression e tree) body → e.nesting ≤ n →
            let input := String.ofList (before ++ body)
            Parser.Within g.root standard.scope input (7 * n + 16) ∧
              (n ≤ 144 → ∀ memoize complete, ∃ found,
                (Parser.run ⟨g.root, .standard, memoize⟩ standard.scope input complete).result =
                  .ok (.ok found) ∧ found.tree = Tree.root "Arithmetic" input [tree]) := by
  constructor
  · obtain ⟨r, g, hmakes, hfind, hroot, hknows, hresolves, hidentifies⟩ := exists_json
    refine ⟨g, hfind, ?_⟩
    intro before value after tree k hbefore hafter hvalue hk
    rw [hroot]
    exact JsonValue.within_of_spells hmakes hknows hresolves hidentifies hbefore hafter hvalue
      String.toList_ofList hk
  · obtain ⟨r, g, hmakes, hfind, hroot, -, hknows, hresolves, hidentifies⟩ := exists_arithmetic
    refine ⟨g, hfind, ?_⟩
    intro before body e tree n hbefore hbody hn
    rw [hroot]
    exact Arithmetic.within_of_writes hmakes hknows hresolves hidentifies hbefore hbody
      String.toList_ofList hn

/-- **The depth of runs is linear in nesting**, whatever the length of the input. For a
document that the grammar of JSON values accepts under some limits, with objects and arrays
nested at most `k` deep, no run has more than `11 * k + 11` applications open at once; for
such an expression, with numerals in at most `n` parentheses and operators, no more than
`7 * n + 16`. No recursion limit that leaves room for these is met, and with the standard
limits documents nested at most 92 deep are parsed, and expressions with `n` at most 144. -/
theorem run_depth :
    (∃ g, standard.find? "json" = some g ∧
      ∀ (limits : Limits) (memoize complete : Bool) (input : String) (token : Token),
        (Parser.run ⟨g.root, limits, memoize⟩ standard.scope input complete).result =
          .ok (.ok token) →
        ∀ k, token.tree.nesting ["Object", "Array"] ≤ k →
          Parser.Within g.root standard.scope input (11 * k + 11) ∧
            (k ≤ 92 → ∀ memoize complete, ∃ found,
              (Parser.run ⟨g.root, .standard, memoize⟩ standard.scope input complete).result =
                .ok (.ok found) ∧ found.tree = token.tree)) ∧
      ∃ g, standard.find? "arithmetic" = some g ∧
        ∀ (limits : Limits) (memoize complete : Bool) (input : String) (token : Token),
          (Parser.run ⟨g.root, limits, memoize⟩ standard.scope input complete).result =
            .ok (.ok token) →
          ∃ e, Arithmetic.decode token.tree = some e ∧ ∀ n, e.nesting ≤ n →
            Parser.Within g.root standard.scope input (7 * n + 16) ∧
              (n ≤ 144 → ∀ memoize complete, ∃ found,
                (Parser.run ⟨g.root, .standard, memoize⟩ standard.scope input complete).result =
                  .ok (.ok found) ∧ found.tree = token.tree) := by
  constructor
  · obtain ⟨r, g, hmakes, hfind, hroot, hknows, hresolves, hidentifies⟩ := exists_json
    refine ⟨g, hfind, fun limits memoize complete input token hrun k hk => ?_⟩
    rw [hroot] at hrun ⊢
    exact JsonValue.within_of_run hmakes hknows hresolves hidentifies hrun hk
  · obtain ⟨r, g, hmakes, hfind, hroot, -, hknows, hresolves, hidentifies⟩ := exists_arithmetic
    refine ⟨g, hfind, fun limits memoize complete input token hrun => ?_⟩
    rw [hroot] at hrun ⊢
    exact Arithmetic.within_of_run hmakes hknows hresolves hidentifies hrun

/-- An array in an array, and a numeral in one operator and one pair of parentheses. -/
theorem run_depth_brackets :
    (∃ g, standard.find? "json" = some g ∧ Parser.Within g.root standard.scope "[[]]" 33) ∧
      ∃ g, standard.find? "arithmetic" = some g ∧
        Parser.Within g.root standard.scope "-(1)" 30 := by
  obtain ⟨⟨g, hfind, hjson⟩, g', hfind', harithmetic⟩ := run_depth
  have hnone : Lexical.Blank [] := List.forall_mem_nil _
  constructor
  · refine ⟨g, hfind, ?_⟩
    obtain ⟨r, g₁, hmakes, hfind₁, hroot, hknows, hresolves, hidentifies⟩ := exists_json
    obtain rfl : g = g₁ := Option.some.inj (hfind.symm.trans hfind₁)
    have hinner := @JsonValue.Spells.empty .value [] hnone
    have hvalue := @JsonValue.Spells.filled .value [] _ _ hnone (.last hinner hnone)
    have hinput : "[[]]".toList = [] ++ (['[', '[', ']', ']'] ++ []) := rfl
    obtain ⟨-, hfound⟩ := JsonValue.within_of_spells (k := 2) hmakes hknows hresolves hidentifies
      hnone hnone hvalue hinput (by decide)
    obtain ⟨found, hrun, htree⟩ := hfound (by decide) false true
    rw [← hroot] at hrun
    have hnesting : found.tree.nesting ["Object", "Array"] ≤ 2 := by
      rw [htree]
      decide
    exact (hjson _ _ _ _ _ hrun 2 hnesting).1
  · refine ⟨g', hfind', ?_⟩
    obtain ⟨r, g₁, hmakes, hfind₁, hroot, -, hknows, hresolves, hidentifies⟩ := exists_arithmetic
    obtain rfl : g' = g₁ := Option.some.inj (hfind'.symm.trans hfind₁)
    have hone : Arithmetic.Numeral ['1'] :=
      ⟨['1'], [], [], ⟨List.cons_ne_nil _ _, List.forall_mem_singleton.mpr rfl⟩, .inl rfl,
        .inl rfl, rfl⟩
    have hminus : "-" ∈ Arithmetic.unaryOperators := List.mem_cons_self
    have hgroup := Arithmetic.Writes.group hnone hnone
      (.expression (.number hone hnone) .ended)
    have hbody := Arithmetic.Writes.expression (.unary hminus hnone hgroup) .ended
    have hinput : "-(1)".toList = [] ++ ['-', '(', '1', ')'] := rfl
    obtain ⟨-, hfound⟩ := Arithmetic.within_of_writes (n := 2) hmakes hknows hresolves hidentifies
      hnone hbody hinput (by decide)
    obtain ⟨found, hrun, htree⟩ := hfound (by decide) false true
    rw [← hroot] at hrun
    obtain ⟨e, he, hwithin⟩ := harithmetic _ _ _ _ _ hrun
    have hnesting : e.nesting ≤ 2 := by
      have hdecode := @Arithmetic.Writes.decode_root _ _ [] _ hbody
      rw [htree] at he
      cases hdecode.symm.trans he
      decide
    exact (hwithin 2 hnesting).1

end Catalog

end Packrat
