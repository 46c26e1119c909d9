import Packrat.Proofs.ArithmeticReading
import Packrat.Proofs.JsonWork

/-!
# The fuel that arithmetic expressions take

Every operand is paid for by the operator, the digits or the parenthesis that it begins with.
Where an operator has no operand behind it, an expression ends in front of the operator, after
what lies behind it has been read for nothing. There neither a closing parenthesis nor the end
of the input stands, so all around the expression fails as well, and nothing is read again.

- `Arithmetic.IsOperator.rejects`, `linear_operator`: operators.
- `Arithmetic.Rules.Composed.linear_expression`: an expression, given what operands spend.
- `Arithmetic.Rules.Composed.linear_operand`, `linear_arithmetic`: operands and whole inputs.
- `Catalog.run_work`: the fuel that runs with both grammars take.
-/

namespace Packrat

namespace Arithmetic

open Builder Lexical
open Text (Avoids)

variable {scope : Scope} {r : Rules} {rule made : Rule} {table : List String}
  {ahead rest : List Char} {stops : List Char → Prop} {n : Nat} {c : Char}

/-! ## Operators -/

namespace IsOperator

theorem light (h : IsOperator table rule) : Light scope (table.length + 2) rule := by
  obtain ⟨id, id', literals, hliterals, rfl⟩ := h
  have hliteral : ∀ rule ∈ literals, Light scope 1 rule := fun rule hmem => by
    obtain ⟨op, -, id'', rfl⟩ := mem_of_isLiteral hliterals hmem
    exact .literal
  have hchoice : Light scope (1 * literals.length + 1) (.choice id' literals) := .choice hliteral
  rw [Nat.one_mul, ← hliterals.length_eq] at hchoice
  exact hchoice.node

theorem rejects (h : IsOperator table rule) (hsome : ∀ op ∈ table, op.toList ≠ [])
    (hrest : Avoids (begins table) ahead) : Rejects scope (table.length + 2) rule ahead := by
  obtain ⟨id, id', literals, hliterals, rfl⟩ := h
  have hliteral : ∀ rule ∈ literals, Rejects scope 1 rule ahead := fun rule hmem => by
    obtain ⟨op, hop, id'', rfl⟩ := mem_of_isLiteral hliterals hmem
    exact .literal (not_prefix_of_avoids_begins hop (hsome op hop) hrest)
  have hchoice : Rejects scope (1 * literals.length + 1) (.choice id' literals) ahead :=
    .choice hliteral
  rw [Nat.one_mul, ← hliterals.length_eq] at hchoice
  exact hchoice.node

end IsOperator

/-- Behind an operator less lies ahead. -/
theorem length_lt_of_operator (h : (lexeme rule).Makes made) (hrule : IsOperator table rule)
    (hsome : ∀ op ∈ table, op.toList ≠ [])
    (hspends : Spends scope made ahead (.matched rest) n) : rest.length + 1 ≤ ahead.length := by
  obtain ⟨read, rfl, hread⟩ := hspends.generates rfl
  obtain ⟨op, hop, blank, -, rfl⟩ := generates_operatorLexeme h hrule hread
  have := List.length_pos_of_ne_nil (hsome op hop)
  simp only [List.length_append]
  omega

/-- An operator is paid for by any of its characters. -/
theorem linear_operator (h : (lexeme rule).Makes made) (hrule : IsOperator table rule)
    (hsome : ∀ op ∈ table, op.toList ≠ []) :
    Linear scope 64 (table.length + 5) (table.length - 58) stops made ahead := by
  have hlight : Linear scope 1 (table.length + 5) (table.length + 5) stops made ahead := by
    have hop : Linear scope 1 (table.length + 2) (table.length + 2) Anywhere rule ahead :=
      .of_light hrule.light
    exact (linear_lexeme h (Nat.le_refl 1) hop).mono (by omega) (by omega)
  exact (hlight.earn 63 1 (length_lt_of_operator h hrule hsome)).mono (by omega) (by omega)

theorem unaryOperators_ne_nil : ∀ op ∈ unaryOperators, op.toList ≠ [] := by decide

theorem binaryOperators_ne_nil : ∀ op ∈ binaryOperators, op.toList ≠ [] := by decide +kernel

/-! ## Operands -/

theorem not_begins_of_begins_unary (h : begins unaryOperators c = true) :
    c.isDigit = false ∧ (c == '(') = false := by
  simp only [begins_unary, List.contains_iff_mem, List.mem_cons, List.not_mem_nil, or_false] at h
  rcases h with rfl | rfl | rfl | rfl <;> exact ⟨rfl, rfl⟩

/-- Where an expression may end too early, the parenthesis around it does not close. -/
theorem avoids_of_not_ends (h : ¬Ends rest) : Avoids (· == ')') rest := by
  refine fun c hc => beq_false_of_ne fun heq => h fun c' hc' => ?_
  rw [hc] at hc'
  cases hc'
  exact heq

namespace Rules.Composed

theorem rejects_unaryExpr (h : r.Composed) (hrest : Avoids (begins unaryOperators) ahead) :
    Rejects scope 9 r.unaryExpr ahead := by
  obtain ⟨id, id', op, operand, hop, heq⟩ := h.unaryExpr
  rw [heq]
  exact (rejects_lexeme hop (h.unaryOp.rejects unaryOperators_ne_nil hrest)).seq_cons.node

theorem rejects_number (h : r.Composed) {number : Rule} (hnumber : (lexeme r.number).Makes number)
    (hrest : Avoids Char.isDigit ahead) : Rejects scope 9 number ahead := by
  obtain ⟨id, id', float, integer, hfloat, hinteger, heq⟩ := h.number
  rw [heq] at hnumber
  have hboth : ∀ rule ∈ [float, integer], Rejects scope 3 rule ahead :=
    List.forall_mem_cons.2 ⟨rejects_float hfloat hrest,
      List.forall_mem_singleton.2 (rejects_integer hinteger hrest)⟩
  have hchoice : Rejects scope 7 (.choice id' [float, integer]) ahead := .choice hboth
  exact rejects_lexeme hnumber hchoice.node

/-- Digits are read once as a float and once as an integer, and pay for that. -/
theorem linear_number (h : r.Composed) {number : Rule} (hnumber : (lexeme r.number).Makes number) :
    Linear scope 64 31 (-28) stops number ahead := by
  obtain ⟨id, id', float, integer, hfloat, hinteger, heq⟩ := h.number
  have hnone : Marked scope 0 1 (.choice id' []) ahead (ahead.dropWhile Char.isDigit) :=
    .of_rejects .choice_nil (List.dropWhile_suffix _).length_le
  have hchoice : Marked scope 5 27 (.choice id' [float, integer]) ahead
      (ahead.dropWhile Char.isDigit) :=
    (marked_float hfloat).choice_cons (by decide)
      ((marked_integer hinteger).choice_cons (by decide) hnone)
  have hnumeral : Linear scope 5 28 28 Anywhere r.number ahead := heq ▸ hchoice.linear.node
  have hlexeme : Linear scope 5 31 31 stops number ahead :=
    linear_lexeme hnumber (by decide) hnumeral
  refine hlexeme.earn 59 1 fun hspends => ?_
  obtain ⟨read, rfl, hread⟩ := hspends.generates rfl
  obtain ⟨numeral, blank, rfl, -, hnumeral⟩ := generates_lexeme hnumber hread
  obtain ⟨digits, fraction, power, hdigits, -, -, rfl⟩ := h.numeral_of_generates hnumeral
  have := List.length_pos_of_ne_nil hdigits.1
  simp only [List.length_append]
  omega

/-! ## Expressions -/

/-- An expression spends what it is worth if it ends where no operator is. -/
theorem linear_expression (h : r.Composed)
    (hoperand : ∀ {mid}, mid.length ≤ ahead.length →
      Linear scope 64 44 0 Anywhere r.simpleExpr mid) :
    Linear scope 64 46 26 Ends r.expression ahead := by
  obtain ⟨id, id', id'', id''', op, hop, heq⟩ := h.expression
  have hstep {mid : List Char} (hle : mid.length ≤ ahead.length) :
      Linear scope 64 25 (-38) Anywhere (.seq id''' [op, r.simpleExpr]) mid := by
    have hmark : Linear scope 64 24 (-39) Anywhere op mid :=
      linear_operator hop h.binaryOp binaryOperators_ne_nil
    have hlast {stop : List Char} (hlen : stop.length ≤ mid.length) :
        Linear scope 64 45 1 Anywhere (.seq id''' [r.simpleExpr]) stop :=
      (hoperand (Nat.le_trans hlen hle)).seq_singleton
    exact hmark.seq_cons fun hspends => hlast hspends.length_le
  have hended {mid : List Char} (hmid : Ends mid) :
      Rejects scope 23 (.seq id''' [op, r.simpleExpr]) mid :=
    (rejects_lexeme hop
      (h.binaryOp.rejects binaryOperators_ne_nil hmid.avoids_begins)).seq_cons
  have hfurther {mid : List Char} (hle : mid.length ≤ ahead.length) :
      Linear scope 64 27 25 Ends
        (.seq id' [.zeroOrMore id'' (.seq id''' [op, r.simpleExpr])]) mid :=
    (Linear.zeroOrMore_paid (fun hle' => hstep (Nat.le_trans hle' hle)) (by decide)
      hended).seq_singleton
  rw [heq]
  exact ((hoperand (Nat.le_refl _)).seq_cons fun hspends => hfurther hspends.length_le).node

/-- Parentheses pay for what is tried between them. -/
theorem linear_group (h : r.Composed) {id expression : RuleId} {opening closing : Rule}
    (hopening : (symbol "(").Makes opening) (hclosing : (symbol ")").Makes closing)
    (htarget : scope.target expression "Expression" = some r.expression)
    (hoperand : ∀ {mid}, mid.length < ahead.length →
      Linear scope 64 44 0 Anywhere r.simpleExpr mid) :
    Linear scope 64 5 (-90) Anywhere
      (.seq id [opening, .recursive expression "Expression", closing]) ahead := by
  have hmark : Linear scope 64 4 (-59) Anywhere opening ahead :=
    linear_symbol hopening (by decide) (by decide)
  have hlast (mid : List Char) : Linear scope 64 5 (-58) Anywhere (.seq id [closing]) mid :=
    (linear_symbol hclosing (by decide) (by decide)).seq_singleton
  have hwrong {mid : List Char} (hmid : ¬Ends mid) : Rejects scope 3 (.seq id [closing]) mid :=
    (rejects_symbol hclosing (Text.not_prefix_of_avoids (avoids_of_not_ends hmid))).seq_cons
  have hinside {mid : List Char} (hlt : mid.length < ahead.length) :
      Linear scope 64 51 (-31) Anywhere
        (.seq id [.recursive expression "Expression", closing]) mid := by
    have hbody := (h.linear_expression fun hle =>
      hoperand (Nat.lt_of_le_of_lt hle hlt)).recursive htarget
    exact hbody.seq_stop (fun _ _ => hlast _) hwrong
  exact hmark.seq_cons fun hspends =>
    hinside (length_lt_of_symbol hopening (by decide) hspends)

/-- An operand behind an operator leaves over what the operator pays for. -/
theorem linear_unaryExpr (h : r.Composed) (hknown : scope.Knows r.draft.rules)
    (hoperand : ∀ {mid}, mid.length < ahead.length →
      Linear scope 64 44 0 Anywhere r.simpleExpr mid) :
    Linear scope 64 11 (-51) Anywhere r.unaryExpr ahead := by
  obtain ⟨id, id', op, operand, hop, htarget, heq⟩ := h.unaryExpr_target hknown
  have hmark : Linear scope 64 9 (-54) Anywhere op ahead :=
    linear_operator hop h.unaryOp unaryOperators_ne_nil
  have hlast {mid : List Char} (hlt : mid.length < ahead.length) :
      Linear scope 64 46 2 Anywhere (.seq id' [.recursive operand "SimpleExpr"]) mid :=
    ((hoperand hlt).recursive htarget).seq_singleton
  rw [heq]
  exact (hmark.seq_cons fun hspends =>
    hlast (length_lt_of_operator hop h.unaryOp unaryOperators_ne_nil hspends)).node

/-- **No operand is read over and over**: what is spent in front of it is linear in what lies
ahead, however deep parentheses are nested there, and a match pays for itself. -/
theorem linear_operand (h : r.Composed) (hknown : scope.Knows r.draft.rules) :
    Linear scope 64 44 0 Anywhere r.simpleExpr ahead := by
  induction hlen : ahead.length using Nat.strongRecOn generalizing ahead with
  | ind length ih =>
    subst hlen
    have hoperand {mid : List Char} (hlt : mid.length < ahead.length) :
        Linear scope 64 44 0 Anywhere r.simpleExpr mid := ih _ hlt rfl
    obtain ⟨id, id', number, opening, expression, closing, hnumber, hopening, hclosing, htarget,
      heq⟩ := h.simpleExpr_target hknown
    generalize hgroup : Rule.seq id' [opening, .recursive expression "Expression", closing] = group
      at heq
    have hparentheses : Linear scope 64 5 (-90) Anywhere group ahead :=
      hgroup ▸ h.linear_group hopening hclosing htarget hoperand
    have hbare (hrest : Avoids (· == '(') ahead) : Rejects scope 3 group ahead :=
      hgroup ▸ (rejects_symbol hopening (Text.not_prefix_of_avoids hrest)).seq_cons
    rw [heq]
    -- which of the alternatives may read anything is a matter of the first character
    by_cases hunary : Avoids (begins unaryOperators) ahead
    case neg =>
      obtain ⟨c, more, rfl, hc⟩ := Text.exists_cons_of_not_avoids hunary
      obtain ⟨hdigit, hopen⟩ := not_begins_of_begins_unary hc
      have hothers : ∀ rule ∈ [number, group], Rejects scope 9 rule (c :: more) :=
        List.forall_mem_cons.2 ⟨h.rejects_number hnumber (Text.avoids_cons.2 hdigit),
          List.forall_mem_singleton.2 ((hbare (Text.avoids_cons.2 hopen)).mono (by decide))⟩
      have hafter : Rejects scope 19 (.choice id [number, group]) (c :: more) := .choice hothers
      exact ((h.linear_unaryExpr hknown hoperand).choice_cons hafter).mono (by decide) (by decide)
    have hfirst : Rejects scope 9 r.unaryExpr ahead := h.rejects_unaryExpr hunary
    by_cases hdigit : Avoids Char.isDigit ahead
    case neg =>
      obtain ⟨c, more, rfl, hc⟩ := Text.exists_cons_of_not_avoids hdigit
      have hopen : (c == '(') = false := beq_false_of_ne (by rintro rfl; cases hc)
      have hafter : Rejects scope 4 (.choice id [group]) (c :: more) :=
        .choice (k := 3) (List.forall_mem_singleton.2 (hbare (Text.avoids_cons.2 hopen)))
      have hread : Linear scope 64 31 (-28) Anywhere number (c :: more) := h.linear_number hnumber
      have hall : Linear scope 64 44 (-18) Anywhere (.choice id [r.unaryExpr, number, group])
          (c :: more) :=
        .choice_append (List.forall_mem_singleton.2 hfirst) (hread.choice_cons hafter)
      exact hall.mono (Int.le_refl _) (by decide)
    have hbefore : ∀ rule ∈ [r.unaryExpr, number], Rejects scope 9 rule ahead :=
      List.forall_mem_cons.2 ⟨hfirst, List.forall_mem_singleton.2 (h.rejects_number hnumber hdigit)⟩
    have hall : Linear scope 64 24 (-71) Anywhere (.choice id [r.unaryExpr, number, group]) ahead :=
      .choice_append hbefore (hparentheses.choice_cons .choice_nil)
    exact hall.mono (by decide) (by decide)

/-- **What an input spends is linear in it**, whether it is an expression or not. -/
theorem linear_arithmetic (h : r.Composed) (hknown : scope.Knows r.draft.rules) :
    Linear scope 64 53 30 Anywhere r.arithmetic ahead := by
  obtain ⟨id, before, stop, hbefore, heq⟩ := h.arithmetic
  have hend (mid : List Char) : Linear scope 64 2 2 Anywhere (.seq id [.endOfInput stop]) mid :=
    (Linear.of_light .endOfInput).seq_singleton
  have hwrong {mid : List Char} (hmid : ¬Ends mid) :
      Rejects scope 2 (.seq id [.endOfInput stop]) mid := by
    refine (Rejects.endOfInput ?_).seq_cons
    rintro rfl
    exact hmid nofun
  have hbody (mid : List Char) : Linear scope 64 49 28 Anywhere
      (.seq id [r.expression, .endOfInput stop]) mid :=
    (h.linear_expression fun _ => h.linear_operand hknown).seq_stop (fun _ _ => hend _) hwrong
  have hblanks : Linear scope 64 2 2 Anywhere before ahead := linear_blanks hbefore (by decide)
  rw [heq]
  exact (hblanks.seq_cons fun _ => hbody _).mono (by decide) (by decide)

end Rules.Composed

end Arithmetic

namespace Catalog

/-- **The fuel that runs take is linear in the input**, with both grammars, whether the input is
accepted or not and whatever is nested in it: without a table of outcomes, `256` applications
for each byte and as many besides are enough, and whatever the recursion limit is, the fuel does
not run out. -/
theorem run_work :
    ∀ name ∈ ["json", "arithmetic"], ∃ g, standard.find? name = some g ∧
      ∀ (limits : Limits) (complete : Bool) (input : String) (error : UInt32),
        (∀ fuel, limits.execFuel = some fuel → 256 * (input.utf8ByteSize + 1) ≤ fuel.toNat) →
        (Parser.run ⟨g.root, limits, false⟩ standard.scope input complete).result ≠
          .ok (.error (.limit (.execFuel error))) := by
  refine List.forall_mem_cons.2 ⟨?json, List.forall_mem_singleton.2 ?arithmetic⟩
  case json =>
    obtain ⟨r, g, hmakes, hfind, hroot, hknows, hresolves, -⟩ := exists_json
    refine ⟨g, hfind, fun limits complete input error hfuel => ?_⟩
    rw [hroot]
    exact ((JsonValue.composed hmakes).linear_json hknows).run_ne_execFuel (by decide) hresolves
      hfuel
  case arithmetic =>
    obtain ⟨r, g, hmakes, hfind, hroot, -, hknows, hresolves, -⟩ := exists_arithmetic
    refine ⟨g, hfind, fun limits complete input error hfuel => ?_⟩
    rw [hroot]
    exact ((Arithmetic.composed hmakes).linear_arithmetic hknows).run_ne_execFuel (by decide)
      hresolves fun fuel hlimit =>
        Nat.le_trans (Nat.mul_le_mul_right _ (by decide)) (hfuel fuel hlimit)

/-- Brackets and parentheses that nothing closes, with just as much fuel. -/
theorem run_work_unclosed :
    (∃ g, standard.find? "json" = some g ∧ 256 * ("[[[1".utf8ByteSize + 1) ≤ (1280 : UInt32).toNat ∧
      (Parser.run ⟨g.root, ⟨some 1280, 64⟩, false⟩ standard.scope "[[[1" true).result ≠
        .ok (.error (.limit (.execFuel 1280)))) ∧
      ∃ g, standard.find? "arithmetic" = some g ∧
        256 * ("(-(1".utf8ByteSize + 1) ≤ (1280 : UInt32).toNat ∧
        (Parser.run ⟨g.root, ⟨some 1280, 64⟩, false⟩ standard.scope "(-(1" true).result ≠
          .ok (.error (.limit (.execFuel 1280))) := by
  have hfuel : ∀ fuel, some (1280 : UInt32) = some fuel → 256 * 5 ≤ fuel.toNat := by
    rintro fuel ⟨⟩
    decide
  obtain ⟨g, hfind, hjson⟩ := run_work "json" List.mem_cons_self
  obtain ⟨g', hfind', harithmetic⟩ :=
    run_work "arithmetic" (List.mem_cons_of_mem _ List.mem_cons_self)
  exact ⟨⟨g, hfind, by decide, hjson ⟨some 1280, 64⟩ true "[[[1" 1280 hfuel⟩, g', hfind',
    by decide, harithmetic ⟨some 1280, 64⟩ true "(-(1" 1280 hfuel⟩

end Catalog

end Packrat
