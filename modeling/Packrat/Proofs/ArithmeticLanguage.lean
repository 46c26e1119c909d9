import Packrat.Proofs.Catalog
import Packrat.Proofs.Lexemes

/-!
# The language of arithmetic expressions

The texts of arithmetic expressions as a context-free grammar, each with the expression
that it stands for and the tokens that its parts are, and the rules of the grammar,
which generate nothing else.

- `Arithmetic.Expression`, `Arithmetic.Operand`: operands in a row, with operators
  between them.
- `Arithmetic.Writes`, `Arithmetic.Document`: the language.
- `Arithmetic.Rules.Composed`: what the rules are made of, which `composed` reads off
  the program that builds them.
- `Arithmetic.Rules.Composed.writes_operand`, `document_of_generates`: what the rules
  generate is in the language.
-/

namespace Packrat

namespace Arithmetic

open Builder Lexical

/-! ## Expressions -/

mutual

/-- A numeral, an operand behind an operator, or an expression in parentheses. -/
inductive Operand where
  | number (numeral : List Char)
  | unary (op : String) (operand : Operand)
  | group (expression : Expression)

/-- Operands in a row. An operator stands before each of them but the first. -/
inductive Expression where
  | mk (first : Operand) (further : List (String × Operand))

end

/-! ## The language -/

/-- What a text stands for, with the tokens that its parts are: an operand, an
expression, or operators and operands in turn. -/
inductive Phrase where
  | operand (operand : Operand) (tree : Tree)
  | expression (expression : Expression) (tree : Tree)
  | further (further : List (String × Operand)) (trees : List Tree)

/-- Digits, perhaps with a fraction, perhaps with an exponent. -/
def Numeral (text : List Char) : Prop :=
  ∃ digits fraction power, Digits digits ∧ Optionally Fraction fraction ∧
    Optionally Exponent power ∧ text = digits ++ (fraction ++ power)

/-- The texts of operands, of expressions, and of what goes on behind the first operand.
Any operator of its table may stand in a place, and any blanks may follow a numeral, an
operator or a parenthesis. -/
inductive Writes : Phrase → List Char → Prop where
  | number {numeral blank : List Char} :
      Numeral numeral → Blank blank →
      Writes (.operand (.number numeral) (.mk "Number" (String.ofList numeral) []))
        (numeral ++ blank)
  | unary {op : String} {operand : Operand} {tree : Tree} {blank text : List Char} :
      op ∈ unaryOperators → Blank blank → Writes (.operand operand tree) text →
      Writes
        (.operand (.unary op operand)
          (.mk "PrefixExpr" (String.ofList (op.toList ++ blank ++ text)) [.mk "PrefixOp" op [], tree]))
        (op.toList ++ blank ++ text)
  | group {expression : Expression} {tree : Tree} {blank blank' text : List Char} :
      Blank blank → Blank blank' → Writes (.expression expression tree) text →
      Writes (.operand (.group expression) tree) ('(' :: (blank ++ (text ++ ')' :: blank')))
  | expression {first : Operand} {further : List (String × Operand)} {tree : Tree}
      {trees : List Tree} {text more : List Char} :
      Writes (.operand first tree) text → Writes (.further further trees) more →
      Writes
        (.expression (.mk first further)
          (.mk "Expression" (String.ofList (text ++ more)) (tree :: trees)))
        (text ++ more)
  | ended : Writes (.further [] []) []
  | next {op : String} {operand : Operand} {further : List (String × Operand)} {tree : Tree}
      {trees : List Tree} {blank text more : List Char} :
      op ∈ binaryOperators → Blank blank → Writes (.operand operand tree) text →
      Writes (.further further trees) more →
      Writes (.further ((op, operand) :: further) (.mk "BinaryOp" op [] :: tree :: trees))
        (op.toList ++ blank ++ (text ++ more))

/-- An expression with blanks before it. -/
def Document (text : List Char) : Prop :=
  ∃ before expression tree body, Blank before ∧ Writes (.expression expression tree) body ∧
    text = before ++ body

/-! ## The rules -/

/-- The rule is a literal of the given text. -/
def IsLiteral (text : String) (rule : Rule) : Prop := ∃ id, rule = .literal id text

/-- A node around the literals of a table. -/
def IsOperator (table : List String) (rule : Rule) : Prop :=
  ∃ id id' literals, List.Forall₂ IsLiteral table literals ∧
    rule = .node id (.choice id' literals)

/-- What the rules of the grammar are made of. -/
structure Rules.Composed (r : Rules) : Prop where
  number : ∃ id id' float integer, Lexical.float.Makes float ∧ Lexical.integer.Makes integer ∧
    r.number = .node id (.choice id' [float, integer])
  unaryOp : IsOperator unaryOperators r.unaryOp
  binaryOp : IsOperator binaryOperators r.binaryOp
  unaryExpr : ∃ id id' op operand, (lexeme r.unaryOp).Makes op ∧
    r.unaryExpr = .node id (.seq id' [op, .recursive operand "SimpleExpr"])
  simpleExpr : ∃ id id' number opening expression closing, (lexeme r.number).Makes number ∧
    (symbol "(").Makes opening ∧ (symbol ")").Makes closing ∧
    r.simpleExpr = .choice id
      [r.unaryExpr, number, .seq id' [opening, .recursive expression "Expression", closing]]
  expression : ∃ id id' id'' id''' op, (lexeme r.binaryOp).Makes op ∧
    r.expression = .node id
      (.seq id' [r.simpleExpr, .zeroOrMore id'' (.seq id''' [op, r.simpleExpr])])
  arithmetic : ∃ id before stop, blanks.Makes before ∧
    r.arithmetic = .seq id [before, r.expression, .endOfInput stop]

variable {scope : Scope} {r : Rules} {table : List String}

theorem makes_operators {rule : Rule} (h : (operators table).Makes rule) :
    ∃ id literals, List.Forall₂ IsLiteral table literals ∧ rule = .choice id literals := by
  obtain ⟨literals, hliterals, h⟩ := h.bind
  obtain ⟨id, rfl⟩ := makes_choice h
  exact ⟨id, literals, hliterals.mapM.imp fun _ _ => makes_literal, rfl⟩

/-- The rules are composed as the program says that builds them. -/
theorem composed (h : rules.Makes r) : r.Composed := by
  obtain ⟨float, hfloat, h⟩ := h.bind
  obtain ⟨integer, hinteger, h⟩ := h.bind
  obtain ⟨either, heither, h⟩ := h.bind
  obtain ⟨number, hnumber, h⟩ := h.bind
  obtain ⟨binaries, hbinaries, h⟩ := h.bind
  obtain ⟨binaryOp, hbinaryOp, h⟩ := h.bind
  obtain ⟨unaries, hunaries, h⟩ := h.bind
  obtain ⟨unaryOp, hunaryOp, h⟩ := h.bind
  obtain ⟨unaryLexeme, hunaryLexeme, h⟩ := h.bind
  obtain ⟨operand, hoperand, h⟩ := h.bind
  obtain ⟨parts, hparts, h⟩ := h.bind
  obtain ⟨unaryExpr, hunaryExpr, h⟩ := h.bind
  obtain ⟨opening, hopening, h⟩ := h.bind
  obtain ⟨inner, hinner, h⟩ := h.bind
  obtain ⟨closing, hclosing, h⟩ := h.bind
  obtain ⟨group, hgroup, h⟩ := h.bind
  obtain ⟨numberLexeme, hnumberLexeme, h⟩ := h.bind
  obtain ⟨simpleExpr, hsimpleExpr, h⟩ := h.bind
  obtain ⟨binaryLexeme, hbinaryLexeme, h⟩ := h.bind
  obtain ⟨further, hfurther, h⟩ := h.bind
  obtain ⟨repetition, hrepetition, h⟩ := h.bind
  obtain ⟨body, hbody, h⟩ := h.bind
  obtain ⟨expression, hexpression, h⟩ := h.bind
  obtain ⟨before, hbefore, h⟩ := h.bind
  obtain ⟨stop, hstop, h⟩ := h.bind
  obtain ⟨arithmetic, harithmetic, h⟩ := h.bind
  rw [h.pure]
  obtain ⟨_, rfl⟩ := makes_choice heither
  obtain ⟨_, rfl⟩ := makes_node hnumber
  obtain ⟨_, binaryLiterals, hbinaryLiterals, rfl⟩ := makes_operators hbinaries
  obtain ⟨_, rfl⟩ := makes_node hbinaryOp
  obtain ⟨_, unaryLiterals, hunaryLiterals, rfl⟩ := makes_operators hunaries
  obtain ⟨_, rfl⟩ := makes_node hunaryOp
  obtain ⟨_, rfl⟩ := makes_recursive hoperand
  obtain ⟨_, rfl⟩ := makes_seq hparts
  obtain ⟨_, rfl⟩ := makes_node hunaryExpr
  obtain ⟨_, rfl⟩ := makes_recursive hinner
  obtain ⟨_, rfl⟩ := makes_seq hgroup
  obtain ⟨_, rfl⟩ := makes_choice hsimpleExpr
  obtain ⟨_, rfl⟩ := makes_seq hfurther
  obtain ⟨_, rfl⟩ := makes_zeroOrMore hrepetition
  obtain ⟨_, rfl⟩ := makes_seq hbody
  obtain ⟨_, rfl⟩ := makes_node hexpression
  obtain ⟨_, rfl⟩ := makes_endOfInput hstop
  obtain ⟨_, rfl⟩ := makes_seq harithmetic
  exact {
    number := ⟨_, _, float, integer, hfloat, hinteger, rfl⟩
    unaryOp := ⟨_, _, unaryLiterals, hunaryLiterals, rfl⟩
    binaryOp := ⟨_, _, binaryLiterals, hbinaryLiterals, rfl⟩
    unaryExpr := ⟨_, _, unaryLexeme, _, hunaryLexeme, rfl⟩
    simpleExpr := ⟨_, _, numberLexeme, opening, _, closing, hnumberLexeme, hopening, hclosing, rfl⟩
    expression := ⟨_, _, _, _, binaryLexeme, hbinaryLexeme, rfl⟩
    arithmetic := ⟨_, before, _, hbefore, rfl⟩ }

namespace Rules.Composed

/-- Behind a unary operator, `SimpleExpr` stands for the rule of operands. -/
theorem unaryExpr_target (h : r.Composed) (hknown : scope.Knows r.draft.rules) :
    ∃ id id' op operand, (lexeme r.unaryOp).Makes op ∧
      scope.target operand "SimpleExpr" = some r.simpleExpr ∧
      r.unaryExpr = .node id (.seq id' [op, .recursive operand "SimpleExpr"]) := by
  obtain ⟨id, id', op, operand, hop, heq⟩ := h.unaryExpr
  have hmem : (operand, "SimpleExpr") ∈ r.unaryExpr.references := by
    simp [heq, Rule.references, Rule.referencesAll]
  have htarget := hknown.target_eq ("PrefixExpr", r.unaryExpr) (by simp [draft]) _ hmem
  exact ⟨id, id', op, operand, hop, htarget, heq⟩

/-- In parentheses, `Expression` stands for the rule of expressions. -/
theorem simpleExpr_target (h : r.Composed) (hknown : scope.Knows r.draft.rules) :
    ∃ id id' number opening expression closing, (lexeme r.number).Makes number ∧
      (symbol "(").Makes opening ∧ (symbol ")").Makes closing ∧
      scope.target expression "Expression" = some r.expression ∧
      r.simpleExpr = .choice id
        [r.unaryExpr, number, .seq id' [opening, .recursive expression "Expression", closing]] := by
  obtain ⟨id, id', number, opening, expression, closing, hnumber, hopening, hclosing, heq⟩ :=
    h.simpleExpr
  have hmem : (expression, "Expression") ∈ r.simpleExpr.references := by
    simp [heq, Rule.references, Rule.referencesAll]
  have htarget := hknown.target_eq ("SimpleExpr", r.simpleExpr) (by simp [draft]) _ hmem
  exact ⟨id, id', number, opening, expression, closing, hnumber, hopening, hclosing, htarget, heq⟩

end Rules.Composed

/-! ## What the rules generate is in the language -/

variable {rule : Rule} {read rest : List Char}

theorem mem_of_isLiteral {literals : List Rule} (h : List.Forall₂ IsLiteral table literals)
    (hrule : rule ∈ literals) : ∃ op ∈ table, IsLiteral op rule := by
  induction h with
  | nil => cases hrule
  | @cons op first table literals hop _ ih =>
    rcases List.mem_cons.1 hrule with rfl | hrest
    · exact ⟨op, List.mem_cons_self, hop⟩
    · obtain ⟨other, hother, hliteral⟩ := ih hrest
      exact ⟨other, List.mem_cons_of_mem _ hother, hliteral⟩

theorem IsOperator.generates (h : IsOperator table rule) (hread : Generates scope rule read rest) :
    ∃ op ∈ table, read = op.toList := by
  obtain ⟨id, id', literals, hliterals, rfl⟩ := h
  obtain ⟨taken, htaken, hread⟩ := hread.of_node.of_choice
  obtain ⟨op, hop, id'', rfl⟩ := mem_of_isLiteral hliterals htaken
  exact ⟨op, hop, hread.of_literal⟩

/-- An operator and the blanks behind it. -/
theorem generates_operatorLexeme {op : Rule} (hop : (lexeme rule).Makes op)
    (hrule : IsOperator table rule) (hread : Generates scope op read rest) :
    ∃ text ∈ table, ∃ blank, Blank blank ∧ read = text.toList ++ blank := by
  obtain ⟨first, blank, rfl, hblank, hfirst⟩ := generates_lexeme hop hread
  obtain ⟨text, htext, rfl⟩ := hrule.generates hfirst
  exact ⟨text, htext, blank, hblank, rfl⟩

/-- What the rule of operands generates below a length is in the language. -/
def WritesOperands (scope : Scope) (r : Rules) (n : Nat) : Prop :=
  ∀ {text rest : List Char}, text.length < n → Generates scope r.simpleExpr text rest →
    ∃ operand tree, Writes (.operand operand tree) text

namespace Rules.Composed

theorem numeral_of_generates (h : r.Composed) (hread : Generates scope r.number read rest) :
    Numeral read := by
  obtain ⟨id, id', float, integer, hfloat, hinteger, heq⟩ := h.number
  rw [heq] at hread
  obtain ⟨taken, htaken, hinside⟩ := hread.of_node.of_choice
  rcases List.mem_pair.1 htaken with rfl | rfl
  · obtain ⟨digits, fraction, power, hdigits, hfraction, hpower, -, rfl⟩ :=
      generates_float hfloat hinside
    exact ⟨digits, fraction, power, hdigits, hfraction, hpower, rfl⟩
  · exact ⟨read, [], [], generates_integer hinteger hinside, .inl rfl, .inl rfl, by simp⟩

variable {n : Nat}

theorem writes_further {id id' : RuleId} {op : Rule} (h : r.Composed)
    (hop : (lexeme r.binaryOp).Makes op) (hoperand : WritesOperands scope r n)
    (hread : Generates scope (.zeroOrMore id (.seq id' [op, r.simpleExpr])) read rest) :
    read.length < n → ∃ further trees, Writes (.further further trees) read := by
  apply hread.of_zeroOrMore
  case nil => exact fun _ => ⟨[], [], .ended⟩
  case cons =>
    intro step more rest hstep ih hlen
    obtain ⟨mark, operand, rfl, hmark, hlast⟩ := hstep.of_seq_cons
    obtain ⟨text, htext, blank, hblank, rfl⟩ := generates_operatorLexeme hop h.binaryOp hmark
    simp only [List.length_append] at hlen
    obtain ⟨x, tree, hwrites⟩ := hoperand (by omega) hlast.of_seq_singleton
    obtain ⟨further, trees, hfurther⟩ := ih (by omega)
    exact ⟨(text, x) :: further, _, by simpa using Writes.next htext hblank hwrites hfurther⟩

theorem writes_expression (h : r.Composed) (hoperand : WritesOperands scope r n)
    (hlen : read.length < n) (hread : Generates scope r.expression read rest) :
    ∃ expression tree, Writes (.expression expression tree) read := by
  obtain ⟨id, id', id'', id''', op, hop, heq⟩ := h.expression
  rw [heq] at hread
  obtain ⟨text, more, rfl, hfirst, hmore⟩ := hread.of_node.of_seq_cons
  simp only [List.length_append] at hlen
  obtain ⟨first, tree, hwrites⟩ := hoperand (by omega) hfirst
  obtain ⟨further, trees, hfurther⟩ :=
    h.writes_further hop hoperand hmore.of_seq_singleton (by omega)
  exact ⟨.mk first further, _, .expression hwrites hfurther⟩

/-- **What the rules generate is in the language**: an operand is a text of an operand. -/
theorem writes_operand (h : r.Composed) (hknown : scope.Knows r.draft.rules) (n : Nat) :
    WritesOperands scope r n := by
  -- what stands behind an operator or in parentheses is shorter than the whole
  induction n with
  | zero => exact fun hlen => absurd hlen (Nat.not_lt_zero _)
  | succ n ih =>
    intro text rest hlen hread
    obtain ⟨id, id', number, opening, expression, closing, hnumber, hopening, hclosing, htarget,
      heq⟩ := h.simpleExpr_target hknown
    rw [heq] at hread
    obtain ⟨taken, htaken, hinside⟩ := hread.of_choice
    simp only [List.mem_cons, List.not_mem_nil, or_false] at htaken
    rcases htaken with rfl | rfl | rfl
    · obtain ⟨id, id', op, operand, hop, htarget, heq⟩ := h.unaryExpr_target hknown
      rw [heq] at hinside
      obtain ⟨mark, body, rfl, hmark, hbody⟩ := hinside.of_node.of_seq_cons
      obtain ⟨text, htext, blank, hblank, rfl⟩ := generates_operatorLexeme hop h.unaryOp hmark
      have hsome : 0 < text.toList.length := by
        have hall : ∀ op ∈ unaryOperators, 0 < op.toList.length := by decide
        exact hall text htext
      simp only [List.length_append] at hlen
      obtain ⟨x, tree, hwrites⟩ := ih (by omega) (hbody.of_seq_singleton.of_recursive htarget)
      exact ⟨.unary text x, _, .unary htext hblank hwrites⟩
    · obtain ⟨numeral, blank, rfl, hblank, hnumeral⟩ := generates_lexeme hnumber hinside
      exact ⟨.number numeral, _, .number (h.numeral_of_generates hnumeral) hblank⟩
    · obtain ⟨start, more, rfl, hstart, hmore⟩ := hinside.of_seq_cons
      obtain ⟨body, stop, rfl, hbody, hstop⟩ := hmore.of_seq_cons
      obtain ⟨blank, hblank, rfl⟩ := generates_symbol hopening hstart
      obtain ⟨blank', hblank', rfl⟩ := generates_symbol hclosing hstop.of_seq_singleton
      have hopen : "(".toList = ['('] := rfl
      have hclose : ")".toList = [')'] := rfl
      simp only [List.length_append, hopen, hclose, List.length_singleton] at hlen
      obtain ⟨e, tree, hwrites⟩ :=
        h.writes_expression ih (by omega) (hbody.of_recursive htarget)
      exact ⟨.group e, tree, by simpa [hopen, hclose] using Writes.group hblank hblank' hwrites⟩

/-- What the root generates is a document, and nothing follows it. -/
theorem document_of_generates (h : r.Composed) (hknown : scope.Knows r.draft.rules)
    (hread : Generates scope r.arithmetic read rest) : Document read ∧ rest = [] := by
  obtain ⟨id, leading, stop, hleading, heq⟩ := h.arithmetic
  rw [heq] at hread
  obtain ⟨before, more, rfl, hbefore, hmore⟩ := hread.of_seq_cons
  obtain ⟨body, last, rfl, hbody, hlast⟩ := hmore.of_seq_cons
  obtain ⟨rfl, rfl⟩ := hlast.of_seq_singleton.of_endOfInput
  obtain ⟨expression, tree, hwrites⟩ :=
    h.writes_expression (h.writes_operand hknown _) (Nat.lt_succ_self _) hbody
  exact ⟨⟨before, expression, tree, body, generates_blanks hleading hbefore, hwrites, by simp⟩, rfl⟩

end Rules.Composed

end Arithmetic

end Packrat
