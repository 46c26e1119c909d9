import Packrat.Proofs.ArithmeticLanguage
import Packrat.Proofs.Parsing

/-!
# Parsing arithmetic expressions

Operators share characters, and no blank need stand between them. Nevertheless the
rules read every text of the language: where an operator is written, no longer one of
the table stands, since the longer ones go on with a character that neither a blank nor
an operand begins with.

- `Arithmetic.IsLongest`: the longest operator of a table that a text begins with, and
  `IsOperator.reads`: that one is read.
- `Arithmetic.Writes.reads`, `Arithmetic.Rules.Composed.reads_document`: the rules read
  the texts of the language, with their tokens.
- `Arithmetic.run_document`, `Arithmetic.run_decides`, `Arithmetic.run_expressions`: a run
  that meets no limit succeeds on documents and matches nothing else.
-/

namespace Packrat

namespace Arithmetic

open Builder Lexical
open Text (Avoids)

variable {scope : Scope} {r : Rules} {rule : Rule} {table : List String} {op name : String}
  {read rest blank : List Char} {c : Char}

/-! ## Operators -/

/-- `op` is the longest operator of the table that the text begins with. -/
def IsLongest (table : List String) (op : String) (text : List Char) : Prop :=
  op ∈ table ∧ op.toList <+: text ∧
    ∀ other ∈ table, other.toList <+: text → other.toList.length ≤ op.toList.length

/-- No operator begins with one that stands before it in the table. -/
def LongestFirst (table : List String) : Prop :=
  table.Pairwise fun earlier later => ¬earlier.toList <+: later.toList

instance (table : List String) : Decidable (LongestFirst table) :=
  inferInstanceAs (Decidable (table.Pairwise _))

theorem longestFirst_unaryOperators : LongestFirst unaryOperators := by decide

theorem longestFirst_binaryOperators : LongestFirst binaryOperators := by decide +kernel

/-- The literals before the longest operator that is there fail. -/
theorem IsLongest.reads_choice {id : RuleId} {literals : List Rule}
    (hliterals : List.Forall₂ IsLiteral table literals) (hfirst : LongestFirst table)
    (h : IsLongest table op (op.toList ++ rest)) :
    Reads scope (.choice id literals) op.toList rest [] := by
  induction hliterals with
  | nil => cases h.1
  | @cons first _ table literals hliteral _ ih =>
    obtain ⟨id', rfl⟩ := hliteral
    obtain ⟨hop, hthere, hlongest⟩ := h
    obtain ⟨hbefore, hfirst⟩ := List.pairwise_cons.1 hfirst
    rcases List.mem_cons.1 hop with rfl | hop
    · exact .choice_first (.literal op)
    · have hrefuses : Refuses scope (.literal id' first) (op.toList ++ rest) := by
        refine .literal fun hstarts => hbefore op hop ?_
        exact List.prefix_of_prefix_length_le hstarts hthere
          (hlongest first List.mem_cons_self hstarts)
      exact .choice_next hrefuses (ih hfirst ⟨hop, hthere, fun other hother =>
        hlongest other (List.mem_cons_of_mem _ hother)⟩)

/-- **The longest operator is read.** -/
theorem IsOperator.reads (h : IsOperator table rule) (hname : scope.name rule.id = some name)
    (hfirst : LongestFirst table) (hop : IsLongest table op (op.toList ++ rest)) :
    Reads scope rule op.toList rest [.mk name op []] := by
  obtain ⟨id, id', literals, hliterals, rfl⟩ := h
  have hread : Reads scope (.node id (.choice id' literals)) op.toList rest
      [.mk name (String.ofList op.toList) []] :=
    .node hname (hop.reads_choice hliterals hfirst)
  rwa [String.ofList_toList] at hread

/-- Whether an operator of the table begins with `c`. -/
def begins (table : List String) (c : Char) : Bool :=
  (table.filterMap fun op => op.toList.head?).contains c

theorem begins_iff : begins table c = true ↔ ∃ op ∈ table, op.toList.head? = some c := by
  rw [begins, List.contains_iff_mem, List.mem_filterMap]

/-- No operator is there if what lies ahead begins none. -/
theorem not_prefix_of_avoids_begins (hop : op ∈ table) (hsome : op.toList ≠ [])
    (hrest : Avoids (begins table) rest) : ¬op.toList <+: rest := by
  intro hstarts
  obtain ⟨c, more, heq⟩ := List.exists_cons_of_ne_nil hsome
  obtain ⟨after, rfl⟩ := hstarts
  have hbegins : begins table c = true := begins_iff.2 ⟨op, hop, by simp [heq]⟩
  rw [hrest c (by simp [heq])] at hbegins
  cases hbegins

theorem IsOperator.refuses (h : IsOperator table rule) (hsome : ∀ op ∈ table, op.toList ≠ [])
    (hrest : Avoids (begins table) rest) : Refuses scope rule rest := by
  obtain ⟨id, id', literals, hliterals, rfl⟩ := h
  refine .node (.choice fun rule hmem => ?_)
  obtain ⟨op, hop, id'', rfl⟩ := mem_of_isLiteral hliterals hmem
  exact .literal (not_prefix_of_avoids_begins hop (hsome op hop) hrest)

theorem isLongest_unary (hop : op ∈ unaryOperators) :
    IsLongest unaryOperators op (op.toList ++ rest) := by
  have hall : ∀ op ∈ unaryOperators, op.toList.length = 1 := by decide
  exact ⟨hop, List.prefix_append _ _, fun other hother _ =>
    Nat.le_of_eq ((hall other hother).trans (hall op hop).symm)⟩

/-- The characters with which a binary operator may go on. -/
def isContinuation (c : Char) : Bool := ['*', '<', '>', '=', '&', '|'].contains c

theorem isContinuation_of_append {more : List Char} (hop : op ∈ binaryOperators)
    (hother : String.ofList (op.toList ++ c :: more) ∈ binaryOperators) :
    isContinuation c = true := by
  have hall : ∀ op ∈ binaryOperators, ∀ other ∈ binaryOperators, op.toList <+: other.toList →
      (other.toList.drop op.toList.length).head?.all isContinuation = true := by
    decide +kernel
  have hnext := hall op hop _ hother (by simp)
  simpa using hnext

/-- Where nothing goes on with it, a binary operator is the longest that is there. -/
theorem isLongest_binary (hop : op ∈ binaryOperators) (hrest : Avoids isContinuation rest) :
    IsLongest binaryOperators op (op.toList ++ rest) := by
  refine ⟨hop, List.prefix_append _ _, fun other hother hstarts => ?_⟩
  by_contra hlonger
  -- a longer one begins with `op`, and its next character is the first of the rest
  obtain ⟨extra, hextra⟩ := List.prefix_of_prefix_length_le (List.prefix_append _ _) hstarts
    (Nat.le_of_not_le hlonger)
  obtain ⟨after, hafter⟩ := hstarts
  rw [← hextra, List.append_assoc, List.append_cancel_left_eq] at hafter
  cases extra with
  | nil =>
    rw [← hextra, List.append_nil] at hlonger
    exact hlonger (Nat.le_refl _)
  | cons c more =>
    have hlong : String.ofList (op.toList ++ c :: more) ∈ binaryOperators := by
      rwa [hextra, String.ofList_toList]
    have hcontinues := isContinuation_of_append hop hlong
    rw [hrest c (by rw [← hafter]; rfl)] at hcontinues
    cases hcontinues

/-! ## What operands begin with, and what may follow them -/

/-- Whether an operand begins with `c`. -/
def beginsOperand (c : Char) : Bool := c.isDigit || c == '(' || begins unaryOperators c

theorem begins_unary : begins unaryOperators c = ['-', '+', '!', '~'].contains c := rfl

theorem begins_binary :
    begins binaryOperators c =
      ['*', '<', '>', '<', '>', '=', '!', '&', '|', '*', '/', '%', '+', '-', '<', '>', '&', '|',
        '^'].contains c := rfl

theorem beginsOperand_cases (h : beginsOperand c = true) :
    c.isDigit = true ∨ c = '(' ∨ c = '-' ∨ c = '+' ∨ c = '!' ∨ c = '~' := by
  simpa [beginsOperand, begins_unary, or_assoc] using h

/-- A digit begins neither an operator nor a blank. -/
theorem not_begins_of_isDigit (h : c.isDigit = true) :
    begins unaryOperators c = false ∧ isBlank c = false ∧ isContinuation c = false := by
  refine ⟨Bool.eq_false_iff.2 fun hc => ?_, Bool.eq_false_iff.2 fun hc => ?_,
    Bool.eq_false_iff.2 fun hc => ?_⟩
  · simp only [begins_unary, List.contains_iff_mem, List.mem_cons, List.not_mem_nil,
      or_false] at hc
    rcases hc with rfl | rfl | rfl | rfl <;> cases h
  · simp only [isBlank, Bool.or_eq_true, beq_iff_eq, or_assoc] at hc
    rcases hc with rfl | rfl | rfl | rfl <;> cases h
  · simp only [isContinuation, List.contains_iff_mem, List.mem_cons, List.not_mem_nil,
      or_false] at hc
    rcases hc with rfl | rfl | rfl | rfl | rfl | rfl <;> cases h

theorem not_begins_of_beginsOperand (h : beginsOperand c = true) :
    isBlank c = false ∧ isContinuation c = false := by
  rcases beginsOperand_cases h with hdigit | rfl | rfl | rfl | rfl | rfl
  · exact (not_begins_of_isDigit hdigit).2
  all_goals exact ⟨rfl, rfl⟩

/-- What lies ahead is nothing, or a closing parenthesis. -/
def Ends (rest : List Char) : Prop := ∀ c, rest.head? = some c → c = ')'

/-- What lies ahead is nothing, a closing parenthesis, or a binary operator. -/
def Follows (rest : List Char) : Prop :=
  ∀ c, rest.head? = some c → c = ')' ∨ begins binaryOperators c = true

theorem Follows.cases (h : Follows rest) (hc : rest.head? = some c) :
    c = ')' ∨ c = '*' ∨ c = '<' ∨ c = '>' ∨ c = '=' ∨ c = '!' ∨ c = '&' ∨ c = '|' ∨ c = '/' ∨
      c = '%' ∨ c = '+' ∨ c = '-' ∨ c = '^' := by
  refine (h c hc).imp_right fun hbegins => ?_
  rw [begins_binary, List.contains_iff_mem] at hbegins
  simp only [List.mem_cons, List.not_mem_nil, or_false] at hbegins
  grind

theorem Follows.avoids_isBlank (h : Follows rest) : Avoids isBlank rest := by
  intro c hc
  rcases h.cases hc with rfl | rfl | rfl | rfl | rfl | rfl | rfl | rfl | rfl | rfl | rfl | rfl |
    rfl <;> rfl

/-- No number goes on in front of an operator, nor do blanks continue it. -/
theorem Follows.avoids_isNumeric (h : Follows rest) (hblank : Blank blank) :
    Avoids isNumeric (blank ++ rest) := by
  intro c hc
  cases blank with
  | nil =>
    rcases h.cases hc with rfl | rfl | rfl | rfl | rfl | rfl | rfl | rfl | rfl | rfl | rfl | rfl |
      rfl <;> rfl
  | cons first more =>
    cases hc
    have hfirst : isBlank c = true := hblank c List.mem_cons_self
    simp only [isBlank, Bool.or_eq_true, beq_iff_eq, or_assoc] at hfirst
    rcases hfirst with rfl | rfl | rfl | rfl <;> rfl

theorem Ends.follows (h : Ends rest) : Follows rest := fun c hc => .inl (h c hc)

theorem Ends.avoids_begins (h : Ends rest) : Avoids (begins binaryOperators) rest := by
  intro c hc
  rw [h c hc]
  decide +kernel

namespace Writes

variable {x : Operand} {e : Expression} {xs : List (String × Operand)} {tree : Tree}
  {trees : List Tree}

/-- What an operand begins with. -/
theorem exists_cons_operand (h : Writes (.operand x tree) read) :
    ∃ c more, read = c :: more ∧ beginsOperand c = true := by
  cases h with
  | number hnumeral =>
    obtain ⟨digits, fraction, power, hdigits, -, -, rfl⟩ := hnumeral
    obtain ⟨c, digits, rfl⟩ := List.exists_cons_of_ne_nil hdigits.1
    have hc : c.isDigit = true := hdigits.2 c List.mem_cons_self
    exact ⟨c, _, rfl, by simp [beginsOperand, hc]⟩
  | @unary op _ _ _ _ hop =>
    have hall : ∀ op ∈ unaryOperators, op.toList ≠ [] := by decide
    obtain ⟨c, more, heq⟩ := List.exists_cons_of_ne_nil (hall op hop)
    have hc : begins unaryOperators c = true := begins_iff.2 ⟨op, hop, by simp [heq]⟩
    exact ⟨c, _, by rw [heq]; rfl, by simp [beginsOperand, hc]⟩
  | group => exact ⟨'(', _, rfl, rfl⟩

theorem exists_cons_expression (h : Writes (.expression e tree) read) :
    ∃ c more, read = c :: more ∧ beginsOperand c = true := by
  cases h with
  | expression hfirst =>
    obtain ⟨c, more, rfl, hc⟩ := hfirst.exists_cons_operand
    exact ⟨c, _, rfl, hc⟩

/-- Neither a blank nor the rest of a longer operator stands where an operand does. -/
theorem avoids_operand (h : Writes (.operand x tree) read) :
    Avoids isBlank (read ++ rest) ∧ Avoids isContinuation (read ++ rest) := by
  obtain ⟨c, more, rfl, hc⟩ := h.exists_cons_operand
  exact ⟨Text.avoids_cons.2 (not_begins_of_beginsOperand hc).1,
    Text.avoids_cons.2 (not_begins_of_beginsOperand hc).2⟩

theorem avoids_isBlank (h : Writes (.expression e tree) read) : Avoids isBlank (read ++ rest) := by
  obtain ⟨c, more, rfl, hc⟩ := h.exists_cons_expression
  exact Text.avoids_cons.2 (not_begins_of_beginsOperand hc).1

/-- What goes on behind an operand may follow it. -/
theorem follows (h : Writes (.further xs trees) read) (hrest : Ends rest) :
    Follows (read ++ rest) := by
  cases h with
  | ended => exact hrest.follows
  | @next op _ _ _ _ _ _ _ hop =>
    intro c hc
    have hall : ∀ op ∈ binaryOperators, op.toList ≠ [] := by decide +kernel
    obtain ⟨first, more, heq⟩ := List.exists_cons_of_ne_nil (hall op hop)
    rw [heq] at hc
    cases hc
    exact .inr (begins_iff.2 ⟨op, hop, by simp [heq]⟩)

end Writes

/-! ## Texts of the language are read -/

namespace Rules.Composed

theorem refuses_unaryExpr (h : r.Composed) (hrest : Avoids (begins unaryOperators) rest) :
    Refuses scope r.unaryExpr rest := by
  obtain ⟨id, id', op, operand, hop, heq⟩ := h.unaryExpr
  rw [heq]
  exact .node (.seq_failed (refuses_lexeme hop (h.unaryOp.refuses (by decide) hrest)))

theorem refuses_number (h : r.Composed) (hrest : Avoids Char.isDigit rest) :
    Refuses scope r.number rest := by
  obtain ⟨id, id', float, integer, hfloat, hinteger, heq⟩ := h.number
  rw [heq]
  exact .node (.choice_next (refuses_float hfloat hrest)
    (.choice_next (refuses_integer hinteger hrest) .choice_nil))

/-- Digits with a point behind them are no number, unless a fraction is there. -/
theorem refuses_number_of_point (h : r.Composed) (hcut : Cut read [] [] ('.' :: rest)) :
    Refuses scope r.number (read ++ '.' :: rest) := by
  obtain ⟨id, id', float, integer, hfloat, hinteger, heq⟩ := h.number
  rw [heq]
  exact .node (.choice_next (refuses_float_of_digits hfloat hcut)
    (.choice_next (refuses_integer_of_point hinteger hcut.digits) .choice_nil))

/-- Where it cannot go on, a numeral is read whole, whichever of its parts it has. -/
theorem reads_number {part power : List Char} (h : r.Composed) (hknown : scope.Knows r.draft.rules)
    (hcut : Cut read part power rest) (hpoint : part ++ power = [] → Avoids (· == '.') rest) :
    Reads scope r.number (read ++ (part ++ power)) rest
      [.mk "Number" (String.ofList (read ++ (part ++ power))) []] := by
  have hname := hknown.name_eq ("Number", r.number) (by simp [draft])
  obtain ⟨id, id', float, integer, hfloat, hinteger, heq⟩ := h.number
  rw [heq] at hname ⊢
  refine .node hname ?_
  by_cases hsome : part ++ power = []
  · have havoids := hpoint hsome
    obtain ⟨rfl, rfl⟩ := List.append_eq_nil_iff.1 hsome
    rw [List.append_nil, List.append_nil]
    have hinside : Reads scope integer read rest [] :=
      reads_integer hinteger hcut.digits hcut.ends havoids
    exact .choice_next (refuses_float_of_digits hfloat hcut) (.choice_first hinside)
  · exact .choice_first (reads_float hfloat hcut hsome)

theorem operand_number (h : r.Composed) (hknown : scope.Knows r.draft.rules)
    (hnumeral : Numeral read) (hblank : Blank blank) (hrest : Follows rest) :
    Reads scope r.simpleExpr (read ++ blank) rest [.mk "Number" (String.ofList read) []] := by
  obtain ⟨id, id', number, opening, expression, closing, hnumber, -, -, heq⟩ := h.simpleExpr
  have hbehind : Avoids isNumeric (blank ++ rest) := hrest.avoids_isNumeric hblank
  obtain ⟨digits, fraction, power, hdigits, hfraction, hpower, rfl⟩ := hnumeral
  have hunary : Refuses scope r.unaryExpr (digits ++ (fraction ++ power) ++ blank ++ rest) := by
    refine h.refuses_unaryExpr ?_
    obtain ⟨c, digits, rfl⟩ := List.exists_cons_of_ne_nil hdigits.1
    exact Text.avoids_cons.2 (not_begins_of_isDigit (hdigits.2 c List.mem_cons_self)).1
  have hread := h.reads_number hknown (cut_of_avoids hdigits hfraction hpower hbehind)
    fun _ => avoids_point hbehind
  rw [heq]
  exact .choice_next hunary
    (.choice_first (reads_lexeme hnumber hread hblank hrest.avoids_isBlank))

/-- A unary operator and the blanks behind it. -/
theorem reads_unaryLexeme {lexeme : Rule} (h : r.Composed) (hknown : scope.Knows r.draft.rules)
    (hlexeme : (Lexical.lexeme r.unaryOp).Makes lexeme) (hop : op ∈ unaryOperators)
    (hblank : Blank blank) (hbegins : Avoids isBlank rest) :
    Reads scope lexeme (op.toList ++ blank) rest [.mk "PrefixOp" op []] :=
  reads_lexeme hlexeme
    (h.unaryOp.reads (hknown.name_eq ("PrefixOp", r.unaryOp) (by simp [draft]))
      longestFirst_unaryOperators (isLongest_unary hop)) hblank hbegins

/-- A binary operator and the blanks behind it, in front of what does not go on with it. -/
theorem reads_binaryLexeme {lexeme : Rule} (h : r.Composed) (hknown : scope.Knows r.draft.rules)
    (hlexeme : (Lexical.lexeme r.binaryOp).Makes lexeme) (hop : op ∈ binaryOperators)
    (hblank : Blank blank) (hbegins : Avoids isBlank rest ∧ Avoids isContinuation rest) :
    Reads scope lexeme (op.toList ++ blank) rest [.mk "BinaryOp" op []] := by
  have hname := hknown.name_eq ("BinaryOp", r.binaryOp) (by simp [draft])
  have hclear : Avoids isContinuation (blank ++ rest) := by
    cases blank with
    | nil => exact hbegins.2
    | cons c blank =>
      have hc : isBlank c = true := hblank c List.mem_cons_self
      simp only [isBlank, Bool.or_eq_true, beq_iff_eq, or_assoc] at hc
      rcases hc with rfl | rfl | rfl | rfl <;> exact Text.avoids_cons.2 rfl
  exact reads_lexeme hlexeme (h.binaryOp.reads hname longestFirst_binaryOperators
    (isLongest_binary hop hclear)) hblank hbegins.1

theorem operand_unary {tree : Tree} (h : r.Composed) (hknown : scope.Knows r.draft.rules)
    (hop : op ∈ unaryOperators) (hblank : Blank blank) (hbegins : Avoids isBlank (read ++ rest))
    (hoperand : Reads scope r.simpleExpr read rest [tree]) :
    Reads scope r.simpleExpr (op.toList ++ blank ++ read) rest
      [.mk "PrefixExpr" (String.ofList (op.toList ++ blank ++ read)) [.mk "PrefixOp" op [], tree]] := by
  obtain ⟨id, id', number, opening, expression, closing, -, -, -, heq⟩ := h.simpleExpr
  have hname := hknown.name_eq ("PrefixExpr", r.unaryExpr) (by simp [draft])
  obtain ⟨id₁, id₂, lexeme, operand, hlexeme, htarget, hunary⟩ := h.unaryExpr_target hknown
  have hmark : Reads scope lexeme (op.toList ++ blank) (read ++ rest) [.mk "PrefixOp" op []] :=
    h.reads_unaryLexeme hknown hlexeme hop hblank hbegins
  have hlast : Reads scope (.recursive operand "SimpleExpr") read rest [tree] :=
    .recursive htarget hoperand
  rw [hunary] at hname
  rw [heq, hunary]
  exact .choice_first (.node hname (hmark.seq_cons hlast.seq_singleton))

theorem operand_group {blank' : List Char} {tree : Tree} (h : r.Composed)
    (hknown : scope.Knows r.draft.rules) (hblank : Blank blank) (hblank' : Blank blank')
    (hrest : Follows rest) (hbegins : Avoids isBlank (read ++ ')' :: (blank' ++ rest)))
    (hinside : Reads scope r.expression read (')' :: (blank' ++ rest)) [tree]) :
    Reads scope r.simpleExpr ('(' :: (blank ++ (read ++ ')' :: blank'))) rest [tree] := by
  obtain ⟨id, id', number, opening, expression, closing, hnumber, hopening, hclosing, htarget,
    heq⟩ := h.simpleExpr_target hknown
  have hunary : ∀ rest, Refuses scope r.unaryExpr ('(' :: rest) :=
    fun _ => h.refuses_unaryExpr (Text.avoids_cons.2 (by decide))
  have hnumeral : ∀ rest, Refuses scope number ('(' :: rest) :=
    fun _ => refuses_lexeme hnumber (h.refuses_number (Text.avoids_cons.2 rfl))
  have hstop : Reads scope closing (')' :: blank') rest [] :=
    reads_symbol hclosing hblank' hrest.avoids_isBlank
  have hmiddle : Reads scope (.recursive expression "Expression") read (')' :: blank' ++ rest)
      [tree] := .recursive htarget hinside
  have hstart : Reads scope opening ('(' :: blank) (read ++ ')' :: blank' ++ rest) [] := by
    refine reads_symbol hopening hblank ?_
    rwa [List.append_assoc]
  have hall : Reads scope (.seq id' [opening, .recursive expression "Expression", closing])
      ('(' :: blank ++ (read ++ ')' :: blank')) rest ([] ++ ([tree] ++ [])) :=
    hstart.seq_cons (hmiddle.seq_cons hstop.seq_singleton)
  rw [heq]
  exact .choice_next (hunary _) (.choice_next (hnumeral _) (.choice_first hall))

/-- One more operator and operand, in front of what the repetition reads further on. -/
theorem further_next {id id' : RuleId} {lexeme : Rule} {more : List Char} {tree : Tree}
    {trees : List Tree} (h : r.Composed) (hknown : scope.Knows r.draft.rules)
    (hlexeme : (Lexical.lexeme r.binaryOp).Makes lexeme) (hop : op ∈ binaryOperators)
    (hblank : Blank blank)
    (hbegins : Avoids isBlank (read ++ (more ++ rest)) ∧
      Avoids isContinuation (read ++ (more ++ rest)))
    (hoperand : Reads scope r.simpleExpr read (more ++ rest) [tree])
    (hmore : Reads scope (.zeroOrMore id (.seq id' [lexeme, r.simpleExpr])) more rest trees) :
    Reads scope (.zeroOrMore id (.seq id' [lexeme, r.simpleExpr]))
      (op.toList ++ blank ++ (read ++ more)) rest (.mk "BinaryOp" op [] :: tree :: trees) := by
  have hmark : Reads scope lexeme (op.toList ++ blank) (read ++ (more ++ rest))
      [.mk "BinaryOp" op []] := h.reads_binaryLexeme hknown hlexeme hop hblank hbegins
  have hstep : Reads scope (.seq id' [lexeme, r.simpleExpr]) (op.toList ++ blank ++ read)
      (more ++ rest) [.mk "BinaryOp" op [], tree] :=
    hmark.seq_cons hoperand.seq_singleton
  rw [← List.append_assoc]
  exact hstep.zeroOrMore_next hmore

end Rules.Composed

/-- What it means that the rules read a phrase. -/
def Phrase.ReadBy (scope : Scope) (r : Rules) : Phrase → List Char → Prop
  | .operand _ tree, text => ∀ rest, Follows rest → Reads scope r.simpleExpr text rest [tree]
  | .expression _ tree, text => ∀ rest, Ends rest → Reads scope r.expression text rest [tree]
  | .further _ trees, text =>
    ∀ id id' lexeme rest, (Lexical.lexeme r.binaryOp).Makes lexeme → Ends rest →
      Reads scope (.zeroOrMore id (.seq id' [lexeme, r.simpleExpr])) text rest trees

/-- **The rules read the texts of the language**: each with its tokens, and all of it
in front of what may follow. -/
theorem Writes.reads {phrase : Phrase} (h : Writes phrase read) (hmade : r.Composed)
    (hknown : scope.Knows r.draft.rules) : phrase.ReadBy scope r read := by
  -- by induction on how the text is written, for all that may follow its phrase
  induction h with
  | number hnumeral hblank =>
    exact fun rest hrest => hmade.operand_number hknown hnumeral hblank hrest
  | unary hop hblank hoperand ih =>
    exact fun rest hrest =>
      hmade.operand_unary hknown hop hblank hoperand.avoids_operand.1 (ih rest hrest)
  | @group _ _ blank blank' _ hblank hblank' hinside ih =>
    intro rest hrest
    have hends : Ends (')' :: (blank' ++ rest)) := fun c hc => by cases hc; rfl
    exact hmade.operand_group hknown hblank hblank' hrest hinside.avoids_isBlank (ih _ hends)
  | expression hfirst hmore ih ih' =>
    intro rest hrest
    have hname := hknown.name_eq ("Expression", r.expression) (by simp [Rules.draft])
    obtain ⟨id, id', id'', id''', lexeme, hlexeme, heq⟩ := hmade.expression
    rw [heq] at hname ⊢
    have hread := ih _ (hmore.follows hrest)
    have hrests := ih' id'' id''' lexeme rest hlexeme hrest
    exact .node hname (hread.seq_cons hrests.seq_singleton)
  | ended =>
    intro id id' lexeme rest hlexeme hrest
    have hop : Refuses scope r.binaryOp rest :=
      hmade.binaryOp.refuses (by decide +kernel) hrest.avoids_begins
    exact .zeroOrMore_ended (.seq_failed (refuses_lexeme hlexeme hop))
  | next hop hblank hoperand hmore ih ih' =>
    intro id id' lexeme rest hlexeme hrest
    exact hmade.further_next hknown hlexeme hop hblank hoperand.avoids_operand
      (ih _ (hmore.follows hrest)) (ih' id id' lexeme rest hlexeme hrest)

theorem Rules.Composed.reads_document {before body : List Char} {e : Expression} {tree : Tree}
    (h : r.Composed) (hknown : scope.Knows r.draft.rules) (hbefore : Blank before)
    (hbody : Writes (.expression e tree) body) :
    Reads scope r.arithmetic (before ++ body) [] [tree] := by
  obtain ⟨id, leading, stop, hleading, heq⟩ := h.arithmetic
  have hend : Reads scope (.endOfInput stop) [] [] [] := .endOfInput
  have hread : Reads scope r.expression body ([] ++ []) [tree] :=
    hbody.reads h hknown [] fun _ hc => nomatch hc
  have hfirst : Reads scope leading before (body ++ [] ++ []) [] := by
    rw [List.append_assoc]
    exact reads_blanks hleading hbefore hbody.avoids_isBlank
  have hall : Reads scope (.seq id [leading, r.expression, .endOfInput stop]) (before ++ (body ++ []))
      [] ([] ++ ([tree] ++ [])) :=
    hfirst.seq_cons (hread.seq_cons hend.seq_singleton)
  rw [List.append_nil] at hall
  rw [heq]
  exact hall

/-! ## Runs -/

/-- A document is parsed to the tree of its expression, or to a tree around it. -/
theorem run_document (hmakes : rules.Makes r) (hknows : scope.Knows r.draft.rules)
    (hresolves : scope.Resolves r.arithmetic) (hidentifies : scope.Identifies r.arithmetic)
    (limits : Limits) (memoize complete : Bool) {before body : List Char} {e : Expression}
    {tree : Tree} (hbefore : Blank before) (hbody : Writes (.expression e tree) body)
    {input : String} (hinput : input.toList = before ++ body) :
    (∃ error, (Parser.run ⟨r.arithmetic, limits, memoize⟩ scope input complete).result =
      .ok (.error (.limit error))) ∨
    ∃ token,
      (Parser.run ⟨r.arithmetic, limits, memoize⟩ scope input complete).result = .ok (.ok token) ∧
      token.tree = Tree.root "Arithmetic" input [tree] := by
  have hreads : Reads scope r.arithmetic input.toList [] [tree] :=
    hinput ▸ (composed hmakes).reads_document hknows hbefore hbody
  have hname : scope.name r.arithmetic.id = some "Arithmetic" :=
    hknows.name_eq ("Arithmetic", r.arithmetic) (by simp [Rules.draft])
  have hrun :=
    Parser.run_of_reads ⟨r.arithmetic, limits, memoize⟩ hresolves hidentifies hreads complete
  rwa [hname] at hrun

/-- A run decides whether its input is a document, up to limits. -/
theorem run_decides {r : Rules} (hmakes : rules.Makes r) {scope : Scope}
    (hknows : scope.Knows r.draft.rules) (hresolves : scope.Resolves r.arithmetic)
    (hidentifies : scope.Identifies r.arithmetic) (limits : Limits) (memoize complete : Bool)
    (input : String) :
    (∃ error, (Parser.run ⟨r.arithmetic, limits, memoize⟩ scope input complete).result =
      .ok (.error (.limit error))) ∨
    (Document input.toList ∧ ∃ token,
      (Parser.run ⟨r.arithmetic, limits, memoize⟩ scope input complete).result = .ok (.ok token)) ∨
    (¬Document input.toList ∧ ∃ failure,
      (Parser.run ⟨r.arithmetic, limits, memoize⟩ scope input complete).result =
        .ok (.error (.noMatch failure))) := by
  refine Parser.run_decides ⟨r.arithmetic, limits, memoize⟩ hresolves hidentifies ?_ ?_ input
    complete
  · rintro text ⟨before, e, tree, body, hbefore, hbody, rfl⟩
    exact ⟨[tree], (composed hmakes).reads_document hknows hbefore hbody⟩
  · intro read rest hread
    exact (composed hmakes).document_of_generates hknows hread

/-- **The arithmetic grammar accepts exactly its language.** A run meets a limit, or
succeeds on a document, or matches nothing where there is no document. -/
theorem run_expressions :
    ∃ g, Catalog.standard.find? "arithmetic" = some g ∧
      ∀ (limits : Limits) (memoize complete : Bool) (input : String),
        let result := (Parser.run ⟨g.root, limits, memoize⟩ Catalog.standard.scope input complete).result
        (∃ error, result = .ok (.error (.limit error))) ∨
          (Document input.toList ∧ ∃ token, result = .ok (.ok token)) ∨
          (¬Document input.toList ∧ ∃ failure, result = .ok (.error (.noMatch failure))) := by
  obtain ⟨r, g, hmakes, hfind, hroot, -, hknows, hresolves, hidentifies⟩ := Catalog.exists_arithmetic
  refine ⟨g, hfind, fun limits memoize complete input => ?_⟩
  rw [hroot]
  exact run_decides hmakes hknows hresolves hidentifies limits memoize complete input

end Arithmetic

end Packrat
