import Packrat.Proofs.Semantics

/-!
# Reading text

What a rule does to a text that stands somewhere in an input. Only what lies ahead
counts, so that no offsets are needed.

- `Tree`: a token without its place, `Token.tree`.
- `Reads scope rule read rest trees`: in front of `rest`, the rule reads `read` and
  gives tokens with these trees. `Refuses scope rule rest`: it fails there.
- `Generates scope rule read rest`: what the rule generates as a production of a
  context-free grammar, where alternatives have no order and nothing looks ahead.
- `Evaluates.generates`: what a rule reads, it generates.
-/

namespace Packrat

open Text (utf8Length)

/-! ## Trees -/

/-- A token without its place: the text that it covers and what is inside. -/
inductive Tree where
  | mk (name text : String) (children : List Tree)

mutual

/-- What a token captured. -/
def Token.tree : Token → Tree
  | ⟨name, source, span, children⟩ =>
    .mk name (Token.text ⟨name, source, span, []⟩) (Token.trees children)

/-- What several tokens captured. -/
def Token.trees : List Token → List Tree
  | [] => []
  | token :: rest => token.tree :: Token.trees rest

end

namespace Token

@[simp] theorem trees_nil : trees [] = [] := rfl

@[simp] theorem trees_cons (token : Token) (rest : List Token) :
    trees (token :: rest) = token.tree :: trees rest := rfl

@[simp] theorem trees_append (tokens rest : List Token) :
    trees (tokens ++ rest) = trees tokens ++ trees rest := by
  induction tokens with
  | nil => rfl
  | cons token tokens ih => simp [ih]

end Token

/-! ## Reading and refusing -/

variable {scope : Scope} {id : RuleId} {rule operand : Rule} {rules : List Rule}
  {read more rest : List Char} {trees trees' : List Tree} {c : Char} {accepted : CharClass}

/-- Wherever `read` stands in front of `rest`, the rule matches it, and gives tokens
with the given trees. -/
def Reads (scope : Scope) (rule : Rule) (read rest : List Char) (trees : List Tree) : Prop :=
  ∀ before, ∃ tokens,
    Derives scope (String.ofList (before ++ (read ++ rest))) rule (utf8Length before)
      (some (utf8Length before + utf8Length read, tokens)) ∧ Token.trees tokens = trees

/-- Wherever `rest` is all that lies ahead, the rule fails. -/
def Refuses (scope : Scope) (rule : Rule) (rest : List Char) : Prop :=
  ∀ before, Derives scope (String.ofList (before ++ rest)) rule (utf8Length before) none

/-- The text does not begin with a character of which `p` holds. -/
def Text.Avoids (p : Char → Bool) (text : List Char) : Prop :=
  ∀ c, text.head? = some c → p c = false

@[simp] theorem Text.avoids_nil (p : Char → Bool) : Avoids p [] := fun _ h => nomatch h

@[simp] theorem Text.avoids_cons {p : Char → Bool} : Avoids p (c :: rest) ↔ p c = false :=
  ⟨fun h => h c rfl, fun h _ hc => by cases hc; exact h⟩

theorem Text.exists_cons_of_not_avoids {p : Char → Bool} (h : ¬Avoids p rest) :
    ∃ c more, rest = c :: more ∧ p c = true := by
  cases rest with
  | nil => exact absurd (avoids_nil p) h
  | cons c more => exact ⟨c, more, rfl, by rwa [avoids_cons, Bool.not_eq_false] at h⟩

theorem Text.utf8Length_eq_zero {text : List Char} : utf8Length text = 0 ↔ text = [] := by
  cases text with
  | nil => simp
  | cons c rest =>
    have hc := c.utf8Size_pos
    simp only [utf8Length_cons, reduceCtorEq, iff_false]
    omega

/-- A text has one beginning of a given length. -/
theorem Text.append_inj_left {first second more more' : List Char}
    (h : first ++ more = second ++ more') (hlen : utf8Length first = utf8Length second) :
    first = second := by
  have hdrop : dropBytes? (utf8Length first) (first ++ more) = some more' := by
    rw [h, hlen, dropBytes?_append]
  rw [dropBytes?_append] at hdrop
  cases hdrop
  exact List.append_cancel_right h

theorem Text.not_prefix_of_avoids {text : List Char} (h : Avoids (· == c) rest) :
    ¬(c :: text) <+: rest := by
  rintro ⟨more, rfl⟩
  have hc := h c rfl
  simp at hc

/-- What a primitive reads in the middle of an input is what it reads ahead. -/
theorem Rule.readsAt?_ofList (rule : Rule) (before text : List Char) :
    ∃ previous?, rule.readsAt? (String.ofList (before ++ text)) (utf8Length before) =
      rule.reads? previous? text := by
  refine ⟨Text.before? (utf8Length before) (String.ofList (before ++ text)), ?_⟩
  rw [readsAt?, String.toList_ofList, Text.dropBytes?_append]
  rfl

namespace Reads

/-- A primitive reads what lies ahead, whatever is before that. -/
theorem primitive (hprimitive : rule.isPrimitive = true)
    (hread : ∀ previous?, rule.reads? previous? (read ++ rest) = some (utf8Length read)) :
    Reads scope rule read rest [] := by
  intro before
  obtain ⟨previous?, heq⟩ := rule.readsAt?_ofList before (read ++ rest)
  exact ⟨[], .read hprimitive (heq.trans (hread previous?)), rfl⟩

theorem char (h : accepted.accepts c = true) : Reads scope (.char id accepted) [c] rest [] :=
  primitive rfl fun _ => by simp [Rule.reads?, h]

theorem literal (text : String) : Reads scope (.literal id text) text.toList rest [] :=
  primitive rfl fun _ => by simp [Rule.reads?]

theorem endOfInput : Reads scope (.endOfInput id) [] [] [] := primitive rfl fun _ => rfl

theorem seq_nil : Reads scope (.seq id []) [] rest [] := fun _ => ⟨[], .seq_nil, rfl⟩

/-- One part after another. -/
theorem seq_cons (h : Reads scope rule read (more ++ rest) trees)
    (h' : Reads scope (.seq id rules) more rest trees') :
    Reads scope (.seq id (rule :: rules)) (read ++ more) rest (trees ++ trees') := by
  intro before
  obtain ⟨tokens, hread, rfl⟩ := h before
  obtain ⟨tokens', hmore, rfl⟩ := h' (before ++ read)
  rw [Text.utf8Length_append, List.append_assoc] at hmore
  refine ⟨tokens ++ tokens', ?_, Token.trees_append ..⟩
  rw [List.append_assoc, Text.utf8Length_append, ← Nat.add_assoc]
  exact .seq_next hread hmore

theorem seq_singleton (h : Reads scope rule read rest trees) :
    Reads scope (.seq id [rule]) read rest trees := by
  rw [← List.append_nil read, ← List.append_nil trees]
  exact seq_cons h seq_nil

theorem choice_first (h : Reads scope rule read rest trees) :
    Reads scope (.choice id (rule :: rules)) read rest trees := by
  intro before
  obtain ⟨tokens, hread, heq⟩ := h before
  exact ⟨tokens, .choice_first hread, heq⟩

theorem choice_next (h : Refuses scope rule (read ++ rest))
    (h' : Reads scope (.choice id rules) read rest trees) :
    Reads scope (.choice id (rule :: rules)) read rest trees := by
  intro before
  obtain ⟨tokens, hread, heq⟩ := h' before
  exact ⟨tokens, .choice_next (h before) hread, heq⟩

/-- The alternative is reached where those before it fail. -/
theorem choice_of_refuses {others : List Rule} (before : List Rule)
    (h : ∀ rule ∈ before, Refuses scope rule (read ++ rest)) (h' : Reads scope rule read rest trees) :
    Reads scope (.choice id (before ++ rule :: others)) read rest trees := by
  induction before with
  | nil => exact choice_first h'
  | cons first before ih =>
    obtain ⟨hfirst, hbefore⟩ := List.forall_mem_cons.1 h
    exact choice_next hfirst (ih hbefore)

theorem notAhead (h : Refuses scope operand rest) : Reads scope (.notAhead id operand) [] rest [] :=
  fun before => ⟨[], .notAhead_matched (h before), rfl⟩

theorem zeroOrMore_ended (h : Refuses scope operand rest) :
    Reads scope (.zeroOrMore id operand) [] rest [] :=
  fun before => ⟨[], .zeroOrMore_ended (h before), rfl⟩

theorem zeroOrMore_next (h : Reads scope operand read (more ++ rest) trees)
    (h' : Reads scope (.zeroOrMore id operand) more rest trees') :
    Reads scope (.zeroOrMore id operand) (read ++ more) rest (trees ++ trees') := by
  intro before
  obtain ⟨tokens, hread, rfl⟩ := h before
  obtain ⟨tokens', hmore, rfl⟩ := h' (before ++ read)
  rw [Text.utf8Length_append, List.append_assoc] at hmore
  refine ⟨tokens ++ tokens', ?_, Token.trees_append ..⟩
  rw [List.append_assoc, Text.utf8Length_append, ← Nat.add_assoc]
  exact .zeroOrMore_next hread hmore

theorem oneOrMore (h : Reads scope operand read (more ++ rest) trees)
    (h' : Reads scope (.zeroOrMore id operand) more rest trees') :
    Reads scope (.oneOrMore id operand) (read ++ more) rest (trees ++ trees') := by
  intro before
  obtain ⟨tokens, hread, rfl⟩ := h before
  obtain ⟨tokens', hmore, rfl⟩ := h' (before ++ read)
  rw [Text.utf8Length_append, List.append_assoc] at hmore
  refine ⟨tokens ++ tokens', ?_, Token.trees_append ..⟩
  rw [List.append_assoc, Text.utf8Length_append, ← Nat.add_assoc]
  exact .oneOrMore_next hread hmore

theorem opt_taken (h : Reads scope operand read rest trees) :
    Reads scope (.opt id operand) read rest trees := by
  intro before
  obtain ⟨tokens, hread, heq⟩ := h before
  exact ⟨tokens, .opt_taken hread, heq⟩

theorem opt_left (h : Refuses scope operand rest) : Reads scope (.opt id operand) [] rest [] :=
  fun before => ⟨[], .opt_left (h before), rfl⟩

/-- A node captures what its operand reads. -/
theorem node {name : String} (hname : scope.name id = some name)
    (h : Reads scope operand read rest trees) :
    Reads scope (.node id operand) read rest [.mk name (String.ofList read) trees] := by
  intro before
  obtain ⟨tokens, hread, rfl⟩ := h before
  refine ⟨_, .node_matched hread, ?_⟩
  have hslice : Text.slice? (utf8Length before) (utf8Length before + utf8Length read)
      (String.ofList (before ++ (read ++ rest))) = some (String.ofList read) :=
    Text.slice?_eq_some_iff.2 ⟨String.ofList before, String.ofList rest,
      by simp [String.append_assoc], by simp [← Text.utf8Length_toList],
      by simp [← Text.utf8Length_toList]⟩
  simp only [Scope.nodeToken, hname, Option.getD_some, Token.trees_cons, Token.trees_nil,
    Token.tree, Token.text, Token.start, Token.stop, hslice]

theorem recursive {key : String} {target : Rule} (htarget : scope.target id key = some target)
    (h : Reads scope target read rest trees) :
    Reads scope (.recursive id key) read rest trees := by
  intro before
  obtain ⟨tokens, hread, heq⟩ := h before
  exact ⟨tokens, .recursive htarget hread, heq⟩

end Reads

namespace Refuses

theorem primitive (hprimitive : rule.isPrimitive = true)
    (hread : ∀ previous?, rule.reads? previous? rest = none) : Refuses scope rule rest := by
  intro before
  obtain ⟨previous?, heq⟩ := rule.readsAt?_ofList before rest
  exact .unread hprimitive (heq.trans (hread previous?))

theorem char (h : Text.Avoids accepted.accepts rest) : Refuses scope (.char id accepted) rest := by
  refine primitive rfl fun _ => ?_
  cases rest with
  | nil => rfl
  | cons c rest => simp [Rule.reads?, Text.avoids_cons.1 h]

theorem literal {text : String} (h : ¬text.toList <+: rest) :
    Refuses scope (.literal id text) rest :=
  primitive rfl fun _ => by simpa [Rule.reads?] using h

theorem endOfInput (h : rest ≠ []) : Refuses scope (.endOfInput id) rest :=
  primitive rfl fun _ => by simp [Rule.reads?, h]

theorem seq_failed (h : Refuses scope rule rest) : Refuses scope (.seq id (rule :: rules)) rest :=
  fun before => .seq_failed (h before)

theorem seq_next (h : Reads scope rule read rest trees) (h' : Refuses scope (.seq id rules) rest) :
    Refuses scope (.seq id (rule :: rules)) (read ++ rest) := by
  intro before
  obtain ⟨tokens, hread, rfl⟩ := h before
  have hrest := h' (before ++ read)
  rw [Text.utf8Length_append, List.append_assoc] at hrest
  exact .seq_next hread hrest

theorem choice_nil : Refuses scope (.choice id []) rest := fun _ => .choice_nil

theorem choice_next (h : Refuses scope rule rest) (h' : Refuses scope (.choice id rules) rest) :
    Refuses scope (.choice id (rule :: rules)) rest :=
  fun before => .choice_next (h before) (h' before)

/-- A choice fails where each alternative does. -/
theorem choice (h : ∀ rule ∈ rules, Refuses scope rule rest) :
    Refuses scope (.choice id rules) rest := by
  induction rules with
  | nil => exact choice_nil
  | cons rule rules ih =>
    exact choice_next (h rule List.mem_cons_self) (ih fun r hr => h r (List.mem_cons_of_mem _ hr))

theorem notAhead (h : Reads scope operand read rest trees) :
    Refuses scope (.notAhead id operand) (read ++ rest) := by
  intro before
  obtain ⟨tokens, hread, -⟩ := h before
  exact .notAhead_failed hread

theorem oneOrMore (h : Refuses scope operand rest) : Refuses scope (.oneOrMore id operand) rest :=
  fun before => .oneOrMore_failed (h before)

theorem node (h : Refuses scope operand rest) : Refuses scope (.node id operand) rest :=
  fun before => .node_failed (h before)

theorem recursive {key : String} {target : Rule} (htarget : scope.target id key = some target)
    (h : Refuses scope target rest) : Refuses scope (.recursive id key) rest :=
  fun before => .recursive htarget (h before)

end Refuses

namespace Reads

/-- A run of accepted characters, all that there are. -/
theorem zeroOrMore_char {id' : RuleId} (h : ∀ c ∈ read, accepted.accepts c = true)
    (hrest : Text.Avoids accepted.accepts rest) :
    Reads scope (.zeroOrMore id (.char id' accepted)) read rest [] := by
  induction read with
  | nil => exact zeroOrMore_ended (.char hrest)
  | cons c more ih =>
    obtain ⟨hc, hmore⟩ := List.forall_mem_cons.1 h
    exact zeroOrMore_next (char hc) (ih hmore)

theorem oneOrMore_char {id' : RuleId} (hsome : read ≠ [])
    (h : ∀ c ∈ read, accepted.accepts c = true) (hrest : Text.Avoids accepted.accepts rest) :
    Reads scope (.oneOrMore id (.char id' accepted)) read rest [] := by
  cases read with
  | nil => exact absurd rfl hsome
  | cons c more =>
    obtain ⟨hc, hmore⟩ := List.forall_mem_cons.1 h
    exact oneOrMore (char hc) (zeroOrMore_char hmore hrest)

end Reads

/-! ## Generating -/

/-- The texts of a rule as a production of a context-free grammar: any alternative
may be taken, a repetition may stop anywhere, and lookaheads do not look. What
follows, `rest`, matters to primitives that look at it: to the end of input. -/
inductive Generates (scope : Scope) : Rule → List Char → List Char → Prop where
  | primitive {rule : Rule} {read rest : List Char} {previous? : Option Char} :
      rule.isPrimitive = true → rule.reads? previous? (read ++ rest) = some (utf8Length read) →
      Generates scope rule read rest
  | seq_nil {id : RuleId} {rest : List Char} : Generates scope (.seq id []) [] rest
  | seq_cons {id : RuleId} {rule : Rule} {rules : List Rule} {read more rest : List Char} :
      Generates scope rule read (more ++ rest) → Generates scope (.seq id rules) more rest →
      Generates scope (.seq id (rule :: rules)) (read ++ more) rest
  | choice {id : RuleId} {rule : Rule} {rules : List Rule} {read rest : List Char} :
      rule ∈ rules → Generates scope rule read rest → Generates scope (.choice id rules) read rest
  | notAhead {id : RuleId} {operand : Rule} {rest : List Char} :
      Generates scope (.notAhead id operand) [] rest
  | ahead {id : RuleId} {operand : Rule} {rest : List Char} :
      Generates scope (.ahead id operand) [] rest
  | zeroOrMore_nil {id : RuleId} {operand : Rule} {rest : List Char} :
      Generates scope (.zeroOrMore id operand) [] rest
  | zeroOrMore_next {id : RuleId} {operand : Rule} {read more rest : List Char} :
      Generates scope operand read (more ++ rest) →
      Generates scope (.zeroOrMore id operand) more rest →
      Generates scope (.zeroOrMore id operand) (read ++ more) rest
  | oneOrMore {id : RuleId} {operand : Rule} {read more rest : List Char} :
      Generates scope operand read (more ++ rest) →
      Generates scope (.zeroOrMore id operand) more rest →
      Generates scope (.oneOrMore id operand) (read ++ more) rest
  | opt_nil {id : RuleId} {operand : Rule} {rest : List Char} :
      Generates scope (.opt id operand) [] rest
  | opt_taken {id : RuleId} {operand : Rule} {read rest : List Char} :
      Generates scope operand read rest → Generates scope (.opt id operand) read rest
  | node {id : RuleId} {operand : Rule} {read rest : List Char} :
      Generates scope operand read rest → Generates scope (.node id operand) read rest
  | recursive {id : RuleId} {key : String} {target : Rule} {read rest : List Char} :
      scope.target id key = some target → Generates scope target read rest →
      Generates scope (.recursive id key) read rest

namespace Generates

theorem of_char (h : Generates scope (.char id accepted) read rest) :
    ∃ c, read = [c] ∧ accepted.accepts c = true := by
  cases h with
  | primitive _ hread =>
    cases read with
    | nil =>
      cases rest with
      | nil => cases hread
      | cons c rest =>
        have hc := c.utf8Size_pos
        simp only [Rule.reads?, List.nil_append, Option.ite_none_right_eq_some,
          Option.some.injEq, Text.utf8Length_nil] at hread
        omega
    | cons c more =>
      simp only [Rule.reads?, List.cons_append, Option.ite_none_right_eq_some,
        Option.some.injEq, Text.utf8Length_cons] at hread
      obtain ⟨haccepts, hlen⟩ := hread
      have hmore : utf8Length more = 0 := by omega
      exact ⟨c, by rw [Text.utf8Length_eq_zero.1 hmore], haccepts⟩

theorem of_literal {text : String} (h : Generates scope (.literal id text) read rest) :
    read = text.toList := by
  cases h with
  | primitive _ hread =>
    simp only [Rule.reads?, Option.ite_none_right_eq_some, Option.some.injEq] at hread
    obtain ⟨hstarts, hlen⟩ := hread
    obtain ⟨after, heq⟩ := List.isPrefixOf_iff_prefix.1 hstarts
    exact (Text.append_inj_left heq ((Text.utf8Length_toList text).trans hlen)).symm

theorem of_endOfInput (h : Generates scope (.endOfInput id) read rest) : read = [] ∧ rest = [] := by
  cases h with
  | primitive _ hread =>
    simp only [Rule.reads?, Option.ite_none_right_eq_some, List.isEmpty_iff,
      List.append_eq_nil_iff] at hread
    exact hread.1

theorem of_seq_nil (h : Generates scope (.seq id []) read rest) : read = [] := by
  cases h with
  | primitive hprimitive => cases hprimitive
  | seq_nil => rfl

theorem of_seq_cons (h : Generates scope (.seq id (rule :: rules)) read rest) :
    ∃ first more, read = first ++ more ∧ Generates scope rule first (more ++ rest) ∧
      Generates scope (.seq id rules) more rest := by
  cases h with
  | primitive hprimitive => cases hprimitive
  | seq_cons hfirst hmore => exact ⟨_, _, rfl, hfirst, hmore⟩

theorem of_seq_singleton (h : Generates scope (.seq id [rule]) read rest) :
    Generates scope rule read rest := by
  obtain ⟨first, more, rfl, hfirst, hmore⟩ := h.of_seq_cons
  cases hmore.of_seq_nil
  rwa [List.append_nil]

theorem of_choice (h : Generates scope (.choice id rules) read rest) :
    ∃ rule ∈ rules, Generates scope rule read rest := by
  cases h with
  | primitive hprimitive => cases hprimitive
  | choice hmem hread => exact ⟨_, hmem, hread⟩

theorem of_notAhead (h : Generates scope (.notAhead id operand) read rest) : read = [] := by
  cases h with
  | primitive hprimitive => cases hprimitive
  | notAhead => rfl

/-- The texts of a repetition, match by match. -/
theorem of_zeroOrMore {motive : List Char → Prop}
    (h : Generates scope (.zeroOrMore id operand) read rest) (nil : motive [])
    (cons : ∀ {first more rest : List Char}, Generates scope operand first rest → motive more →
      motive (first ++ more)) : motive read := by
  generalize heq : Rule.zeroOrMore id operand = rule at h
  induction h with
  | primitive hprimitive => subst heq; cases hprimitive
  | zeroOrMore_nil => exact nil
  | zeroOrMore_next hfirst _ _ ih =>
    cases heq
    exact cons hfirst (ih rfl)
  | seq_nil | seq_cons | choice | notAhead | ahead | oneOrMore | opt_nil | opt_taken | node
  | recursive => cases heq

theorem of_zeroOrMore_char {id' : RuleId}
    (h : Generates scope (.zeroOrMore id (.char id' accepted)) read rest) :
    ∀ c ∈ read, accepted.accepts c = true := by
  apply h.of_zeroOrMore
  case nil => exact List.forall_mem_nil _
  case cons =>
    intro first more rest hfirst hmore
    obtain ⟨c, rfl, hc⟩ := hfirst.of_char
    exact List.forall_mem_cons.2 ⟨hc, hmore⟩

theorem of_oneOrMore (h : Generates scope (.oneOrMore id operand) read rest) :
    ∃ first more, read = first ++ more ∧ Generates scope operand first (more ++ rest) ∧
      Generates scope (.zeroOrMore id operand) more rest := by
  cases h with
  | primitive hprimitive => cases hprimitive
  | oneOrMore hfirst hmore => exact ⟨_, _, rfl, hfirst, hmore⟩

theorem of_oneOrMore_char {id' : RuleId}
    (h : Generates scope (.oneOrMore id (.char id' accepted)) read rest) :
    read ≠ [] ∧ ∀ c ∈ read, accepted.accepts c = true := by
  obtain ⟨first, more, rfl, hfirst, hmore⟩ := h.of_oneOrMore
  obtain ⟨c, rfl, hc⟩ := hfirst.of_char
  exact ⟨List.cons_ne_nil _ _, List.forall_mem_cons.2 ⟨hc, hmore.of_zeroOrMore_char⟩⟩

theorem of_opt (h : Generates scope (.opt id operand) read rest) :
    read = [] ∨ Generates scope operand read rest := by
  cases h with
  | primitive hprimitive => cases hprimitive
  | opt_nil => exact .inl rfl
  | opt_taken hread => exact .inr hread

theorem of_node (h : Generates scope (.node id operand) read rest) :
    Generates scope operand read rest := by
  cases h with
  | primitive hprimitive => cases hprimitive
  | node hread => exact hread

theorem of_recursive {key : String} {target : Rule}
    (h : Generates scope (.recursive id key) read rest)
    (htarget : scope.target id key = some target) : Generates scope target read rest := by
  cases h with
  | primitive hprimitive => cases hprimitive
  | recursive htarget' hread =>
    rw [htarget] at htarget'
    cases htarget'
    exact hread

end Generates

/-- What a rule reads between two offsets of an input, it generates. -/
def Rule.Covers (scope : Scope) (rule : Rule) (input : List Char) (pos stop : Nat) : Prop :=
  ∀ before ahead, input = before ++ ahead → utf8Length before = pos →
    ∃ read rest, ahead = read ++ rest ∧ stop = pos + utf8Length read ∧
      Generates scope rule read rest

theorem Rule.Covers.next {part whole : Rule} {input : List Char} {pos mid stop : Nat}
    (h : rule.Covers scope input pos mid) (h' : part.Covers scope input mid stop)
    (hnext : ∀ {read more rest : List Char}, Generates scope rule read (more ++ rest) →
      Generates scope part more rest → Generates scope whole (read ++ more) rest) :
    whole.Covers scope input pos stop := by
  intro before ahead hinput hpos
  obtain ⟨read, rest, rfl, rfl, hread⟩ := h before ahead hinput hpos
  obtain ⟨more, rest, rfl, rfl, hmore⟩ := h' (before ++ read) rest (by simp [hinput])
    (by simp [hpos])
  exact ⟨read ++ more, rest, by simp, by simp [Nat.add_assoc], hnext hread hmore⟩

theorem Rule.Covers.imp {whole : Rule} {input : List Char} {pos stop : Nat}
    (h : rule.Covers scope input pos stop)
    (himp : ∀ {read rest : List Char}, Generates scope rule read rest →
      Generates scope whole read rest) : whole.Covers scope input pos stop := by
  intro before ahead hinput hpos
  obtain ⟨read, rest, hahead, hstop, hread⟩ := h before ahead hinput hpos
  exact ⟨read, rest, hahead, hstop, himp hread⟩

theorem Rule.Covers.nothing {input : List Char} {pos : Nat}
    (h : ∀ {rest : List Char}, Generates scope rule [] rest) : rule.Covers scope input pos pos :=
  fun _ ahead _ _ => ⟨[], ahead, rfl, rfl, h⟩

/-- **What a rule reads, it generates**: order, greed and lookahead only take texts
away. -/
theorem Evaluates.covers {input : String} {stalls : Prop} {pos : Nat} {outcome : Outcome}
    {wants : List Want} (h : Evaluates scope input stalls rule pos outcome wants) :
    ∀ {stop tokens}, outcome = some (stop, tokens) → rule.Covers scope input.toList pos stop := by
  induction h with
  | @read rule pos n hprimitive hread =>
    rintro _ _ ⟨⟩ before ahead hinput rfl
    rw [Rule.readsAt?, hinput, Text.dropBytes?_append] at hread
    obtain ⟨read, rest, rfl, rfl⟩ := Rule.exists_append_of_reads? hread
    exact ⟨read, rest, rfl, rfl, .primitive hprimitive hread⟩
  | unread | seq_failed | choice_nil | notAhead_failed | ahead_failed | oneOrMore_failed
  | node_failed => rintro _ _ ⟨⟩
  | seq_nil => rintro _ _ ⟨⟩; exact .nothing .seq_nil
  | notAhead_matched => rintro _ _ ⟨⟩; exact .nothing .notAhead
  | ahead_matched => rintro _ _ ⟨⟩; exact .nothing .ahead
  | zeroOrMore_ended | zeroOrMore_stalled => rintro _ _ ⟨⟩; exact .nothing .zeroOrMore_nil
  | opt_left => rintro _ _ ⟨⟩; exact .nothing .opt_nil
  | seq_next _ _ ih ih' =>
    intro stop tokens h
    obtain ⟨more, hmore, -⟩ := Outcome.after_eq_some h
    exact (ih rfl).next (ih' hmore) .seq_cons
  | zeroOrMore_next _ _ _ ih ih' =>
    intro stop tokens h
    obtain ⟨more, hmore, -⟩ := Outcome.after_eq_some h
    exact (ih rfl).next (ih' hmore) .zeroOrMore_next
  | oneOrMore_next _ _ _ ih ih' =>
    intro stop tokens h
    obtain ⟨more, hmore, -⟩ := Outcome.after_eq_some h
    exact (ih rfl).next (ih' hmore) .oneOrMore
  | choice_first _ ih => exact fun h => (ih h).imp (.choice List.mem_cons_self)
  | choice_next _ _ _ ih =>
    intro stop tokens h
    refine (ih h).imp fun hread => ?_
    cases hread with
    | primitive hprimitive => cases hprimitive
    | choice hmem hread => exact .choice (List.mem_cons_of_mem _ hmem) hread
  | oneOrMore_stalled _ _ _ ih =>
    intro stop tokens h
    refine (ih h).imp fun {read rest} hread => ?_
    rw [← List.append_nil read]
    exact .oneOrMore hread .zeroOrMore_nil
  | opt_taken _ ih => exact fun h => (ih h).imp .opt_taken
  | node_matched _ ih => rintro _ _ ⟨⟩; exact (ih rfl).imp .node
  | recursive htarget _ ih => exact fun h => (ih h).imp (.recursive htarget)

end Packrat
