import Packrat.Proofs.Lexemes
import Packrat.Proofs.Recursion
import Packrat.Proofs.Tracing

/-!
# How deep rules are applied

How many applications are open at once is a matter of the rule, its offset and the input,
and a limit that leaves room for them is not met.

- `Applies scope input`: one application makes another one as a part of it.
- `Fits scope input depth`: an application and all that is open inside it at once are
  `depth` applications at most.
- `Rule.Bounded depth rule`: this many suffice for the rule anywhere.
- `Nests scope depth rule ahead`: this many suffice in front of `ahead`, with one lemma
  for each kind of rule.
- `Parser.Within`, `Parser.within_of_fits`: what this says of runs.
- `Lexical.bounded_…`: the depth of lexical rules.
-/

namespace Packrat

open Context
open Text (utf8Length)

/-- Applying the first rule at its offset applies the second one at its own. -/
inductive Applies (scope : Scope) (input : String) : Rule × Nat → Rule × Nat → Prop where
  | first {rule operand : Rule} {rest : List Rule} {pos : Nat} :
      rule.operands = operand :: rest → Applies scope input (rule, pos) (operand, pos)
  | target {id : RuleId} {key : String} {target : Rule} {pos : Nat} :
      scope.target id key = some target →
      Applies scope input (.recursive id key, pos) (target, pos)
  | later {whole rest part : Rule × Nat} :
      Proceeds scope input whole rest → Applies scope input rest part →
      Applies scope input whole part

/-- The application and those that may be open inside it at once are `depth` at most. -/
def Fits (scope : Scope) (input : String) : Nat → Rule × Nat → Prop
  | 0, _ => False
  | depth + 1, whole => ∀ part, Applies scope input whole part → Fits scope input depth part

variable {scope : Scope} {input : String} {depth depth' : Nat} {rule operand : Rule}
  {rules : List Rule} {id : RuleId} {pos : Nat}

theorem Fits.mono {whole : Rule × Nat} (h : Fits scope input depth whole) (hle : depth ≤ depth') :
    Fits scope input depth' whole := by
  induction depth generalizing depth' whole with
  | zero => exact h.elim
  | succ depth ih =>
    obtain ⟨depth', rfl⟩ := Nat.exists_eq_add_of_le hle
    rw [Nat.add_right_comm] at hle ⊢
    exact fun part happlies => ih (h part happlies) (Nat.le_add_right ..)

/-! ## Runs -/

/-- Between `limit` and what is open there is room for what is applied. -/
theorem Descends.fits (scope : Scope) (root : Rule) (input : String) (limit : Nat) :
    Descends scope root input
      (fun opened whole => ∃ depth, opened.length + depth ≤ limit ∧ Fits scope input depth whole)
      (fun opened whole => ∃ depth, opened.length + depth ≤ limit ∧
        ∀ part, Applies scope input whole part → Fits scope input depth part) where
  entered _ h := by
    obtain ⟨depth, hle, hfits⟩ := h
    cases depth with
    | zero => exact hfits.elim
    | succ depth =>
      refine ⟨depth, ?_, hfits⟩
      rw [List.length_cons]
      omega
  first hoperands h := by
    obtain ⟨depth, hle, hfits⟩ := h
    exact ⟨depth, hle, hfits _ (.first hoperands)⟩
  target htarget h := by
    obtain ⟨depth, hle, hfits⟩ := h
    exact ⟨depth, hle, hfits _ (.target htarget)⟩
  proceeds hproceeds h := by
    obtain ⟨depth, hle, hfits⟩ := h
    exact ⟨depth, hle, fun part happlies => hfits part (.later hproceeds happlies)⟩

/-- Where a run comes to apply a rule, fewer applications are open than fit. -/
theorem Calls.length_opened_lt {setting : Setting} {root : Rule} {st st' : ParseState}
    {cx cx' : Context} (h : Calls setting (.application root) st cx rule st' cx')
    (hidentifies : setting.scope.Identifies root) (hcx : cx.Reachable setting root st.input)
    (hbegun : Trace.opened cx.trace = []) (hfatal : cx'.fatal = none)
    (hfits : Fits setting.scope st.input depth (root, st.position)) :
    (Trace.opened cx'.trace).length < depth := by
  obtain ⟨room, hle, hroom⟩ := h.descends (.fits setting.scope root st.input depth) hidentifies
    .refl trivial rfl (hcx.trusted hidentifies) hfatal ⟨depth, by simp [hbegun], hfits⟩
  cases room with
  | zero => exact hroom.elim
  | succ room => omega

namespace Parser

/-- Whatever limits a parse with the root has, and whether it remembers outcomes: no more
than `depth` applications are open at once, and where the recursion limit leaves room for
them, a limit error says that fuel ran out. -/
structure Within (root : Rule) (scope : Scope) (input : String) (depth : Nat) : Prop where
  opened : ∀ (limits : Limits) (memoize complete : Bool) (before : List Event),
    before <+: (Parser.run ⟨root, limits, memoize⟩ scope input complete).events →
      (Trace.opened before).length ≤ depth
  recursion : ∀ (limits : Limits) (memoize complete : Bool),
    depth ≤ limits.recursionLimit.toNat → ∀ error,
      (Parser.run ⟨root, limits, memoize⟩ scope input complete).result =
        .ok (.error (.limit error)) → ∃ fuel, error = .execFuel fuel ∧ limits.execFuel = some fuel

/-- **What fits is not exceeded.** -/
theorem within_of_fits {root : Rule} (hresolves : scope.Resolves root)
    (hidentifies : scope.Identifies root) (hfits : Fits scope input depth (root, 0)) :
    Within root scope input depth := by
  constructor
  case opened =>
    intro limits memoize complete before hbefore
    obtain ⟨matched, st, cx, happly, hexec⟩ :=
      Parser.exists_run ⟨root, limits, memoize⟩ hresolves input
    rw [Parser.run_eq_of_apply _ happly] at hbefore
    refine Trace.length_opened_le (fun before rule pos hentered => ?_) hbefore
    obtain ⟨hcall, -, hfatal, rfl, -, -⟩ := hexec.occurs List.nil_prefix hentered
    exact hcall.length_opened_lt hidentifies (.start memoize) rfl hfatal hfits
  case recursion =>
    intro limits memoize complete hle error hlimit
    obtain ⟨matched, st, cx, happly, hexec⟩ :=
      Parser.exists_run ⟨root, limits, memoize⟩ hresolves input
    rw [Parser.run_eq_of_apply _ happly] at hlimit
    obtain ⟨rule, st₁, cx₁, hcall, hfatal, hmet⟩ := hexec.meets rfl (fatal_of_verdict_limit hlimit)
    have hcounted : cx₁.Counted := hcall.preserves (Counted.invariant _) (.start memoize)
    rcases hcounted.limitMet?_cases limits with ⟨error', herror, hrefuses⟩ | ⟨hnone, -⟩
    · rw [hmet] at herror
      cases herror
      cases hrefuses with
      | fuel hfuel => exact ⟨_, rfl, hfuel⟩
      | recursion _ hopened =>
        have hlt := hcall.length_opened_lt hidentifies (.start memoize) rfl hfatal hfits
        exact absurd hlt (Nat.not_lt_of_le (Nat.le_trans hle hopened))
    · rw [hmet] at hnone
      cases hnone

/-- Where the standard limits leave enough room, they are not met. -/
theorem Within.result_ne_limit {root : Rule} (h : Within root scope input depth)
    (hdepth : depth ≤ 1024) (memoize complete : Bool) (error : LimitError) :
    (Parser.run ⟨root, .standard, memoize⟩ scope input complete).result ≠
      .ok (.error (.limit error)) := by
  intro hlimit
  obtain ⟨fuel, -, hfuel⟩ := h.recursion .standard memoize complete hdepth error hlimit
  cases hfuel

end Parser

/-! ## Rules that are shallow anywhere -/

/-- Operands are nested at most `depth` deep in the rule, which counts too, and none of them
is recursive. -/
def Rule.Bounded : Nat → Rule → Prop
  | 0, _ => False
  | depth + 1, rule =>
    (∀ id key, rule ≠ .recursive id key) ∧ ∀ operand ∈ rule.operands, operand.Bounded depth

namespace Rule

variable {accepted : CharClass} {text : String}

@[simp] theorem bounded_char : (char id accepted).Bounded (depth + 1) := by
  simp [Bounded, operands]

@[simp] theorem bounded_literal : (literal id text).Bounded (depth + 1) := by
  simp [Bounded, operands]

@[simp] theorem bounded_endOfInput : (endOfInput id).Bounded (depth + 1) := by
  simp [Bounded, operands]

@[simp] theorem bounded_seq :
    (seq id rules).Bounded (depth + 1) ↔ ∀ rule ∈ rules, rule.Bounded depth := by
  simp [Bounded, operands]

@[simp] theorem bounded_choice :
    (choice id rules).Bounded (depth + 1) ↔ ∀ rule ∈ rules, rule.Bounded depth := by
  simp [Bounded, operands]

@[simp] theorem bounded_notAhead :
    (notAhead id operand).Bounded (depth + 1) ↔ operand.Bounded depth := by
  simp [Bounded, operands]

@[simp] theorem bounded_zeroOrMore :
    (zeroOrMore id operand).Bounded (depth + 1) ↔ operand.Bounded depth := by
  simp [Bounded, operands]

@[simp] theorem bounded_oneOrMore :
    (oneOrMore id operand).Bounded (depth + 1) ↔ operand.Bounded depth := by
  simp [Bounded, operands]

@[simp] theorem bounded_opt : (opt id operand).Bounded (depth + 1) ↔ operand.Bounded depth := by
  simp [Bounded, operands]

@[simp] theorem bounded_node : (node id operand).Bounded (depth + 1) ↔ operand.Bounded depth := by
  simp [Bounded, operands]

end Rule

theorem Rule.Bounded.mono (h : rule.Bounded depth) (hle : depth ≤ depth') :
    rule.Bounded depth' := by
  induction depth generalizing depth' rule with
  | zero => exact h.elim
  | succ depth ih =>
    obtain ⟨depth', rfl⟩ := Nat.exists_eq_add_of_le hle
    rw [Nat.add_right_comm] at hle ⊢
    exact ⟨h.1, fun operand hmem => ih (h.2 operand hmem) (Nat.le_add_right ..)⟩

/-- What a rule applies that is not recursive are its operands. -/
theorem Applies.mem_operands {whole part : Rule × Nat} (h : Applies scope input whole part)
    (hwhole : ∀ id key, whole.1 ≠ .recursive id key) : part.1 ∈ whole.1.operands := by
  induction h with
  | first hoperands => exact hoperands ▸ List.mem_cons_self
  | target => exact absurd rfl (hwhole _ _)
  | later hproceeds _ ih =>
    cases hproceeds with
    | seq | choice => exact List.mem_cons_of_mem _ (ih nofun)
    | zeroOrMore | oneOrMore => exact ih nofun

theorem Rule.Bounded.fits (h : rule.Bounded depth) (pos : Nat) :
    Fits scope input depth (rule, pos) := by
  induction depth generalizing rule pos with
  | zero => exact h.elim
  | succ depth ih => exact fun part happlies => ih (h.2 _ (happlies.mem_operands h.1)) part.2

/-! ## Rules in front of a text -/

/-- Wherever `ahead` is all that lies ahead, the application of the rule and those that may
be open inside it at once are `depth` at most. -/
def Nests (scope : Scope) (depth : Nat) (rule : Rule) (ahead : List Char) : Prop :=
  ∀ before, Fits scope (String.ofList (before ++ ahead)) depth (rule, utf8Length before)

variable {read rest ahead : List Char} {trees : List Tree}

theorem Rule.Bounded.nests (h : rule.Bounded depth) : Nests scope depth rule ahead :=
  fun before => h.fits (utf8Length before)

/-- What is read is what has been evaluated. -/
theorem Reads.stop_eq {before : List Char} {mid : Nat} {tokens : List Token} {wants : List Want}
    (h : Reads scope rule read rest trees)
    (heval : Evaluates scope (String.ofList (before ++ (read ++ rest))) True rule
      (utf8Length before) (some (mid, tokens)) wants) : mid = utf8Length (before ++ read) := by
  obtain ⟨tokens', hderives, -⟩ := h before
  obtain ⟨wants', heval'⟩ := hderives.evaluates
  have hsame := ((heval'.mono False.elim).det heval).1
  simp only [Option.some.injEq, Prod.mk.injEq] at hsame
  rw [← hsame.1, Text.utf8Length_append]

theorem Refuses.not_evaluates {before : List Char} {mid : Nat} {tokens : List Token}
    {wants : List Want} (h : Refuses scope rule ahead) :
    ¬Evaluates scope (String.ofList (before ++ ahead)) True rule (utf8Length before)
      (some (mid, tokens)) wants := by
  intro heval
  obtain ⟨wants', heval'⟩ := (h before).evaluates
  cases ((heval'.mono False.elim).det heval).1

/-- What the root needs in front of all input is what runs need. -/
theorem Parser.within_of_nests (hresolves : scope.Resolves rule)
    (hidentifies : scope.Identifies rule) (h : Nests scope depth rule input.toList) :
    Within rule scope input depth := by
  have hfits := h []
  rw [List.nil_append, String.ofList_toList] at hfits
  exact within_of_fits hresolves hidentifies hfits

namespace Nests

theorem mono (h : Nests scope depth rule ahead) (hle : depth ≤ depth') :
    Nests scope depth' rule ahead :=
  fun before => (h before).mono hle

/-- A sequence whose first part is read goes on behind it. -/
theorem seq_cons (hreads : Reads scope rule read rest trees)
    (h : Nests scope depth rule (read ++ rest)) (h' : Nests scope (depth + 1) (.seq id rules) rest) :
    Nests scope (depth + 1) (.seq id (rule :: rules)) (read ++ rest) := by
  intro before part happlies
  cases happlies with
  | first hoperands =>
    cases hoperands
    exact h before
  | later hproceeds hpart =>
    cases hproceeds with
    | seq heval =>
      obtain rfl := hreads.stop_eq heval
      rw [← List.append_assoc] at hpart ⊢
      exact h' (before ++ read) part hpart

theorem seq_failed (hrefuses : Refuses scope rule ahead) (h : Nests scope depth rule ahead) :
    Nests scope (depth + 1) (.seq id (rule :: rules)) ahead := by
  intro before part happlies
  cases happlies with
  | first hoperands =>
    cases hoperands
    exact h before
  | later hproceeds =>
    cases hproceeds with
    | seq heval => exact absurd heval hrefuses.not_evaluates

theorem seq_singleton (h : Nests scope depth rule ahead) :
    Nests scope (depth + 1) (.seq id [rule]) ahead := by
  intro before part happlies
  cases happlies with
  | first hoperands =>
    cases hoperands
    exact h before
  | later hproceeds hpart =>
    cases hproceeds with
    | seq =>
      cases hpart with
      | first hoperands => cases hoperands
      | later hproceeds => cases hproceeds

theorem choice (h : ∀ rule ∈ rules, Nests scope depth rule ahead) :
    Nests scope (depth + 1) (.choice id rules) ahead := by
  intro before part happlies
  generalize hwhole : ((.choice id rules, utf8Length before) : Rule × Nat) = whole at happlies
  induction happlies generalizing rules with
  | first hoperands =>
    cases hwhole
    cases hoperands
    exact h _ List.mem_cons_self before
  | target => cases hwhole
  | later hproceeds _ ih =>
    cases hwhole
    cases hproceeds with
    | choice => exact ih (fun rule hmem => h rule (List.mem_cons_of_mem _ hmem)) rfl

/-- A rule with one operand that does not go on behind it. -/
theorem of_operands {rule : Rule} (hoperands : rule.operands = [operand])
    (hends : ∀ before whole,
      ¬Proceeds scope (String.ofList (before ++ ahead)) (rule, utf8Length before) whole)
    (h : Nests scope depth operand ahead) : Nests scope (depth + 1) rule ahead := by
  intro before part happlies
  cases happlies with
  | first hfirst =>
    rw [hoperands] at hfirst
    cases hfirst
    exact h before
  | target => cases hoperands
  | later hproceeds => exact absurd hproceeds (hends before _)

theorem node (h : Nests scope depth operand ahead) :
    Nests scope (depth + 1) (.node id operand) ahead :=
  .of_operands rfl (fun _ _ => nofun) h

theorem opt (h : Nests scope depth operand ahead) :
    Nests scope (depth + 1) (.opt id operand) ahead :=
  .of_operands rfl (fun _ _ => nofun) h

theorem zeroOrMore_ended (hrefuses : Refuses scope operand ahead)
    (h : Nests scope depth operand ahead) :
    Nests scope (depth + 1) (.zeroOrMore id operand) ahead := by
  refine .of_operands rfl (fun before whole hproceeds => ?_) h
  cases hproceeds with
  | zeroOrMore heval => exact hrefuses.not_evaluates heval

theorem zeroOrMore_next (hreads : Reads scope operand read rest trees)
    (h : Nests scope depth operand (read ++ rest))
    (h' : Nests scope (depth + 1) (.zeroOrMore id operand) rest) :
    Nests scope (depth + 1) (.zeroOrMore id operand) (read ++ rest) := by
  intro before part happlies
  cases happlies with
  | first hoperands =>
    cases hoperands
    exact h before
  | later hproceeds hpart =>
    cases hproceeds with
    | zeroOrMore heval =>
      obtain rfl := hreads.stop_eq heval
      rw [← List.append_assoc] at hpart ⊢
      exact h' (before ++ read) part hpart

theorem recursive {key : String} {target : Rule} (htarget : scope.target id key = some target)
    (h : Nests scope depth target ahead) : Nests scope (depth + 1) (.recursive id key) ahead := by
  intro before part happlies
  cases happlies with
  | first hoperands => cases hoperands
  | target htarget' =>
    rw [htarget] at htarget'
    cases htarget'
    exact h before
  | later hproceeds => cases hproceeds

end Nests

/-! ## Lexical rules -/

namespace Lexical

open Builder

variable {made : Rule} {text : String}

theorem bounded_blanks (h : blanks.Makes rule) : rule.Bounded 2 := by
  obtain ⟨id, id', rfl⟩ := makes_blanks h
  simp

theorem bounded_lexeme (h : (lexeme rule).Makes made) (hrule : rule.Bounded (depth + 2)) :
    made.Bounded (depth + 3) := by
  obtain ⟨id, blanks, hblanks, rfl⟩ := makes_lexeme h
  have hle : 2 ≤ depth + 2 := Nat.le_add_left ..
  simp [hrule, (bounded_blanks hblanks).mono hle]

theorem bounded_symbol (h : (symbol text).Makes made) : made.Bounded 3 := by
  obtain ⟨mark, hmark, h⟩ := h.bind
  obtain ⟨id, rfl⟩ := makes_literal hmark
  exact bounded_lexeme h Rule.bounded_literal

/-- A lexeme needs what its rule needs, and the application around that. -/
theorem nests_lexeme (h : (lexeme rule).Makes made) (hreads : Reads scope rule read rest trees)
    (hrule : Nests scope (depth + 2) rule (read ++ rest)) :
    Nests scope (depth + 3) made (read ++ rest) := by
  obtain ⟨id, blanks, hblanks, rfl⟩ := makes_lexeme h
  have hbounded : blanks.Bounded (depth + 2) := (bounded_blanks hblanks).mono (Nat.le_add_left ..)
  exact .seq_cons hreads hrule (.seq_singleton hbounded.nests)

theorem nests_lexeme_failed (h : (lexeme rule).Makes made) (hrefuses : Refuses scope rule ahead)
    (hrule : Nests scope depth rule ahead) : Nests scope (depth + 1) made ahead := by
  obtain ⟨id, blanks, -, rfl⟩ := makes_lexeme h
  exact .seq_failed hrefuses hrule

theorem bounded_digits (h : digits.Makes rule) : rule.Bounded 2 := by
  obtain ⟨id, id', rfl⟩ := makes_digits h
  simp

theorem bounded_integer (h : integer.Makes rule) : rule.Bounded 3 := by
  obtain ⟨id, digits, id', id'', hdigits, rfl⟩ := makes_integer h
  simp [bounded_digits hdigits]

theorem bounded_exponent (h : exponent.Makes rule) : rule.Bounded 3 := by
  obtain ⟨id, id', id'', sign, digits, hdigits, rfl⟩ := makes_exponent h
  simp [bounded_digits hdigits]

theorem IsFraction.bounded (h : IsFraction rule) : rule.Bounded 5 := by
  obtain ⟨id, point, perhaps, digits, exponent, hdigits, hexponent, rfl⟩ := h
  simp [(bounded_digits hdigits).mono (show 2 ≤ 4 by decide), bounded_exponent hexponent]

theorem bounded_float (h : float.Makes rule) : rule.Bounded 7 := by
  obtain ⟨id, id', whole, fraction, exponent, hwhole, hfraction, hexponent, rfl⟩ := makes_float h
  simp [(bounded_digits hwhole).mono (show 2 ≤ 6 by decide), hfraction.bounded,
    (bounded_exponent hexponent).mono (show 3 ≤ 5 by decide)]

theorem bounded_word (h : (word text).Makes rule) : rule.Bounded 3 := by
  obtain ⟨id, mark, guard, alphanumeric, halphanumeric, rfl⟩ := makes_word h
  obtain ⟨id', rfl⟩ := makes_satisfy halphanumeric
  simp

theorem bounded_escape (h : escape.Makes rule) : rule.Bounded 4 := by
  obtain ⟨id, id', id'', simple, code, letter, digits, -, hdigits, rfl⟩ := makes_escape h
  have hchar : ∀ digit ∈ digits, digit.Bounded 1 := by
    intro digit hmem
    obtain ⟨id', rfl⟩ := makes_satisfy (hdigits digit hmem)
    exact Rule.bounded_char
  simpa using hchar

theorem bounded_quotedString {quote : Char} (h : (quotedString quote).Makes rule) :
    rule.Bounded 7 := by
  obtain ⟨id, opening, body, unit, closing, ⟨id', escape, plain, hescape, rfl⟩, rfl⟩ :=
    makes_quotedString h
  simp [bounded_escape hescape]

end Lexical

end Packrat
