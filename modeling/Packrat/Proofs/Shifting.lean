import Packrat.Proofs.Completion
import Packrat.Proofs.Reading

/-!
# Text in front

Without regular expressions, a rule sees of its input only what lies ahead: an expression
may ask for the character before it, nothing else does. So a text put in front of the input
moves all that happens behind it, and changes nothing.

- `Token.shift u`, `Outcome.shift u`, `Want.shift u`, `Failure.shift u`: what is said of an
  input, said of the input with `u` in front of it.
- `Scope.RegexFree`: no regular expression is used below the rule.
- `Evaluates.shift`: **evaluations are shifted as a whole**, with what is wanted on the way.
- `Parser.run_shifted`: reading a text and then a rule finds what the rule alone finds behind
  the text, and fails as it does.
-/

namespace Packrat

open Text (utf8Length dropBytes? slice?)

/-! ## Offsets -/

namespace Text

/-- Behind a leading part, offsets are counted from where it ends. -/
theorem dropBytes?_shift (front cs : List Char) (n : Nat) :
    dropBytes? (utf8Length front + n) (front ++ cs) = dropBytes? n cs := by
  ext rest
  rw [dropBytes?_eq_some_iff, dropBytes?_eq_some_iff]
  constructor
  · rintro ⟨before, heq, hlen⟩
    rcases List.append_eq_append_iff.1 heq with ⟨more, rfl, rfl⟩ | ⟨more, rfl, rfl⟩
    · rw [utf8Length_append] at hlen
      exact ⟨more, rfl, Nat.add_left_cancel hlen⟩
    · -- what is left of the leading part has no bytes
      rw [utf8Length_append] at hlen
      have hnone : utf8Length more = 0 := by omega
      obtain rfl := utf8Length_eq_zero.1 hnone
      exact ⟨[], by simp, by simp at hlen ⊢; omega⟩
  · rintro ⟨before, rfl, rfl⟩
    exact ⟨front ++ before, (List.append_assoc ..).symm, utf8Length_append ..⟩

/-- A slice is what comes next at its start, as far as it goes. -/
theorem slice?_eq_some_iff_dropBytes? {start stop : Nat} {s t : String} :
    slice? start stop s = some t ↔ start + t.utf8ByteSize = stop ∧
      ∃ after, dropBytes? start s.toList = some (t.toList ++ after) := by
  simp only [slice?_eq_some_iff, dropBytes?_eq_some_iff]
  constructor
  · rintro ⟨before, after, rfl, rfl, hstop⟩
    exact ⟨hstop, after.toList, before.toList, by simp, utf8Length_toList before⟩
  · rintro ⟨hstop, after, before, heq, hlen⟩
    refine ⟨String.ofList before, String.ofList after, ?_, ?_, hstop⟩
    · rw [← String.toList_inj]
      simpa using heq
    · rw [← utf8Length_toList]
      simpa using hlen

theorem slice?_shift (front s : String) (start stop : Nat) :
    slice? (front.utf8ByteSize + start) (front.utf8ByteSize + stop) (front ++ s) =
      slice? start stop s := by
  ext t
  rw [slice?_eq_some_iff_dropBytes?, slice?_eq_some_iff_dropBytes?, String.toList_append,
    ← utf8Length_toList front]
  simp only [dropBytes?_shift, Nat.add_assoc, Nat.add_left_cancel_iff]

end Text

/-! ## Tokens, outcomes and wants -/

namespace Token

mutual

/-- The token, with `front` in front of its source. -/
def shift (front : String) : Token → Token
  | ⟨name, source, span, children⟩ =>
    ⟨name, front ++ source, ⟨front.utf8ByteSize + span.start, front.utf8ByteSize + span.stop⟩,
      shiftAll front children⟩

/-- The tokens, with `front` in front of their source. -/
def shiftAll (front : String) : List Token → List Token
  | [] => []
  | token :: rest => shift front token :: shiftAll front rest

end

variable {front : String}

@[simp] theorem shiftAll_nil : shiftAll front [] = [] := rfl

@[simp] theorem shiftAll_cons (token : Token) (rest : List Token) :
    shiftAll front (token :: rest) = shift front token :: shiftAll front rest := rfl

@[simp] theorem shiftAll_append (tokens rest : List Token) :
    shiftAll front (tokens ++ rest) = shiftAll front tokens ++ shiftAll front rest := by
  induction tokens with
  | nil => rfl
  | cons token tokens ih => simp [ih]

mutual

/-- A token that is shifted has captured the same. -/
theorem tree_shift (front : String) : ∀ token : Token, (token.shift front).tree = token.tree
  | ⟨name, source, span, children⟩ => by
    have htext : Token.text ⟨name, front ++ source,
        ⟨front.utf8ByteSize + span.start, front.utf8ByteSize + span.stop⟩, []⟩ =
          Token.text ⟨name, source, span, []⟩ :=
      congrArg (·.getD "") (Text.slice?_shift front source span.start span.stop)
    rw [shift, tree, tree, htext, trees_shiftAll front children]

/-- Tokens that are shifted have captured the same. -/
theorem trees_shiftAll (front : String) :
    ∀ tokens : List Token, trees (shiftAll front tokens) = trees tokens
  | [] => rfl
  | token :: rest => by
    rw [shiftAll, trees, trees, tree_shift front token, trees_shiftAll front rest]

end

end Token

/-- The outcome, with `front` in front of the input. -/
def Outcome.shift (front : String) (outcome : Outcome) : Outcome :=
  outcome.map fun (stop, tokens) => (front.utf8ByteSize + stop, Token.shiftAll front tokens)

/-- The want, with `front` in front of the input. -/
def Want.shift (front : String) (want : Want) : Want := (front.utf8ByteSize + want.1, want.2)

/-- The record, with `front` in front of the input. -/
def Failure.shift (front : String) (f : Failure) : Failure :=
  ⟨front.utf8ByteSize + f.furthest, f.expected⟩

variable {scope : Scope} {front input : String} {stalls : Prop} {rule part : Rule} {pos : Nat}
  {outcome : Outcome} {wants : List Want}

theorem Outcome.shift_after (outcome : Outcome) (tokens : List Token) :
    (outcome.after tokens).shift front =
      (outcome.shift front).after (Token.shiftAll front tokens) := by
  cases outcome with
  | none => rfl
  | some found => simp [Outcome.shift, Outcome.after]

namespace Failure

theorem note_shift (f : Failure) (want : Want) :
    (f.shift front).note (want.shift front) = (f.note want).shift front := by
  unfold note shift Want.shift
  dsimp only
  by_cases hnear : want.1 < f.furthest
  · rw [if_pos hnear, if_pos (Nat.add_lt_add_left hnear _)]
  · by_cases hfar : f.furthest < want.1
    · have hle : ¬front.utf8ByteSize + want.1 < front.utf8ByteSize + f.furthest := by omega
      rw [if_neg hnear, if_pos hfar, if_neg hle, if_pos (Nat.add_lt_add_left hfar _)]
    · have hle : ¬front.utf8ByteSize + want.1 < front.utf8ByteSize + f.furthest := by omega
      have hge : ¬front.utf8ByteSize + f.furthest < front.utf8ByteSize + want.1 := by omega
      rw [if_neg hnear, if_neg hfar, if_neg hle, if_neg hge]
      split <;> rfl

theorem noteAll_shift (f : Failure) (wants : List Want) :
    (f.shift front).noteAll (wants.map (Want.shift front)) = (f.noteAll wants).shift front := by
  induction wants generalizing f with
  | nil => rfl
  | cons want rest ih => rw [List.map_cons, noteAll_cons, noteAll_cons, note_shift, ih]

/-- A record that begins with a want is shifted with its wants: what it says first, at the
start of the input, the first want takes away. -/
theorem noteAll_blank_shift (hwants : wants ≠ []) :
    blank.noteAll (wants.map (Want.shift front)) = (blank.noteAll wants).shift front := by
  cases wants with
  | nil => exact absurd rfl hwants
  | cons want rest =>
    have hfirst : blank.note (want.shift front) = (blank.note want).shift front := by
      rw [note_blank, note_blank]
      rfl
    rw [List.map_cons, noteAll_cons, noteAll_cons, hfirst, noteAll_shift]

end Failure

/-! ## Rules that look ahead only -/

/-- No regular expression is used below the rule. -/
def Scope.RegexFree (scope : Scope) (rule : Rule) : Prop :=
  ∀ id expression, ¬rule.Reaches scope (.regex id expression)

namespace Scope.RegexFree

theorem ne_regex (h : scope.RegexFree rule) (id : RuleId) (expression : Regex) :
    rule ≠ .regex id expression := by
  rintro rfl
  exact h id expression .refl

theorem below (h : scope.RegexFree rule) (hpart : rule.Reaches scope part) :
    scope.RegexFree part :=
  fun id expression hregex => h id expression (hpart.trans hregex)

theorem operand (h : scope.RegexFree rule) (hmem : part ∈ rule.operands) :
    scope.RegexFree part :=
  h.below (Rule.Reaches.refl.operand hmem)

/-- What has some of the operands of a rule and is neither a regular expression nor a
reference uses no other rules. -/
theorem of_operands (h : scope.RegexFree rule) (hsubset : part.operands ⊆ rule.operands)
    (hpart : ∀ id key, part ≠ .recursive id key)
    (hregex : ∀ id expression, part ≠ .regex id expression) : scope.RegexFree part := by
  intro id expression hreaches
  rcases hreaches.of_operands hsubset hpart with heq | hbelow
  · exact hregex id expression heq.symm
  · exact h id expression hbelow

end Scope.RegexFree

namespace Rule

/-- Only a regular expression looks at what is behind. -/
theorem reads?_previous (h : ∀ id expression, rule ≠ .regex id expression)
    (previous? previous?' : Option Char) (rest : List Char) :
    rule.reads? previous? rest = rule.reads? previous?' rest := by
  cases rule with
  | regex id expression => exact absurd rfl (h id expression)
  | _ => rfl

/-- What a primitive reads is what it reads behind another text. -/
theorem readsAt?_shift (h : ∀ id expression, rule ≠ .regex id expression) (front input : String)
    (pos : Nat) :
    rule.readsAt? (front ++ input) (front.utf8ByteSize + pos) = rule.readsAt? input pos := by
  unfold readsAt?
  rw [String.toList_append, ← Text.utf8Length_toList front, Text.dropBytes?_shift]
  congr 1
  funext rest
  exact reads?_previous h _ _ rest

end Rule

/-! ## Evaluations -/

/-- **Evaluations are shifted as a whole.** Positions are compared with one another only, so
that an offset common to all of them makes no difference. -/
theorem Evaluates.shift (h : Evaluates scope input stalls rule pos outcome wants)
    (hfree : scope.RegexFree rule) (front : String) :
    Evaluates scope (front ++ input) stalls rule (front.utf8ByteSize + pos) (outcome.shift front)
      (wants.map (Want.shift front)) := by
  induction h with
  | @read rule pos n hprimitive hread =>
    show Evaluates _ _ _ _ _ (some (front.utf8ByteSize + (pos + n), [])) []
    rw [← Nat.add_assoc]
    exact .read hprimitive (by rw [Rule.readsAt?_shift hfree.ne_regex, hread])
  | @unread rule pos hprimitive hread =>
    exact .unread hprimitive (by rw [Rule.readsAt?_shift hfree.ne_regex, hread])
  | seq_nil => exact .seq_nil
  | choice_nil => exact .choice_nil
  | seq_failed _ ih => exact .seq_failed (ih (hfree.operand List.mem_cons_self))
  | seq_next _ _ ih ih' =>
    rw [Outcome.shift_after, List.map_append]
    exact .seq_next (ih (hfree.operand List.mem_cons_self))
      (ih' (hfree.of_operands (List.subset_cons_self _ _) nofun nofun))
  | choice_first _ ih => exact .choice_first (ih (hfree.operand List.mem_cons_self))
  | choice_next _ _ ih ih' =>
    rw [List.map_append]
    exact .choice_next (ih (hfree.operand List.mem_cons_self))
      (ih' (hfree.of_operands (List.subset_cons_self _ _) nofun nofun))
  | notAhead_failed _ ih => exact .notAhead_failed (ih (hfree.operand List.mem_cons_self))
  | notAhead_matched _ ih => exact .notAhead_matched (ih (hfree.operand List.mem_cons_self))
  | ahead_failed _ ih => exact .ahead_failed (ih (hfree.operand List.mem_cons_self))
  | ahead_matched _ ih => exact .ahead_matched (ih (hfree.operand List.mem_cons_self))
  | zeroOrMore_ended _ ih => exact .zeroOrMore_ended (ih (hfree.operand List.mem_cons_self))
  | zeroOrMore_next _ hlt _ ih ih' =>
    rw [Outcome.shift_after, List.map_append]
    exact .zeroOrMore_next (ih (hfree.operand List.mem_cons_self)) (Nat.add_lt_add_left hlt _)
      (ih' hfree)
  | zeroOrMore_stalled hstalls _ hnot ih =>
    exact .zeroOrMore_stalled hstalls (ih (hfree.operand List.mem_cons_self)) (by omega)
  | oneOrMore_failed _ ih => exact .oneOrMore_failed (ih (hfree.operand List.mem_cons_self))
  | oneOrMore_next _ hlt _ ih ih' =>
    rw [Outcome.shift_after, List.map_append]
    exact .oneOrMore_next (ih (hfree.operand List.mem_cons_self)) (Nat.add_lt_add_left hlt _)
      (ih' (hfree.of_operands (List.Subset.refl _) nofun nofun))
  | oneOrMore_stalled hstalls _ hnot ih =>
    exact .oneOrMore_stalled hstalls (ih (hfree.operand List.mem_cons_self)) (by omega)
  | opt_taken _ ih => exact .opt_taken (ih (hfree.operand List.mem_cons_self))
  | opt_left _ ih => exact .opt_left (ih (hfree.operand List.mem_cons_self))
  | node_failed _ ih => exact .node_failed (ih (hfree.operand List.mem_cons_self))
  | node_matched _ ih => exact .node_matched (ih (hfree.operand List.mem_cons_self))
  | recursive htarget _ ih =>
    exact .recursive htarget (ih (hfree.below (Rule.Reaches.refl.target htarget)))

/-- Behind the text that a sequence begins with, its second rule does what it does alone. -/
theorem Evaluates.behind_literal {id id' : RuleId}
    (h : Evaluates scope input stalls rule 0 outcome wants) (hfree : scope.RegexFree rule)
    (front : String) :
    Evaluates scope (front ++ input) stalls (.seq id [.literal id' front, rule]) 0
      (outcome.shift front) (wants.map (Want.shift front)) := by
  have hread : (Rule.literal id' front).readsAt? (front ++ input) 0 =
      some front.utf8ByteSize := by
    simp [Rule.readsAt?, Rule.reads?, List.isPrefixOf_iff_prefix]
  have hliteral : Evaluates scope (front ++ input) stalls (.literal id' front) 0
      (some (0 + front.utf8ByteSize, [])) [] := .read rfl hread
  rw [Nat.zero_add] at hliteral
  refine seq_pair_iff.2 (.inr ⟨_, _, _, _, _, hliteral, h.shift hfree front, ?_, rfl⟩)
  exact (Outcome.after_nil _).symm

/-! ## Runs -/

namespace Parser

/-- A run that meets no limit is one application of its root, which does what the root
evaluates to. -/
theorem exists_parse (p : Parser) (hresolves : scope.Resolves p.root)
    (hidentifies : scope.Identifies p.root)
    (hlimit : ∀ error, (p.parse scope input).result ≠ .ok (.error (.limit error))) :
    ∃ matched st cx outcome wants,
      apply (p.setting scope) p.limits.recursionLimit.toNat p.root (.start input)
          (.start p.memoize) = .ok (matched, st) cx ∧
        Evaluates scope input True p.root 0 outcome wants ∧
          outcome.Realized (.start input) matched st ∧
            (p.parse scope input).result =
              .ok (finding scope p.root input false wants outcome) := by
  obtain ⟨outcome, wants, heval, -, hfound⟩ := p.run_eq_finding hresolves hidentifies hlimit
  have happlicable : Applicable (p.setting scope) p.root p.limits.recursionLimit.toNat p.root
      (.start input) (.start p.memoize) :=
    ⟨hresolves, hidentifies, .refl, .start p.memoize, Nat.le_add_right _ _⟩
  obtain ⟨matched, st, cx, happly, -, -, hmeans⟩ := happlicable.exists_apply
  have hfatal : cx.fatal = none := by
    rw [parse, p.run_eq_of_apply happly] at hlimit
    exact fatal_eq_none_of_verdict hlimit
  obtain ⟨outcome', wants', heval', hreal, -⟩ := hmeans rfl hfatal
  obtain ⟨rfl, rfl⟩ := heval.det heval'
  exact ⟨matched, st, cx, outcome, wants, happly, heval, hreal, hfound false⟩

/-- **Matching depends on what lies ahead.** Where no regular expression is used and no limit
is met, reading a text and then a rule succeeds behind that text just if the rule succeeds
without it. It ends as many bytes later as the text has, and emits the same tokens, shifted by
as many bytes. Where both fail they expect the same, at offsets that differ by as much. -/
theorem run_shifted {p q : Parser} {id id' : RuleId} {front input : String}
    (hroot : q.root = .seq id [.literal id' front, p.root]) (hresolves : scope.Resolves q.root)
    (hidentifies : scope.Identifies q.root) (hoffers : scope.Offers p.root)
    (hfree : scope.RegexFree p.root)
    (hp : ∀ error, (p.parse scope input).result ≠ .ok (.error (.limit error)))
    (hq : ∀ error, (q.parse scope (front ++ input)).result ≠ .ok (.error (.limit error))) :
    ∃ matched st cx st' cx',
      apply (p.setting scope) p.limits.recursionLimit.toNat p.root (.start input)
          (.start p.memoize) = .ok (matched, st) cx ∧
      apply (q.setting scope) q.limits.recursionLimit.toNat q.root (.start (front ++ input))
          (.start q.memoize) = .ok (matched, st') cx' ∧
      (matched = true →
        st'.position = front.utf8ByteSize + st.position ∧
        st'.emitted.toList = Token.shiftAll front st.emitted.toList ∧
        Token.trees st'.emitted.toList = Token.trees st.emitted.toList ∧
        (p.parse scope input).result = .ok (.ok (rootOver
          ((scope.name p.root.id).getD unnamedRoot) input st.position st.emitted.toList)) ∧
        (q.parse scope (front ++ input)).result = .ok (.ok (rootOver
          ((scope.name id).getD unnamedRoot) (front ++ input) st'.position
            st'.emitted.toList))) ∧
      (matched = false → ∃ failure,
        (p.parse scope input).result = .ok (.error (.noMatch failure)) ∧
        (q.parse scope (front ++ input)).result = .ok (.error (.noMatch
          ⟨front.utf8ByteSize + failure.furthest, failure.expected⟩))) := by
  have hbelow : q.root.Reaches scope p.root := by
    rw [hroot]
    exact Rule.Reaches.refl.operand (List.mem_cons_of_mem _ (List.mem_singleton_self _))
  obtain ⟨matched, st, cx, outcome, wants, happly, heval, hreal, hresult⟩ := p.exists_parse
    (fun id key h => hresolves id key (hbelow.trans h))
    (fun _ _ h h' => hidentifies _ _ (hbelow.trans h) (hbelow.trans h')) hp
  obtain ⟨matched', st', cx', outcome', wants', happly', heval', hreal', hresult'⟩ :=
    q.exists_parse hresolves hidentifies hq
  rw [hroot] at heval'
  obtain ⟨rfl, rfl⟩ := heval'.det (heval.behind_literal hfree front)
  cases hreal with
  | failed =>
    obtain rfl : matched' = false := by
      cases hreal'
      rfl
    refine ⟨false, st, cx, st', cx', happly, happly', nofun, fun _ => ⟨_, hresult, ?_⟩⟩
    rw [hresult']
    have hrecord : Failure.blank.noteAll (wants.map (Want.shift front)) =
        (Failure.blank.noteAll wants).shift front :=
      Failure.noteAll_blank_shift (heval.wants_ne_nil hoffers rfl)
    show Except.ok (Except.error (ParseError.noMatch (Failure.blank.noteAll _))) = _
    rw [hrecord]
    rfl
  | @matched tokens _ hext =>
    obtain ⟨rfl, hstop, hext'⟩ := hreal'.of_some
    have hlog : st.emitted.toList = tokens := hext.toList_eq rfl
    have hlog' : st'.emitted.toList = Token.shiftAll front tokens := hext'.toList_eq rfl
    refine ⟨true, st, cx, st', cx', happly, happly', fun _ => ⟨hstop, ?_, ?_, ?_, ?_⟩, nofun⟩
    · rw [hlog', hlog]
    · rw [hlog', hlog, Token.trees_shiftAll]
    · rw [hresult, hlog]
      rfl
    · rw [hresult', hlog', hstop, hroot]
      rfl

/-! ## Quotations behind a mark -/

/-- A run that reports a failure met no limit. -/
theorem Report.result_ne_limit_of_noMatch? {report : Report} (h : report.noMatch?.isSome = true)
    (error : LimitError) : report.result ≠ .ok (.error (.limit error)) := by
  intro heq
  rw [noMatch?, heq] at h
  cases h

/-- A mark of two bytes, and a text. -/
def markedText : Rule := .seq 10 [.literal 11 "§", Quotation.text]

theorem closes_markedText :
    Quotation.scope.Closes (markedText :: .literal 11 "§" :: Quotation.rules) where
  operand_mem := by
    simp [markedText, Quotation.rules, Quotation.text, Quotation.quoted, Quotation.dotted,
      Quotation.letter, Rule.operands]
  target_mem := by
    intro id key target _ htarget
    obtain ⟨-, htext⟩ := Option.ite_none_right_eq_some.1 htarget
    cases htext
    exact List.mem_cons_of_mem _ (List.mem_cons_of_mem _ List.mem_cons_self)

theorem resolves_markedText : Quotation.scope.Resolves markedText :=
  closes_markedText.resolves List.mem_cons_self (by
    simp [markedText, Quotation.rules, Quotation.text, Quotation.quoted, Quotation.dotted,
      Quotation.letter, Quotation.scope])

theorem identifies_markedText : Quotation.scope.Identifies markedText :=
  closes_markedText.identifies List.mem_cons_self (by decide)

theorem offers_text : Quotation.scope.Offers Quotation.text := by
  intro id hreaches
  have hmem := Quotation.closes.mem_of_reaches List.mem_cons_self hreaches
  simp [Quotation.rules, Quotation.text, Quotation.quoted, Quotation.dotted,
    Quotation.letter] at hmem

theorem regexFree_text : Quotation.scope.RegexFree Quotation.text := by
  intro id expression hreaches
  have hmem := Quotation.closes.mem_of_reaches List.mem_cons_self hreaches
  simp [Quotation.rules, Quotation.text, Quotation.quoted, Quotation.dotted,
    Quotation.letter] at hmem

/-- Behind the mark a quotation is found two bytes later, with the same tokens. Where it is
not closed, what is missing is missing two bytes later. -/
theorem run_shifted_quotation :
    (∃ st cx st' cx',
      apply ((ofRule Quotation.text).setting Quotation.scope) 1024 Quotation.text (.start "«é»")
          (.start false) = .ok (true, st) cx ∧
        apply ((ofRule markedText).setting Quotation.scope) 1024 markedText
            (.start ("§" ++ "«é»")) (.start false) = .ok (true, st') cx' ∧
          st'.position = 2 + st.position ∧
            Token.trees st'.emitted.toList = Token.trees st.emitted.toList) ∧
      ((ofRule markedText).parse Quotation.scope ("§" ++ "«é")).result =
        .ok (.error (.noMatch ⟨6, ["'…'", "'»'"]⟩)) := by
  have hroot : (ofRule markedText).root =
      .seq 10 [.literal 11 "§", (ofRule Quotation.text).root] := rfl
  constructor
  · have hfound : ((ofRule Quotation.text).parse Quotation.scope "«é»").token?.isSome = true := by
      decide +kernel
    have hfound' : ((ofRule markedText).parse Quotation.scope
        ("§" ++ "«é»")).token?.isSome = true := by decide +kernel
    obtain ⟨matched, st, cx, st', cx', happly, happly', hmatched, hfailed⟩ :=
      run_shifted hroot resolves_markedText identifies_markedText offers_text regexFree_text
        (Report.result_ne_limit hfound) (Report.result_ne_limit hfound')
    cases matched with
    | false =>
      obtain ⟨failure, hresult, -⟩ := hfailed rfl
      rw [Report.token?, hresult] at hfound
      cases hfound
    | true =>
      obtain ⟨hstop, -, htrees, -⟩ := hmatched rfl
      exact ⟨st, cx, st', cx', happly, happly', hstop, htrees⟩
  · have hnone : ((ofRule Quotation.text).parse Quotation.scope "«é").noMatch? =
        some ⟨4, ["'…'", "'»'"]⟩ := by decide +kernel
    have hnone' : ((ofRule markedText).parse Quotation.scope
        ("§" ++ "«é")).noMatch?.isSome = true := by decide +kernel
    have hsome := Option.isSome_of_eq_some hnone
    obtain ⟨matched, st, cx, st', cx', -, -, hmatched, hfailed⟩ :=
      run_shifted hroot resolves_markedText identifies_markedText offers_text regexFree_text
        (Report.result_ne_limit_of_noMatch? hsome) (Report.result_ne_limit_of_noMatch? hnone')
    have hresult := Report.result_of_noMatch? hnone
    cases matched with
    | false =>
      obtain ⟨failure, hfailure, hshifted⟩ := hfailed rfl
      rw [hresult] at hfailure
      cases hfailure
      exact hshifted
    | true =>
      obtain ⟨-, -, -, hfound, -⟩ := hmatched rfl
      rw [hresult] at hfound
      cases hfound

end Parser

end Packrat
