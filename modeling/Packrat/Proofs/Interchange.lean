import Packrat.Proofs.Correctness
import Packrat.Proofs.Diagnosis
import Packrat.Proofs.Legibility

/-!
# Rules with the same text

Plain rules that are written alike are interchangeable, because what the notation leaves
out has no influence on outcomes.

- `Rule.Anonymous scope rule`: nothing below the rule has a name or stands for a rule
  elsewhere. What such a rule evaluates to does not depend on the scope.
- `Evaluates.normal`: **the normal form of a rule comes out as the rule does.**
- `Rule.Plain.outcome_eq`: plain rules with one text have one outcome, everywhere.
- `Parser.run_of_display_eq`: runs of such rules end alike, up to limits.
- `Rule.display_hidden`, `Rule.outcomes_hidden`: where a repetition has an operand that
  hides a lookahead, the text is that of another rule, and the two never agree.
-/

namespace Packrat

/-! ## Anonymous rules -/

namespace Rule

variable {scope : Scope} {rule part : Rule}

/-- Nothing below the rule has a name or stands for a rule elsewhere. -/
structure Anonymous (scope : Scope) (root : Rule) : Prop where
  unnamed : ∀ rule, root.Reaches scope rule → scope.name rule.id = none
  direct : ∀ id key, ¬root.Reaches scope (.recursive id key)

theorem Plain.anonymous (h : rule.Plain scope) : rule.Anonymous scope where
  unnamed := h.unnamed
  direct id key hbelow := by cases h.explicit _ hbelow

theorem Anonymous.operand (h : rule.Anonymous scope) (hmem : part ∈ rule.operands) :
    part.Anonymous scope where
  unnamed below hbelow := h.unnamed below ((Reaches.refl.operand hmem).trans hbelow)
  direct id key hbelow := h.direct id key ((Reaches.refl.operand hmem).trans hbelow)

/-- With the identity and some of the operands of an anonymous rule, a rule is anonymous. -/
theorem Anonymous.of_operands (h : rule.Anonymous scope) (hsubset : part.operands ⊆ rule.operands)
    (hid : part.id = rule.id) (hpart : ∀ id key, part ≠ .recursive id key) :
    part.Anonymous scope where
  unnamed below hbelow := by
    rcases hbelow.of_operands hsubset hpart with rfl | hbelow
    · rw [hid]
      exact h.unnamed rule .refl
    · exact h.unnamed below hbelow
  direct id key hbelow := by
    rcases hbelow.of_operands hsubset hpart with heq | hbelow
    · exact hpart id key heq.symm
    · exact h.direct id key hbelow

theorem Anonymous.resolves (h : rule.Anonymous scope) : scope.Resolves rule :=
  fun id key hbelow => absurd hbelow (h.direct id key)

end Rule

/-- Where all is in a closed list, the list is looked through. -/
theorem Scope.Closes.plain {scope : Scope} {rules : List Rule} {root : Rule}
    (h : scope.Closes rules) (hroot : root ∈ rules)
    (hunnamed : ∀ rule ∈ rules, scope.name rule.id = none)
    (hexplicit : ∀ rule ∈ rules, rule.isExplicit = true)
    (hbound : ∀ rule ∈ rules, ∀ operand, rule.repeats? = some operand →
      ¬operand.HidesLookahead) : root.Plain scope where
  unnamed rule hrule := hunnamed rule (h.mem_of_reaches hroot hrule)
  explicit rule hrule := hexplicit rule (h.mem_of_reaches hroot hrule)
  bound rule operand hrule := hbound rule (h.mem_of_reaches hroot hrule) operand

/-! ## Normal forms come out as their rules -/

variable {scope scope' : Scope} {input : String} {stalls : Prop} {rule rule' : Rule}
  {rules : List Rule} {pos : Nat} {outcome outcome' : Outcome} {wants wants' : List Want}

namespace Evaluates

/-- A sequence of one rule comes out as the rule does. -/
theorem seq_singleton_iff {id : RuleId} :
    Evaluates scope input stalls (.seq id [rule]) pos outcome wants ↔
      Evaluates scope input stalls rule pos outcome wants := by
  constructor
  · intro h
    cases h with
    | read hprimitive | unread hprimitive => cases hprimitive
    | seq_failed h => exact h
    | seq_next h hrest =>
      cases hrest with
      | read hprimitive | unread hprimitive => cases hprimitive
      | seq_nil => simpa [Outcome.after] using h
  · intro h
    match outcome with
    | none => exact .seq_failed h
    | some (stop, tokens) => simpa [Outcome.after] using h.seq_next .seq_nil

/-- A choice of one rule comes out as the rule does. -/
theorem choice_singleton_iff {id : RuleId} :
    Evaluates scope input stalls (.choice id [rule]) pos outcome wants ↔
      Evaluates scope input stalls rule pos outcome wants := by
  constructor
  · intro h
    cases h with
    | read hprimitive | unread hprimitive => cases hprimitive
    | choice_first h => exact h
    | choice_next h hrest =>
      cases hrest with
      | read hprimitive | unread hprimitive => cases hprimitive
      | choice_nil => simpa using h
  · intro h
    match outcome with
    | none => simpa using h.choice_next .choice_nil
    | some (stop, tokens) => exact h.choice_first

theorem seqOf_iff :
    Evaluates scope input stalls (Rule.seqOf rules) pos outcome wants ↔
      Evaluates scope input stalls (.seq 0 rules) pos outcome wants :=
  match rules with
  | [] | _ :: _ :: _ => Iff.rfl
  | [_] => seq_singleton_iff.symm

theorem choiceOf_iff :
    Evaluates scope input stalls (Rule.choiceOf rules) pos outcome wants ↔
      Evaluates scope input stalls (.choice 0 rules) pos outcome wants :=
  match rules with
  | [] | _ :: _ :: _ => Iff.rfl
  | [_] => choice_singleton_iff.symm

/-- A repetition that may be empty never fails. -/
theorem ne_none_of_zeroOrMore {id : RuleId} {operand : Rule}
    (h : Evaluates scope input stalls (.zeroOrMore id operand) pos outcome wants) :
    outcome ≠ none := by
  generalize hrule : Rule.zeroOrMore id operand = rule at h
  induction h with
  | read hprimitive | unread hprimitive =>
    subst hrule
    cases hprimitive
  | zeroOrMore_ended | zeroOrMore_stalled => exact Option.some_ne_none _
  | zeroOrMore_next _ _ _ _ ih =>
    exact fun hnone => ih hrule (Option.map_eq_none_iff.1 hnone)
  | _ => cases hrule

end Evaluates

theorem Rule.isPrimitive_normal (h : rule.isPrimitive = true) : rule.normal.isPrimitive = true := by
  cases rule with
  | char id accepted => cases accepted <;> rfl
  | literal | regex | endOfInput => rfl
  | _ => cases h

/-- A primitive reads as its normal form does. -/
theorem Rule.readsAt?_normal (h : rule.isPrimitive = true) :
    rule.normal.readsAt? input pos = rule.readsAt? input pos := by
  cases rule with
  | char id accepted =>
    cases accepted with
    | single c =>
      rw [normal, readsAt?, readsAt?]
      refine congrArg _ (funext fun rest => ?_)
      cases rest with
      | nil => simp [reads?]
      | cons c' rest =>
        by_cases hc : c' = c
        · subst hc
          simp [reads?, CharClass.accepts]
        · simp [reads?, CharClass.accepts, hc, Ne.symm hc]
    | _ => rfl
  | literal | regex | endOfInput => rfl
  | _ => cases h

/-- **The normal form of an anonymous rule comes out as the rule does**, in the scope that
knows nothing. What is wanted on the way is put into words differently. -/
theorem Evaluates.normal (h : Evaluates scope input stalls rule pos outcome wants)
    (hrule : rule.Anonymous scope) :
    ∃ wants', Evaluates .empty input stalls rule.normal pos outcome wants' := by
  induction h with
  | read hprimitive hread =>
    exact ⟨_, .read (Rule.isPrimitive_normal hprimitive)
      ((Rule.readsAt?_normal hprimitive).trans hread)⟩
  | unread hprimitive hread =>
    exact ⟨_, .unread (Rule.isPrimitive_normal hprimitive)
      ((Rule.readsAt?_normal hprimitive).trans hread)⟩
  | seq_nil => exact ⟨_, .seq_nil⟩
  | seq_failed _ ih =>
    obtain ⟨_, ih⟩ := ih (hrule.operand List.mem_cons_self)
    exact ⟨_, seqOf_iff.2 (.seq_failed ih)⟩
  | seq_next _ _ ih ih' =>
    obtain ⟨_, ih⟩ := ih (hrule.operand List.mem_cons_self)
    obtain ⟨_, ih'⟩ := ih' (hrule.of_operands (List.subset_cons_self _ _) rfl
      fun _ _ => Rule.noConfusion)
    exact ⟨_, seqOf_iff.2 (.seq_next ih (seqOf_iff.1 ih'))⟩
  | choice_nil => exact ⟨_, .choice_nil⟩
  | choice_first _ ih =>
    obtain ⟨_, ih⟩ := ih (hrule.operand List.mem_cons_self)
    exact ⟨_, choiceOf_iff.2 (.choice_first ih)⟩
  | choice_next _ _ ih ih' =>
    obtain ⟨_, ih⟩ := ih (hrule.operand List.mem_cons_self)
    obtain ⟨_, ih'⟩ := ih' (hrule.of_operands (List.subset_cons_self _ _) rfl
      fun _ _ => Rule.noConfusion)
    exact ⟨_, choiceOf_iff.2 (.choice_next ih (choiceOf_iff.1 ih'))⟩
  | notAhead_failed _ ih =>
    obtain ⟨_, ih⟩ := ih (hrule.operand List.mem_cons_self)
    exact ⟨_, .notAhead_failed ih⟩
  | notAhead_matched _ ih =>
    obtain ⟨_, ih⟩ := ih (hrule.operand List.mem_cons_self)
    exact ⟨_, .notAhead_matched ih⟩
  | ahead_failed _ ih =>
    obtain ⟨_, ih⟩ := ih (hrule.operand List.mem_cons_self)
    exact ⟨_, .ahead_failed ih⟩
  | ahead_matched _ ih =>
    obtain ⟨_, ih⟩ := ih (hrule.operand List.mem_cons_self)
    exact ⟨_, .ahead_matched ih⟩
  | zeroOrMore_ended _ ih =>
    obtain ⟨_, ih⟩ := ih (hrule.operand List.mem_cons_self)
    exact ⟨_, .zeroOrMore_ended ih⟩
  | zeroOrMore_next _ hlt _ ih ih' =>
    obtain ⟨_, ih⟩ := ih (hrule.operand List.mem_cons_self)
    obtain ⟨_, ih'⟩ := ih' hrule
    exact ⟨_, .zeroOrMore_next ih hlt ih'⟩
  | zeroOrMore_stalled hstalls _ hnot ih =>
    obtain ⟨_, ih⟩ := ih (hrule.operand List.mem_cons_self)
    exact ⟨_, .zeroOrMore_stalled hstalls ih hnot⟩
  | oneOrMore_failed _ ih =>
    obtain ⟨_, ih⟩ := ih (hrule.operand List.mem_cons_self)
    exact ⟨_, .oneOrMore_failed ih⟩
  | oneOrMore_next _ hlt _ ih ih' =>
    obtain ⟨_, ih⟩ := ih (hrule.operand List.mem_cons_self)
    obtain ⟨_, ih'⟩ := ih' (hrule.of_operands (List.Subset.refl _) rfl
      fun _ _ => Rule.noConfusion)
    exact ⟨_, .oneOrMore_next ih hlt ih'⟩
  | oneOrMore_stalled hstalls _ hnot ih =>
    obtain ⟨_, ih⟩ := ih (hrule.operand List.mem_cons_self)
    exact ⟨_, .oneOrMore_stalled hstalls ih hnot⟩
  | opt_taken _ ih =>
    obtain ⟨_, ih⟩ := ih (hrule.operand List.mem_cons_self)
    exact ⟨_, .opt_taken ih⟩
  | opt_left _ ih =>
    obtain ⟨_, ih⟩ := ih (hrule.operand List.mem_cons_self)
    exact ⟨_, .opt_left ih⟩
  | node_failed _ ih =>
    obtain ⟨_, ih⟩ := ih (hrule.operand List.mem_cons_self)
    exact ⟨_, .node_failed ih⟩
  | @node_matched id operand pos stop tokens wants _ ih =>
    obtain ⟨wants', ih⟩ := ih (hrule.operand List.mem_cons_self)
    -- without a name, the token is called what every such token is called
    have hname : scope.name id = none := hrule.unnamed _ .refl
    have htoken : scope.nodeToken input id pos stop tokens =
        Scope.empty.nodeToken input 0 pos stop tokens := by
      rw [Scope.nodeToken, hname]
      rfl
    rw [htoken]
    exact ⟨wants', .node_matched ih⟩
  | recursive => exact absurd .refl (hrule.direct _ _)

/-- **Plain rules with one text have one outcome**, at every offset of every input. -/
theorem Rule.Plain.outcome_eq (hrule : rule.Plain scope) (hrule' : rule'.Plain scope')
    (hdisplay : rule.display scope = rule'.display scope')
    (h : Evaluates scope input stalls rule pos outcome wants)
    (h' : Evaluates scope' input stalls rule' pos outcome' wants') : outcome = outcome' := by
  obtain ⟨_, hnormal⟩ := h.normal hrule.anonymous
  obtain ⟨_, hnormal'⟩ := h'.normal hrule'.anonymous
  rw [← hrule.normal_eq hrule' hdisplay] at hnormal'
  exact (hnormal.det hnormal').1

/-! ## Runs -/

namespace Parser

/-- The results of two runs are alike: the same token, or the same error, where the
failures that the errors report may differ. -/
inductive Alike : Except Breach (Except ParseError Token) →
    Except Breach (Except ParseError Token) → Prop where
  | found (token : Token) : Alike (.ok (.ok token)) (.ok (.ok token))
  | noMatch (failure failure' : Failure) :
      Alike (.ok (.error (.noMatch failure))) (.ok (.error (.noMatch failure')))
  | incomplete (consumed : Nat) (failure failure' : Failure) :
      Alike (.ok (.error (.incomplete consumed failure)))
        (.ok (.error (.incomplete consumed failure')))

theorem Alike.eq_of_found {result result' : Except Breach (Except ParseError Token)} {token : Token}
    (h : Alike result result') (hfound : result = .ok (.ok token)) : result' = .ok (.ok token) := by
  cases h with
  | found => exact hfound
  | noMatch | incomplete => cases hfound

/-- The verdicts on one outcome are alike, where no limit was met and neither root has a
name. -/
theorem verdict_alike {p p' : Parser} {st st' : ParseState} {cx cx' : Context}
    {matched matched' : Bool} (complete : Bool)
    (hroot : scope.name p.root.id = none) (hroot' : scope'.name p'.root.id = none)
    (hfatal : cx.fatal = none) (hfatal' : cx'.fatal = none)
    (hreal : outcome.Realized (.start input) matched st)
    (hreal' : outcome.Realized (.start input) matched' st') :
    Alike (p.verdict scope complete matched st cx)
      (p'.verdict scope' complete matched' st' cx') := by
  cases hreal with
  | failed =>
    cases hreal' with
    | failed =>
      unfold verdict
      rw [hfatal, hfatal']
      exact .noMatch _ _
  | @matched tokens _ hext =>
    obtain ⟨rfl, hstop, hext'⟩ := hreal'.of_some
    obtain rfl : st' = st := hext'.unique hext hstop
    unfold verdict
    rw [hfatal, hfatal']
    by_cases hend : (complete && !st'.isAtEnd) = true
    · simp only [hend]
      exact .incomplete _ _ _
    · obtain ⟨token, htoken, -⟩ := exists_rootToken scope p.root hext
      have htoken' : rootToken scope' p'.root st' = .ok token := by
        rw [← htoken, rootToken, rootToken, hroot, hroot']
      simp only [hend, htoken, htoken']
      exact .found token

/-- **Plain rules with one text are interchangeable.** A limit is met in one of the runs,
or they find the same token, or they fail in the same way. Neither the identities in the
rules nor the limits and the table of the parsers make a difference. -/
theorem run_of_display_eq (p p' : Parser) (hplain : p.root.Plain scope)
    (hplain' : p'.root.Plain scope') (hidentifies : scope.Identifies p.root)
    (hidentifies' : scope'.Identifies p'.root)
    (hdisplay : p.root.display scope = p'.root.display scope') (input : String) (complete : Bool) :
    (∃ error, (p.run scope input complete).result = .ok (.error (.limit error))) ∨
      (∃ error, (p'.run scope' input complete).result = .ok (.error (.limit error))) ∨
      Alike (p.run scope input complete).result (p'.run scope' input complete).result := by
  obtain ⟨matched, st, cx, happly, -⟩ := p.exists_run hplain.anonymous.resolves input
  obtain ⟨matched', st', cx', happly', -⟩ := p'.exists_run hplain'.anonymous.resolves input
  rw [p.run_eq_of_apply happly, p'.run_eq_of_apply happly']
  cases hfatal : cx.fatal with
  | some error => exact .inl ⟨error, verdict_limit hfatal⟩
  | none =>
    cases hfatal' : cx'.fatal with
    | some error => exact .inr (.inl ⟨error, verdict_limit hfatal'⟩)
    | none =>
      obtain ⟨outcome, wants, heval, hreal⟩ := exists_evaluates hidentifies .refl
        (.start p.memoize) (Nat.le_add_right _ _) happly hfatal
      obtain ⟨outcome', wants', heval', hreal'⟩ := exists_evaluates hidentifies' .refl
        (.start p'.memoize) (Nat.le_add_right _ _) happly' hfatal'
      obtain rfl : outcome = outcome' := hplain.outcome_eq hplain' hdisplay
        (heval.mono fun _ => trivial) (heval'.mono fun _ => trivial)
      exact .inr (.inr (verdict_alike complete (hplain.unnamed _ .refl)
        (hplain'.unnamed _ .refl) hfatal hfatal' hreal hreal'))

end Parser

namespace Doublet

/-- An `a` with the character behind it, if there is one. -/
def short : Rule := .seq 0 [.literal 1 "a", .opt 2 (.node 3 (.char 4 .any))]

/-- The same with a class for the letter, and a sequence of one rule. -/
def long : Rule :=
  .seq 0 [.char 1 (.single 'a'), .opt 2 (.seq 3 [.node 4 (.char 5 .any)])]

/-- All rules in `short`. -/
def shortRules : List Rule :=
  [short, .literal 1 "a", .opt 2 (.node 3 (.char 4 .any)), .node 3 (.char 4 .any), .char 4 .any]

/-- All rules in `long`. -/
def longRules : List Rule :=
  [long, .char 1 (.single 'a'), .opt 2 (.seq 3 [.node 4 (.char 5 .any)]),
    .seq 3 [.node 4 (.char 5 .any)], .node 4 (.char 5 .any), .char 5 .any]

theorem closes_short : Scope.empty.Closes shortRules where
  operand_mem := by simp [shortRules, short, Rule.operands]
  target_mem := by intro id key target _ h; cases h

theorem closes_long : Scope.empty.Closes longRules where
  operand_mem := by simp [longRules, long, Rule.operands]
  target_mem := by intro id key target _ h; cases h

theorem plain_short : short.Plain .empty :=
  closes_short.plain List.mem_cons_self (fun _ _ => rfl)
    (by simp [shortRules, short, Rule.isExplicit]) (by
      intro rule hmem operand h hhidden
      simp only [shortRules, short, List.mem_cons, List.not_mem_nil, or_false] at hmem
      rcases hmem with rfl | rfl | rfl | rfl | rfl <;> cases h
      cases hhidden)

theorem plain_long : long.Plain .empty :=
  closes_long.plain List.mem_cons_self (fun _ _ => rfl)
    (by simp [longRules, long, Rule.isExplicit]) (by
      intro rule hmem operand h hhidden
      simp only [longRules, long, List.mem_cons, List.not_mem_nil, or_false] at hmem
      rcases hmem with rfl | rfl | rfl | rfl | rfl | rfl <;> cases h
      -- the operand is a sequence of one rule, but this is a node
      cases hhidden with
      | lookahead h => cases h
      | nested h => cases h)

end Doublet

/-- Both doublets find the same token in two letters. -/
theorem Parser.run_of_display_eq_doublet :
    ∃ token, ((Parser.ofRule Doublet.short).run .empty "ab" true).result = .ok (.ok token) ∧
      ((Parser.ofRule Doublet.long).run .empty "ab" true).result = .ok (.ok token) := by
  have halike := Parser.run_of_display_eq (.ofRule Doublet.short) (.ofRule Doublet.long)
    Doublet.plain_short Doublet.plain_long
    (Doublet.closes_short.identifies List.mem_cons_self (by decide))
    (Doublet.closes_long.identifies List.mem_cons_self (by decide)) (by decide +kernel) "ab" true
  have hshort : ((Parser.ofRule Doublet.short).run .empty "ab" true).token?.isSome = true := by
    decide +kernel
  have hlong : ((Parser.ofRule Doublet.long).run .empty "ab" true).token?.isSome = true := by
    decide +kernel
  rcases halike with ⟨error, herror⟩ | ⟨error, herror⟩ | halike
  · exact absurd herror (Parser.Report.result_ne_limit hshort error)
  · exact absurd herror (Parser.Report.result_ne_limit hlong error)
  · obtain ⟨token, htoken⟩ := Parser.Report.exists_of_isSome hshort
    exact ⟨token, htoken, halike.eq_of_found htoken⟩

/-! ## Hidden lookaheads -/

namespace Rule

variable {r : Rule} {a b c a' b' : RuleId}

/-- A rule without a name stands as it is where it is strong enough. -/
theorem operandText_of_lt {limit own : Strength} {text : String}
    (hname : scope.name rule.id = none) (hstrength : rule.strength = own)
    (hlt : limit.rank < own.rank) : operandText scope (some limit) rule (fun _ => text) = text := by
  have hparens : needsParens (some limit) rule = false :=
    decide_eq_false (Nat.not_le.2 (hstrength ▸ hlt))
  rw [operandText, hname]
  simp [hparens]

/-- **A mark behind a hidden lookahead is read with the operand of the lookahead**: two
rules with one text. -/
theorem display_hidden (hnames : ∀ id, scope.name id = none) (hstrength : r.strength = .atom) :
    display scope (.zeroOrMore a (.seq b [.notAhead c r])) =
      display scope (.notAhead a' (.zeroOrMore b' r)) := by
  have hhidden : display scope (.seq b [.notAhead c r]) = "!" ++ display scope r :=
    calc display scope (.seq b [.notAhead c r])
      _ = display scope (.notAhead c r) :=
        operandText_of_lt (hnames c) (rfl : strength _ = .ahead) (by decide)
      _ = "!" ++ display scope r := by
        rw [display, operandText_of_lt (hnames r.id) hstrength (by decide)]
  have hmark : display scope (.zeroOrMore b' r) = display scope r ++ "*" := by
    rw [display, operandText_of_lt (hnames r.id) hstrength (by decide)]
  calc display scope (.zeroOrMore a (.seq b [.notAhead c r]))
    _ = display scope (.seq b [.notAhead c r]) ++ "*" :=
      congrArg (· ++ "*") (operandText_of_lt (hnames b) (rfl : strength _ = .atom) (by decide))
    _ = "!" ++ display scope (.zeroOrMore b' r) := by rw [hhidden, hmark, String.append_assoc]
    _ = display scope (.notAhead a' (.zeroOrMore b' r)) := by
      rw [display, operandText_of_lt (hnames b') (rfl : strength _ = .repeated) (by decide)]

/-- The first of the two always matches nothing, the second never matches. -/
theorem outcomes_hidden
    (h : Evaluates scope input stalls (.zeroOrMore a (.seq b [.notAhead c r])) pos outcome wants)
    (h' : Evaluates scope' input stalls (.notAhead a' (.zeroOrMore b' r)) pos outcome' wants') :
    outcome = some (pos, []) ∧ outcome' = none := by
  constructor
  · cases h with
    | read hprimitive | unread hprimitive => cases hprimitive
    | zeroOrMore_ended | zeroOrMore_stalled => rfl
    | zeroOrMore_next hoperand hlt =>
      -- a lookahead reads nothing, so there is no second round
      cases Evaluates.seq_singleton_iff.1 hoperand with
      | read hprimitive => cases hprimitive
      | notAhead_matched => exact absurd hlt (Nat.lt_irrefl _)
  · cases h' with
    | read hprimitive | unread hprimitive => cases hprimitive
    | notAhead_failed => rfl
    | notAhead_matched hoperand => exact absurd rfl hoperand.ne_none_of_zeroOrMore

end Rule

namespace Hidden

/-- Where there is not even an empty row of letters. -/
def bound : Rule := .notAhead 0 (.zeroOrMore 1 (.char 2 (.single 'a')))

/-- A row of places where there is no letter. -/
def loose : Rule := .zeroOrMore 0 (.seq 1 [.notAhead 2 (.char 3 (.single 'a'))])

end Hidden

/-- Both rules are written `!'a'*`, and only one of them matches. -/
theorem Parser.parse_hidden :
    Hidden.bound.display .empty = "!'a'*" ∧ Hidden.loose.display .empty = "!'a'*" ∧
      (∃ failure, ((Parser.ofRule Hidden.bound).parse .empty "").result =
        .ok (.error (.noMatch failure))) ∧
      ∃ token, ((Parser.ofRule Hidden.loose).parse .empty "").result = .ok (.ok token) := by
  have hfailed : ((Parser.ofRule Hidden.bound).parse .empty "").noMatch? =
      some ⟨0, ["!'a'*"]⟩ := by decide +kernel
  have hfound : ((Parser.ofRule Hidden.loose).parse .empty "").token?.isSome = true := by
    decide +kernel
  exact ⟨by decide +kernel, by decide +kernel, ⟨_, Parser.Report.result_of_noMatch? hfailed⟩,
    Parser.Report.exists_of_isSome hfound⟩

end Packrat
