import Packrat.Proofs.Recursion

/-!
# Rules that do not stall

A repetition stalls where its operand matches and reads nothing. Whether this can happen is
seen by the form of the rules: what is repeated must have a part that reads something.

- `Rule.Advances`: by its form, the rule reads something wherever it matches.
- `Evaluates.lt`, `Executes.lt`: it does, also in a parse that is being abandoned.
- `Scope.Steady`: all that is repeated below a rule advances.
- `Context.Flows cx cx'`: between these contexts nothing has stalled.
- `Executes.flows`: **below a steady rule nothing stalls**, whatever is applied before.
- `Parser.not_stalled_of_steady`: the same of runs.
-/

namespace Packrat

open Context

/-! ## Advancing -/

/-- The rule reads something wherever it matches, since it has a part that does. -/
inductive Rule.Advances (scope : Scope) : Rule → Prop where
  | char {id : RuleId} {accepted : CharClass} : Advances scope (.char id accepted)
  | literal {id : RuleId} {text : String} : text ≠ "" → Advances scope (.literal id text)
  | seq {id : RuleId} {rules : List Rule} {rule : Rule} :
      rule ∈ rules → Advances scope rule → Advances scope (.seq id rules)
  | choice {id : RuleId} {rules : List Rule} :
      (∀ rule ∈ rules, Advances scope rule) → Advances scope (.choice id rules)
  | oneOrMore {id : RuleId} {operand : Rule} :
      Advances scope operand → Advances scope (.oneOrMore id operand)
  | node {id : RuleId} {operand : Rule} :
      Advances scope operand → Advances scope (.node id operand)
  | recursive {id : RuleId} {key : String} {target : Rule} :
      scope.target id key = some target → Advances scope target →
      Advances scope (.recursive id key)

variable {scope : Scope} {setting : Setting} {root part rule operand : Rule} {rules : List Rule}
  {id : RuleId} {key : String} {input : String} {pos : Nat} {st after : ParseState}
  {cx cx₁ cx₂ cx' : Context} {matched : Bool} {task : Task}

namespace Rule

theorem advances_seq_iff :
    (Rule.seq id rules).Advances scope ↔ ∃ rule ∈ rules, rule.Advances scope := by
  constructor
  · intro h
    cases h with
    | seq hmem hrule => exact ⟨_, hmem, hrule⟩
  · rintro ⟨rule, hmem, hrule⟩
    exact .seq hmem hrule

theorem advances_choice_iff :
    (Rule.choice id rules).Advances scope ↔ ∀ rule ∈ rules, rule.Advances scope :=
  ⟨fun h => by cases h with | choice hrules => exact hrules, .choice⟩

theorem advances_oneOrMore_iff :
    (Rule.oneOrMore id operand).Advances scope ↔ operand.Advances scope :=
  ⟨fun h => by cases h with | oneOrMore hoperand => exact hoperand, .oneOrMore⟩

theorem not_advances_zeroOrMore : ¬(Rule.zeroOrMore id operand).Advances scope := nofun

/-- A primitive that advances reads a character, or a text that is not empty. -/
theorem Advances.pos_of_reads? {previous? : Option Char} {rest : List Char} {n : Nat}
    (h : rule.Advances scope) (hread : rule.reads? previous? rest = some n) : 0 < n := by
  cases h with
  | char =>
    cases rest with
    | nil => cases hread
    | cons c rest =>
      rw [reads?] at hread
      split at hread
      · cases hread
        exact c.utf8Size_pos
      · cases hread
  | @literal _ text hsome =>
    rw [reads?] at hread
    split at hread
    · cases hread
      exact Nat.pos_of_ne_zero fun hzero => hsome (String.utf8ByteSize_eq_zero_iff.1 hzero)
    · cases hread
  | seq | choice | oneOrMore | node | recursive => cases hread

end Rule

/-- **Rules that advance read something**, as far as evaluation goes. -/
theorem Evaluates.lt {stalls : Prop} {outcome : Outcome} {wants : List Want}
    (h : Evaluates scope input stalls rule pos outcome wants) (hadvances : rule.Advances scope) :
    ∀ {stop tokens}, outcome = some (stop, tokens) → pos < stop := by
  induction h with
  | read _ hread =>
    rintro _ _ ⟨⟩
    obtain ⟨rest, -, hread⟩ := Option.bind_eq_some_iff.1 hread
    exact Nat.lt_add_of_pos_right (hadvances.pos_of_reads? hread)
  | unread | seq_failed | choice_nil | notAhead_failed | ahead_failed | oneOrMore_failed
  | node_failed => rintro _ _ ⟨⟩
  | notAhead_matched | ahead_matched | zeroOrMore_ended | zeroOrMore_next | zeroOrMore_stalled
  | opt_taken | opt_left => cases hadvances
  | seq_nil =>
    obtain ⟨_, hmem, -⟩ := Rule.advances_seq_iff.1 hadvances
    cases hmem
  | seq_next hhead hrest ih ih' =>
    intro stop tokens h
    obtain ⟨more, hmore, -⟩ := Outcome.after_eq_some h
    obtain ⟨part, hmem, hpart⟩ := Rule.advances_seq_iff.1 hadvances
    rcases List.mem_cons.1 hmem with rfl | hmem
    · exact Nat.lt_of_lt_of_le (ih hpart rfl) (hrest.le hmore)
    · exact Nat.lt_of_le_of_lt (hhead.le rfl) (ih' (.seq hmem hpart) hmore)
  | choice_first _ ih => exact ih (Rule.advances_choice_iff.1 hadvances _ List.mem_cons_self)
  | choice_next _ _ _ ih' =>
    exact ih' (.choice fun r hmem =>
      Rule.advances_choice_iff.1 hadvances r (List.mem_cons_of_mem _ hmem))
  | oneOrMore_next _ hlt hrest _ _ =>
    intro stop tokens h
    obtain ⟨more, hmore, -⟩ := Outcome.after_eq_some h
    exact Nat.lt_of_lt_of_le hlt (hrest.le hmore)
  | oneOrMore_stalled _ _ _ ih => exact ih (Rule.advances_oneOrMore_iff.1 hadvances)
  | node_matched _ ih =>
    rintro _ _ ⟨⟩
    cases hadvances with
    | node hoperand => exact ih hoperand rfl
  | recursive htarget _ ih =>
    cases hadvances with
    | recursive htarget' hadvances =>
      rw [htarget] at htarget'
      cases htarget'
      exact ih hadvances

/-- What is left of a rule that advances, or the rule itself. -/
def Task.Advances (scope : Scope) (task : Task) : Prop := ∀ id, (task.asRule id).Advances scope

/-- A task that matches has not gone back. -/
theorem Executes.position_le (h : Executes setting task st cx true after cx')
    (hposed : task.WellPosed) (hlaid : cx.MemoLaid st.input) : st.position ≤ after.position := by
  obtain ⟨tokens, hext⟩ := (h.contract hposed hlaid).2.of_matched rfl
  exact hext.position_le

/-- **Rules that advance read something**, also in a parse that is being abandoned. -/
theorem Executes.lt (h : Executes setting task st cx matched after cx')
    (hidentifies : setting.scope.Identifies root) (hbelow : task.Below setting.scope root)
    (hposed : task.WellPosed) (htrusted : cx.Trusted setting.scope root st.input)
    (hadvances : task.Advances setting.scope) : matched = true → st.position < after.position := by
  induction h with
  | refused | unread | notAhead_failed | ahead_failed | node_failed | sequence_failed
  | alternatives_nil | alternatives_aborted => exact fun h => nomatch h
  | recalled henter hentry hreplay =>
    rintro rfl
    have htrusted₁ := htrusted.entered henter
    obtain ⟨outcome, wants, heval, rfl, -⟩ :=
      htrusted₁.sound.remembered hidentifies hbelow hentry
    have hreal : outcome.Realized _ true _ :=
      .of_replays hreplay (htrusted₁.laid.remembered hentry)
    obtain ⟨tokens, rfl, -⟩ := hreal.exists_extends
    exact heval.lt (hadvances 0) rfl
  | evaluated henter _ _ ih => exact ih hbelow trivial (htrusted.entered henter) hadvances
  | read hprimitive hread hadvance =>
    intro _
    obtain ⟨-, hpos, -⟩ := ParseState.seek_eq_ok hadvance
    have heval : Evaluates setting.scope _ True _ _ _ _ := .read hprimitive hread
    rw [hpos]
    exact heval.lt (hadvances 0) rfl
  | seq _ ih =>
    refine ih (fun _ hmem => hbelow.operand hmem) trivial htrusted fun _ => ?_
    exact Rule.advances_seq_iff.2 (Rule.advances_seq_iff.1 (hadvances 0))
  | choice _ ih =>
    refine ih (fun _ hmem => hbelow.operand hmem) trivial htrusted fun _ => ?_
    exact Rule.advances_choice_iff.2 (Rule.advances_choice_iff.1 (hadvances 0))
  | notAhead_matched | ahead_matched | zeroOrMore | opt_taken | opt_left => cases hadvances 0
  | oneOrMore _ ih =>
    refine ih (hbelow.operand (List.mem_singleton_self _)) (Nat.le_refl 1) htrusted fun _ => ?_
    exact .oneOrMore (Rule.advances_oneOrMore_iff.1 (hadvances 0))
  | node_matched _ _ _ hseek ih =>
    intro _
    cases hadvances 0 with
    | node hoperand =>
      have hlt := ih (hbelow.operand (List.mem_singleton_self _)) trivial htrusted
        (fun _ => hoperand) rfl
      exact Nat.lt_of_lt_of_eq hlt (ParseState.seek_eq_ok hseek).2.1.symm
  | recursive htarget _ ih =>
    cases hadvances 0 with
    | recursive htarget' hadvances =>
      rw [htarget] at htarget'
      cases htarget'
      exact ih (hbelow.target htarget) trivial (htrusted.record _) fun _ => hadvances
  | sequence_nil =>
    obtain ⟨_, hmem, -⟩ := Rule.advances_seq_iff.1 (hadvances 0)
    cases hmem
  | sequence_next hhead hrest ih ih' =>
    rintro rfl
    have hrule := hbelow _ List.mem_cons_self
    obtain ⟨tokens, hext⟩ := (hhead.contract trivial htrusted.laid).2.of_matched rfl
    have htrusted₁ := hhead.trusted hidentifies hrule trivial htrusted
    rw [← hext.input_eq] at htrusted₁
    obtain ⟨part, hmem, hpart⟩ := Rule.advances_seq_iff.1 (hadvances 0)
    rcases List.mem_cons.1 hmem with rfl | hmem
    · have hlt := ih hrule trivial htrusted (fun _ => hpart) rfl
      exact Nat.lt_of_lt_of_le hlt (hrest.position_le trivial htrusted₁.laid)
    · have hlt := ih' (fun r hr => hbelow r (List.mem_cons_of_mem _ hr)) trivial htrusted₁
        (fun _ => .seq hmem hpart) rfl
      exact Nat.lt_of_le_of_lt hext.position_le hlt
  | alternatives_first _ _ ih =>
    refine ih (hbelow _ List.mem_cons_self) trivial htrusted fun _ => ?_
    exact Rule.advances_choice_iff.1 (hadvances 0) _ List.mem_cons_self
  | alternatives_next hhead _ _ _ ih' =>
    refine ih' (fun r hr => hbelow r (List.mem_cons_of_mem _ hr)) trivial
      (hhead.trusted hidentifies (hbelow _ List.mem_cons_self) trivial htrusted) fun _ => ?_
    exact .choice fun r hr =>
      Rule.advances_choice_iff.1 (hadvances 0) r (List.mem_cons_of_mem _ hr)
  | @repetition_ended _ _ required =>
    intro hended
    obtain rfl : required = 0 := by simpa using hended
    exact absurd (hadvances 0) Rule.not_advances_zeroOrMore
  | repetition_next hhead hlt _ hrest =>
    rintro rfl
    obtain ⟨tokens, hext⟩ := (hhead.contract trivial htrusted.laid).2.of_matched rfl
    have htrusted₁ := hhead.trusted hidentifies hbelow trivial htrusted
    rw [← hext.input_eq] at htrusted₁
    exact Nat.lt_of_lt_of_le hlt
      (hrest.position_le (Nat.le_trans (Nat.sub_le ..) hposed) htrusted₁.laid)
  | repetition_dropped => exact absurd (hadvances 0) Rule.not_advances_zeroOrMore
  | repetition_kept _ _ _ ih =>
    exact ih hbelow trivial htrusted fun _ => Rule.advances_oneOrMore_iff.1 (hadvances 0)

/-! ## Steady rules -/

/-- All that is repeated below the rule advances. -/
def Scope.Steady (scope : Scope) (rule : Rule) : Prop :=
  ∀ id operand, rule.Reaches scope (.zeroOrMore id operand) ∨
    rule.Reaches scope (.oneOrMore id operand) → operand.Advances scope

/-- A rule is steady if its operands are, and what it repeats itself advances. -/
theorem Scope.Steady.of_operands (hnot : ∀ id key, rule ≠ .recursive id key)
    (hoperands : ∀ operand ∈ rule.operands, scope.Steady operand)
    (hrepeats : ∀ id operand, rule = .zeroOrMore id operand ∨ rule = .oneOrMore id operand →
      operand.Advances scope) : scope.Steady rule := by
  -- what is below the rule is the rule itself, or below one of its operands
  have hreaches {below : Rule} (h : rule.Reaches scope below) :
      below = rule ∨ ∃ operand ∈ rule.operands, operand.Reaches scope below := by
    induction h with
    | refl => exact .inl rfl
    | operand _ hmem ih =>
      rcases ih with rfl | ⟨operand, hoperand, hbelow⟩
      · exact .inr ⟨_, hmem, .refl⟩
      · exact .inr ⟨operand, hoperand, hbelow.operand hmem⟩
    | target _ htarget ih =>
      rcases ih with heq | ⟨operand, hoperand, hbelow⟩
      · exact absurd heq.symm (hnot _ _)
      · exact .inr ⟨operand, hoperand, hbelow.target htarget⟩
  rintro id repeated (h | h)
  · rcases hreaches h with heq | ⟨operand, hoperand, hbelow⟩
    · exact hrepeats id repeated (.inl heq.symm)
    · exact hoperands operand hoperand id repeated (.inl hbelow)
  · rcases hreaches h with heq | ⟨operand, hoperand, hbelow⟩
    · exact hrepeats id repeated (.inr heq.symm)
    · exact hoperands operand hoperand id repeated (.inr hbelow)

namespace Scope.Steady

theorem primitive (h : rule.isPrimitive = true) : scope.Steady rule := by
  cases rule with
  | char | literal | regex | endOfInput => exact .of_operands nofun nofun nofun
  | _ => cases h

theorem seq (h : ∀ rule ∈ rules, scope.Steady rule) : scope.Steady (.seq id rules) :=
  .of_operands nofun h nofun

theorem choice (h : ∀ rule ∈ rules, scope.Steady rule) : scope.Steady (.choice id rules) :=
  .of_operands nofun h nofun

theorem notAhead (h : scope.Steady operand) : scope.Steady (.notAhead id operand) :=
  .of_operands nofun (fun _ hmem => List.mem_singleton.1 hmem ▸ h) nofun

theorem zeroOrMore (h : scope.Steady operand) (hadvances : operand.Advances scope) :
    scope.Steady (.zeroOrMore id operand) := by
  refine .of_operands nofun (fun _ hmem => List.mem_singleton.1 hmem ▸ h) ?_
  rintro _ _ (heq | heq) <;> cases heq
  exact hadvances

theorem oneOrMore (h : scope.Steady operand) (hadvances : operand.Advances scope) :
    scope.Steady (.oneOrMore id operand) := by
  refine .of_operands nofun (fun _ hmem => List.mem_singleton.1 hmem ▸ h) ?_
  rintro _ _ (heq | heq) <;> cases heq
  exact hadvances

end Scope.Steady

/-- What a repetition repeats advances. -/
def Task.Steady (scope : Scope) : Task → Prop
  | .repetition _ operand _ => operand.Advances scope
  | _ => True

/-! ## Flowing -/

/-- The event is that a repetition stalls. -/
def Event.isStalled : Event → Bool
  | .stalled .. => true
  | _ => false

namespace Context

variable {limits : Limits} {source target : Nat} {event : Event}

/-- No repetition has stalled between the contexts. -/
def Flows (cx cx' : Context) : Prop :=
  ∃ events, (∀ event ∈ events, event.isStalled = false) ∧ cx'.log = events ++ cx.log

namespace Flows

theorem of_log_eq (h : cx'.log = cx.log) : Flows cx cx' := ⟨[], List.forall_mem_nil _, h⟩

theorem refl (cx : Context) : Flows cx cx := .of_log_eq rfl

theorem trans (h : Flows cx cx₁) (h' : Flows cx₁ cx') : Flows cx cx' := by
  obtain ⟨events, hevents, hlog⟩ := h
  obtain ⟨events', hevents', hlog'⟩ := h'
  exact ⟨events' ++ events, List.forall_mem_append.2 ⟨hevents', hevents⟩,
    by rw [hlog', hlog, List.append_assoc]⟩

theorem cons (h : event.isStalled = false) (hlog : cx'.log = event :: cx.log) : Flows cx cx' :=
  ⟨[event], fun _ hmem => List.mem_singleton.1 hmem ▸ h, hlog⟩

theorem record (cx : Context) (h : event.isStalled = false) : Flows cx (cx.record event) :=
  .cons h rfl

theorem rewound (source target : Nat) (cx : Context) : Flows cx (cx.rewound source target) := by
  rcases rewound_eq source target cx with h | h
  · exact .of_log_eq (by rw [h])
  · rw [h]
    exact record cx rfl

theorem miss (h : cx.miss scope rule pos = some cx') : Flows cx cx' := by
  obtain ⟨events, hevents, rfl⟩ := miss_eq_some h
  refine ⟨events, fun event hmem => ?_, rfl⟩
  obtain ⟨id, target, rfl⟩ := hevents event hmem
  rfl

theorem lookahead (h : Flows cx.openLookahead cx₁) (source target : Nat) :
    Flows cx (cx₁.closeLookahead.rewound source target) := by
  have hclosed : Flows cx cx₁.closeLookahead := h
  exact hclosed.trans (.rewound ..)

theorem entered (h : cx.enter limits rule pos = (true, cx₁)) : Flows cx cx₁ := by
  obtain ⟨-, -, rfl⟩ := enter_eq_true_iff.1 h
  exact .cons rfl rfl

theorem refused (h : cx.enter limits rule pos = (false, cx')) : Flows cx cx' := by
  rcases enter_eq_false_iff.1 h with ⟨-, -, rfl⟩ | ⟨-, -, -, rfl⟩ <;> exact .of_log_eq rfl

theorem leave : Flows cx (cx.leave scope rule st matched after) := .cons rfl log_leave

theorem leaveRecalled {entry : MemoEntry} : Flows cx (cx.leaveRecalled rule st entry) := by
  have hhit : Flows cx (cx.record (.memoHit rule st.position entry.stop?)) := record cx rfl
  exact hhit.trans (.cons rfl rfl)

theorem hasStalled (h : Flows cx cx') (hstalled : cx'.HasStalled) : cx.HasStalled := by
  obtain ⟨events, hevents, hlog⟩ := h
  obtain ⟨rule, pos, hmem⟩ := hstalled
  rw [hlog] at hmem
  rcases List.mem_append.1 hmem with hmem | hmem
  · cases hevents _ hmem
  · exact ⟨rule, pos, hmem⟩

end Flows

end Context

/-- **Below a steady rule nothing stalls.** -/
theorem Executes.flows (h : Executes setting task st cx matched after cx')
    (hidentifies : setting.scope.Identifies root) (hpart : root.Reaches setting.scope part)
    (hsteady : setting.scope.Steady part) (hbelow : task.Below setting.scope part)
    (hposed : task.WellPosed) (hrepeats : task.Steady setting.scope)
    (htrusted : cx.Trusted setting.scope root st.input) : cx.Flows cx' := by
  induction h with
  | refused henter => exact .refused henter
  | recalled henter => exact (Flows.entered henter).trans .leaveRecalled
  | evaluated henter _ _ ih =>
    exact ((Flows.entered henter).trans
      (ih hbelow trivial trivial (htrusted.entered henter))).trans .leave
  | read | sequence_nil | alternatives_nil => exact .refl _
  | unread _ _ hmiss => exact .miss hmiss
  | seq _ ih | choice _ ih =>
    exact ih (fun _ hmem => hbelow.operand hmem) trivial trivial htrusted
  | notAhead_failed _ hmiss ih | ahead_failed _ hmiss ih =>
    have hprobe := ih (hbelow.operand (List.mem_singleton_self _)) trivial trivial
      htrusted.openLookahead
    exact (hprobe.lookahead _ _).trans (.miss hmiss)
  | notAhead_matched _ ih | ahead_matched _ ih =>
    have hprobe := ih (hbelow.operand (List.mem_singleton_self _)) trivial trivial
      htrusted.openLookahead
    exact hprobe.lookahead _ _
  | zeroOrMore _ ih =>
    exact ih (hbelow.operand (List.mem_singleton_self _)) (Nat.zero_le 1)
      (hsteady _ _ (.inl hbelow)) htrusted
  | oneOrMore _ ih =>
    exact ih (hbelow.operand (List.mem_singleton_self _)) (Nat.le_refl 1)
      (hsteady _ _ (.inr hbelow)) htrusted
  | opt_taken _ _ ih | opt_left _ ih | node_failed _ ih =>
    exact ih (hbelow.operand (List.mem_singleton_self _)) trivial trivial htrusted
  | node_matched _ _ _ _ ih =>
    have hinner := ih (hbelow.operand (List.mem_singleton_self _)) trivial trivial htrusted
    exact hinner.trans (.record _ rfl)
  | recursive htarget _ ih =>
    exact (Flows.record _ rfl).trans
      (ih (hbelow.target htarget) trivial trivial (htrusted.record _))
  | sequence_failed _ ih =>
    exact (ih (hbelow _ List.mem_cons_self) trivial trivial htrusted).trans (.rewound ..)
  | sequence_next hhead _ ih ih' =>
    have hrule := hbelow _ List.mem_cons_self
    obtain ⟨tokens, hext⟩ := (hhead.contract trivial htrusted.laid).2.of_matched rfl
    have htrusted₁ := hhead.trusted hidentifies (hpart.trans hrule) trivial htrusted
    rw [← hext.input_eq] at htrusted₁
    exact (ih hrule trivial trivial htrusted).trans
      (ih' (fun r hmem => hbelow r (List.mem_cons_of_mem _ hmem)) trivial trivial htrusted₁)
  | alternatives_first _ _ ih | alternatives_aborted _ _ ih =>
    exact ih (hbelow _ List.mem_cons_self) trivial trivial htrusted
  | alternatives_next hhead _ _ ih ih' =>
    have hrule := hbelow _ List.mem_cons_self
    have htrusted₁ := hhead.trusted hidentifies (hpart.trans hrule) trivial htrusted
    exact (ih hrule trivial trivial htrusted).trans
      (ih' (fun r hmem => hbelow r (List.mem_cons_of_mem _ hmem)) trivial trivial htrusted₁)
  | repetition_ended _ ih => exact ih hbelow trivial trivial htrusted
  | repetition_next hhead _ _ _ ih ih' =>
    obtain ⟨tokens, hext⟩ := (hhead.contract trivial htrusted.laid).2.of_matched rfl
    have htrusted₁ := hhead.trusted hidentifies (hpart.trans hbelow) trivial htrusted
    rw [← hext.input_eq] at htrusted₁
    exact (ih hbelow trivial trivial htrusted).trans
      (ih' hbelow (Nat.le_trans (Nat.sub_le ..) hposed) hrepeats htrusted₁)
  -- here a repetition would stall, but what it repeats has read something
  | repetition_dropped hhead hnot | repetition_kept hhead hnot =>
    have hlt := hhead.lt hidentifies (hpart.trans hbelow) trivial htrusted (fun _ => hrepeats) rfl
    exact absurd hlt hnot

/-- **A run with a steady rule does not stall.** -/
theorem Parser.not_stalled_of_steady (p : Parser) (hresolves : scope.Resolves p.root)
    (hidentifies : scope.Identifies p.root) (hsteady : scope.Steady p.root) (input : String)
    (complete : Bool) (rule : Rule) (pos : Nat) :
    Event.stalled rule pos ∉ (p.run scope input complete).events := by
  intro hmem
  obtain ⟨matched, st, cx, happly, hexec⟩ := p.exists_run hresolves input
  rw [p.run_eq_of_apply happly] at hmem
  have hstart : (Context.start p.memoize).Reachable (p.setting scope) p.root input :=
    .start p.memoize
  have hflows := hexec.flows hidentifies .refl hsteady .refl trivial trivial
    (hstart.trusted hidentifies)
  obtain ⟨_, _, hnone⟩ := hflows.hasStalled ⟨rule, pos, List.mem_reverse.1 hmem⟩
  cases hnone

end Packrat
