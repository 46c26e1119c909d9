import Packrat.Proofs.Nesting

/-!
# Where applications are made

The log of a run says at which point an application began, and `Calls` says in
which states and contexts a task comes to apply rules. Both tell of the same
applications.

- `Context.Precedes cx cx'`: `cx'` comes later in the run, perhaps in the middle of
  something else.
- `Occurs`: the application that a log has after `before` is one that the task makes.
- `Executes.occurs`: every application in the log of an execution occurs.
-/

namespace Packrat

namespace Trace

variable {before mid whole : List Event} {event : Event}

/-- An event of the whole log is among the earlier ones, or comes after them. -/
theorem prefix_cases (h : before ++ [event] <+: whole) (hmid : mid <+: whole) :
    before ++ [event] <+: mid ∨ mid <+: before := by
  rcases List.prefix_or_prefix_of_prefix h hmid with hearlier | hlater
  · exact .inl hearlier
  · rcases List.prefix_concat_iff.1 hlater with heq | hlater
    · exact .inl (heq ▸ List.prefix_rfl)
    · exact .inr hlater

theorem not_within_earlier (h : mid <+: before) : ¬before ++ [event] <+: mid := by
  intro hlater
  have hle := (hlater.trans h).length_le
  rw [List.length_append, List.length_singleton] at hle
  omega

end Trace

namespace Context

variable {cx cx₁ cx' : Context}

/-- `cx'` comes after `cx`: nothing that was logged is lost, and a parse that was
abandoned stays so. -/
structure Precedes (cx cx' : Context) : Prop where
  prefix_trace : cx.trace <+: cx'.trace
  fatal_eq : ∀ error, cx.fatal = some error → cx'.fatal = some error

namespace Precedes

theorem refl (cx : Context) : Precedes cx cx := ⟨List.prefix_rfl, fun _ h => h⟩

theorem trans (h : Precedes cx cx₁) (h' : Precedes cx₁ cx') : Precedes cx cx' :=
  ⟨h.prefix_trace.trans h'.prefix_trace,
    fun error hfatal => h'.fatal_eq error (h.fatal_eq error hfatal)⟩

theorem of_frame (h : Frame cx cx') : Precedes cx cx' := ⟨h.prefix_trace, h.fatal_eq⟩

theorem closeLookahead (source target : Nat) (cx : Context) :
    Precedes cx (cx.closeLookahead.rewound source target) := by
  have hclosed : Precedes cx cx.closeLookahead := ⟨List.prefix_rfl, fun _ h => h⟩
  exact hclosed.trans (.of_frame (.rewound ..))

theorem remarks (h : Remarks cx cx') : Precedes cx cx' := by
  obtain ⟨events, -, htrace, heq⟩ := h
  refine ⟨htrace ▸ List.prefix_append .., fun error hfatal => ?_⟩
  rw [heq]
  exact hfatal

theorem leave {scope : Scope} {rule : Rule} {st after : ParseState} {matched : Bool} :
    Precedes cx (cx.leave scope rule st matched after) := by
  refine ⟨?_, fun error hfatal => fatal_leave.trans hfatal⟩
  rw [trace_leave]
  exact List.prefix_append ..

theorem fatal_eq_none (h : Precedes cx cx') (hfatal : cx'.fatal = none) : cx.fatal = none := by
  cases hcx : cx.fatal with
  | none => rfl
  | some error =>
    rw [h.fatal_eq error hcx] at hfatal
    cases hfatal

end Precedes

/-- Remarks begin no application. -/
theorem Remarks.entered {before : List Event} {rule : Rule} {pos : Nat} (h : Remarks cx cx')
    (hentered : before ++ [.enter rule pos] <+: cx'.trace) :
    before ++ [.enter rule pos] <+: cx.trace := by
  obtain ⟨events, hevents, htrace, -⟩ := h
  rw [htrace] at hentered
  exact Trace.prefix_of_append hentered fun hmem => nomatch hevents _ hmem

theorem entered_closeLookahead {before : List Event} {rule : Rule} {pos source target : Nat}
    (hentered : before ++ [.enter rule pos] <+: (cx.closeLookahead.rewound source target).trace) :
    before ++ [.enter rule pos] <+: cx.trace := by
  have hclosed := (Remarks.rewound source target cx.closeLookahead).entered hentered
  exact hclosed

end Context

open Context

variable {setting : Setting} {task : Task} {rule : Rule} {pos : Nat} {st after st₁ : ParseState}
  {cx cx₁ cx₂ cx' : Context} {matched : Bool} {before : List Event}

/-- The task, begun in `st` and `cx` and ended in `cx'`, comes to apply `rule` at
`pos` where `before` has been logged, and the application is not refused. -/
inductive Occurs (setting : Setting) (task : Task) (st : ParseState) (cx cx' : Context)
    (before : List Event) (rule : Rule) (pos : Nat) : Prop where
  | intro {st₁ after₁ : ParseState} {cx₁ cx₂ : Context} {matched₁ : Bool} :
      Calls setting task st cx rule st₁ cx₁ →
      Executes setting (.application rule) st₁ cx₁ matched₁ after₁ cx₂ → cx₁.fatal = none →
      cx₁.trace = before → st₁.position = pos → cx₂.Precedes cx' →
      Occurs setting task st cx cx' before rule pos

/-- What a part of a task comes to apply, the task comes to apply. -/
theorem Occurs.imp {task₁ : Task} (h : Occurs setting task₁ st₁ cx₁ cx₂ before rule pos)
    (hcalls : ∀ {rule' st' cx''}, Calls setting task₁ st₁ cx₁ rule' st' cx'' →
      Calls setting task st cx rule' st' cx'')
    (hprecedes : cx₂.Precedes cx') : Occurs setting task st cx cx' before rule pos := by
  obtain ⟨hcall, happly, hfatal, hbefore, hpos, hlater⟩ := h
  exact ⟨hcalls hcall, happly, hfatal, hbefore, hpos, hlater.trans hprecedes⟩

/-- The first application in the log of an application is itself. -/
theorem Executes.occurs_self {rule' : Rule}
    (h : Executes setting (.application rule) st cx matched after cx')
    (henter : cx.enter setting.limits rule st.position = (true, cx₁)) (hbegun : cx.trace <+: before)
    (hentered : before ++ [.enter rule' pos] <+: cx₁.trace) :
    Occurs setting (.application rule) st cx cx' before rule' pos := by
  rw [trace_enter henter] at hentered
  rcases List.prefix_concat_iff.1 hentered with heq | hearlier
  · obtain ⟨rfl, hevent⟩ := List.append_inj' heq rfl
    cases hevent
    exact ⟨.self, h, (enter_eq_true_iff.1 henter).1, rfl, rfl, .refl _⟩
  · exact absurd hearlier (Trace.not_within_earlier hbegun)

/-- **Every application in the log of an execution occurs.** -/
theorem Executes.occurs (h : Executes setting task st cx matched after cx')
    (hbegun : cx.trace <+: before) (hentered : before ++ [.enter rule pos] <+: cx'.trace) :
    Occurs setting task st cx cx' before rule pos := by
  -- the part in which the application begins is the one whose log first has it
  induction h with
  | refused henter =>
    rw [trace_refused henter] at hentered
    exact absurd hentered (Trace.not_within_earlier hbegun)
  | recalled henter hentry hreplay =>
    rw [trace_leaveRecalled] at hentered
    exact (Executes.recalled henter hentry hreplay).occurs_self henter hbegun
      (Trace.prefix_of_append hentered (by simp))
  | evaluated henter hentry hbody ih =>
    have hself := Executes.evaluated henter hentry hbody
    rw [trace_leave] at hentered
    have hentered₂ := Trace.prefix_of_append hentered (by simp)
    rcases Trace.prefix_cases hentered₂ hbody.frame.prefix_trace with hearlier | hlater
    · exact hself.occurs_self henter hbegun hearlier
    · exact (ih hlater hentered₂).imp (.evaluated henter hentry) .leave
  | read | sequence_nil | alternatives_nil =>
    exact absurd hentered (Trace.not_within_earlier hbegun)
  | unread _ _ hmiss =>
    exact absurd ((Remarks.miss hmiss).entered hentered) (Trace.not_within_earlier hbegun)
  | seq _ ih => exact (ih hbegun hentered).imp .seq (.refl _)
  | choice _ ih => exact (ih hbegun hentered).imp .choice (.refl _)
  | notAhead_failed _ hmiss ih =>
    have hclosed := entered_closeLookahead ((Remarks.miss hmiss).entered hentered)
    exact (ih hbegun hclosed).imp .notAhead
      ((Precedes.closeLookahead ..).trans (.remarks (.miss hmiss)))
  | notAhead_matched _ ih =>
    exact (ih hbegun (entered_closeLookahead hentered)).imp .notAhead (.closeLookahead ..)
  | ahead_failed _ hmiss ih =>
    have hclosed := entered_closeLookahead ((Remarks.miss hmiss).entered hentered)
    exact (ih hbegun hclosed).imp .ahead
      ((Precedes.closeLookahead ..).trans (.remarks (.miss hmiss)))
  | ahead_matched _ ih =>
    exact (ih hbegun (entered_closeLookahead hentered)).imp .ahead (.closeLookahead ..)
  | zeroOrMore _ ih => exact (ih hbegun hentered).imp .zeroOrMore (.refl _)
  | oneOrMore _ ih => exact (ih hbegun hentered).imp .oneOrMore (.refl _)
  | opt_taken _ _ ih | opt_left _ ih => exact (ih hbegun hentered).imp .opt (.refl _)
  | node_failed _ ih => exact (ih hbegun hentered).imp .node (.refl _)
  | @node_matched _ _ _ _ _ _ cx' token _ _ _ _ ih =>
    have hremarks := Remarks.record cx' (.token token) rfl
    exact (ih hbegun (hremarks.entered hentered)).imp .node (.remarks hremarks)
  | recursive htarget happly ih =>
    rcases Trace.prefix_cases hentered happly.frame.prefix_trace with hearlier | hlater
    · exact absurd ((Remarks.record _ _ rfl).entered hearlier) (Trace.not_within_earlier hbegun)
    · exact (ih hlater hentered).imp (.recursive htarget) (.refl _)
  | @sequence_failed origin _ next _ _ _ cx' _ ih =>
    have hremarks := Remarks.rewound next.position origin.position cx'
    exact (ih hbegun (hremarks.entered hentered)).imp .sequence_first (.remarks hremarks)
  | sequence_next hhead hrest ih ih' =>
    rcases Trace.prefix_cases hentered hrest.frame.prefix_trace with hearlier | hlater
    · exact (ih hbegun hearlier).imp .sequence_first (.of_frame hrest.frame)
    · exact (ih' hlater hentered).imp (.sequence_next hhead) (.refl _)
  | alternatives_first _ _ ih | alternatives_aborted _ _ ih =>
    exact (ih hbegun hentered).imp .alternatives_first (.refl _)
  | alternatives_next hhead hgoing hrest ih ih' =>
    rcases Trace.prefix_cases hentered hrest.frame.prefix_trace with hearlier | hlater
    · exact (ih hbegun hearlier).imp .alternatives_first (.of_frame hrest.frame)
    · exact (ih' hlater hentered).imp (.alternatives_next hhead hgoing) (.refl _)
  | repetition_ended _ ih => exact (ih hbegun hentered).imp .repetition_first (.refl _)
  | repetition_next hhead hlt _ hrest ih ih' =>
    rcases Trace.prefix_cases hentered hrest.frame.prefix_trace with hearlier | hlater
    · exact (ih hbegun hearlier).imp .repetition_first (.of_frame hrest.frame)
    · exact (ih' hlater hentered).imp (.repetition_next hhead hlt) (.refl _)
  | @repetition_dropped rule _ st _ _ cx' _ _ ih =>
    have hremarks := Remarks.record cx' (.stalled rule st.position) rfl
    exact (ih hbegun (hremarks.entered hentered)).imp .repetition_first (.remarks hremarks)
  | @repetition_kept rule _ _ _ attempt _ cx' _ _ _ ih =>
    have hremarks := Remarks.record cx' (.stalled rule attempt.position) rfl
    exact (ih hbegun (hremarks.entered hentered)).imp .repetition_first (.remarks hremarks)

/-! ## What is open where a rule is applied -/

/-- What is open where a task is begun is open wherever it comes to apply a rule. -/
theorem Calls.opened_suffix {rule' : Rule} {st' : ParseState}
    (h : Calls setting task st cx rule' st' cx') :
    Trace.opened cx.trace <:+ Trace.opened cx'.trace := by
  induction h with
  | self => exact List.suffix_rfl
  | evaluated henter _ _ ih =>
    rw [trace_enter henter, Trace.opened_enter] at ih
    exact (List.suffix_cons ..).trans ih
  | seq _ ih | choice _ ih | zeroOrMore _ ih | oneOrMore _ ih | opt _ ih | node _ ih
  | sequence_first _ ih | alternatives_first _ ih | repetition_first _ ih | notAhead _ ih
  | ahead _ ih => exact ih
  | recursive _ _ ih => rwa [(Nested.remarks (.record _ _ rfl)).opened_eq] at ih
  | sequence_next hhead _ ih | alternatives_next hhead _ _ ih | repetition_next hhead _ _ ih =>
    rwa [hhead.nested.opened_eq] at ih

/-- An application is open where something is applied inside it. -/
theorem Calls.mem_opened {rule' : Rule} {st' : ParseState}
    (h : Calls setting (.application rule) st cx rule' st' cx') (hlater : cx'.trace ≠ cx.trace) :
    (rule, st.position) ∈ Trace.opened cx'.trace := by
  cases h with
  | self => exact absurd rfl hlater
  | evaluated henter _ hcall =>
    have hsuffix := hcall.opened_suffix
    rw [trace_enter henter, Trace.opened_enter] at hsuffix
    exact hsuffix.subset List.mem_cons_self

/-- What is logged of an application that does not end in an abort. -/
theorem Executes.exists_trace_eq (h : Executes setting (.application rule) st cx matched after cx')
    (hfatal : cx'.fatal = none) :
    ∃ closed, Trace.Balanced closed ∧ cx'.trace = cx.trace ++ .enter rule st.position ::
      (closed ++ [.exit rule st.position (if matched then some after.position else none)]) := by
  cases h with
  | refused henter => exact absurd hfatal (fatal_ne_none_of_refused henter)
  | @recalled _ _ _ _ cx₁ entry _ henter _ hreplay =>
    refine ⟨[.memoHit rule st.position entry.stop?], fun _ => rfl, ?_⟩
    rw [trace_leaveRecalled, trace_enter henter, hreplay.stop?_eq]
    simp
  | evaluated henter _ hbody =>
    obtain ⟨events, htrace, hevents⟩ := hbody.nested
    refine ⟨events, hevents, ?_⟩
    rw [trace_leave, htrace, trace_enter henter]
    simp

end Packrat
