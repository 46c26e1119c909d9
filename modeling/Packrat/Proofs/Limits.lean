import Packrat.Proofs.Nesting
import Packrat.Proofs.Verdict

/-!
# Limits change no answer

Under other limits a run does what it did, application by application, up to the
first one that these limits refuse. From there on it is abandoned: an abort
travels upward as an ordinary failure, which lookaheads, options and repetitions
may turn into a success, but no application starts any more and the limit that
was met stays on record.

- `Limits.Admits limits events`: the limits refuse none of the applications that
  `events` begin. `Limits.Refuses`: they refuse one more application, and why.
- `Executes.admitted`: what the limits admit is executed under them as well.
- `Context.CutShort`: where a run was abandoned, measured on a run that was not.
  `Executes.cutShort`: what the limits do not admit is cut short.
- `Parser.run_limits`: a run under other limits has the same result, or a limit error.
-/

namespace Packrat

/-! ## What limits admit -/

namespace Limits

/-- The limits let another application start after `events`. -/
structure Allows (limits : Limits) (events : List Event) : Prop where
  fuel : ∀ fuel, limits.execFuel = some fuel → (Trace.applications events).length < fuel.toNat
  recursion : (Trace.opened events).length < limits.recursionLimit.toNat

/-- The limits refuse another application after `events`. Fuel is looked at first. -/
inductive Refuses (limits : Limits) (events : List Event) : LimitError → Prop where
  | fuel {fuel : UInt32} :
      limits.execFuel = some fuel → fuel.toNat ≤ (Trace.applications events).length →
      Refuses limits events (.execFuel fuel)
  | recursion :
      (∀ fuel, limits.execFuel = some fuel →
        (Trace.applications events).length < fuel.toNat) →
      limits.recursionLimit.toNat ≤ (Trace.opened events).length →
      Refuses limits events (.recursion limits.recursionLimit)

theorem Refuses.not_allows {limits : Limits} {events : List Event} {error : LimitError}
    (h : limits.Refuses events error) : ¬limits.Allows events := by
  intro hallows
  cases h with
  | fuel hfuel hmet => exact Nat.not_le_of_lt (hallows.fuel _ hfuel) hmet
  | recursion _ hmet => exact Nat.not_le_of_lt hallows.recursion hmet

/-- The limits refuse none of the applications that `events` begin: there are no
more than fuel allows, and fewer are open, wherever one begins, than may be. -/
structure Admits (limits : Limits) (events : List Event) : Prop where
  fuel : ∀ fuel, limits.execFuel = some fuel → (Trace.applications events).length ≤ fuel.toNat
  recursion : ∀ before rule pos, before ++ [.enter rule pos] <+: events →
    (Trace.opened before).length < limits.recursionLimit.toNat

namespace Admits

variable {limits : Limits} {events events' : List Event} {rule : Rule} {pos : Nat}

theorem nil (limits : Limits) : limits.Admits [] where
  fuel _ _ := Nat.zero_le _
  recursion before rule pos h := by simp at h

theorem earlier (h : limits.Admits events') (hearlier : events <+: events') :
    limits.Admits events where
  fuel fuel hfuel := by
    obtain ⟨rest, rfl⟩ := hearlier
    have hle := h.fuel fuel hfuel
    rw [Trace.applications_append, List.length_append] at hle
    omega
  recursion before rule pos hbefore := h.recursion before rule pos (hbefore.trans hearlier)

/-- Where an application begins, the limits allow it. -/
theorem allows (h : limits.Admits (events ++ [.enter rule pos])) : limits.Allows events where
  fuel fuel hfuel := by
    have hle := h.fuel fuel hfuel
    rw [Trace.applications_enter, List.length_append] at hle
    exact hle
  recursion := h.recursion events rule pos List.prefix_rfl

theorem enter (h : limits.Admits events) (hallows : limits.Allows events) (rule : Rule)
    (pos : Nat) : limits.Admits (events ++ [.enter rule pos]) where
  fuel fuel hfuel := by
    rw [Trace.applications_enter, List.length_append]
    exact hallows.fuel fuel hfuel
  recursion before rule' pos' hbefore := by
    rcases List.prefix_concat_iff.1 hbefore with hlast | hearlier
    · obtain ⟨rfl, -⟩ := List.append_inj' hlast rfl
      exact hallows.recursion
    · exact h.recursion before rule' pos' hearlier

/-- Only applications are refused. -/
theorem append (h : limits.Admits events)
    (hother : ∀ event ∈ events', event.application? = none) :
    limits.Admits (events ++ events') where
  fuel fuel hfuel := by
    have hnone : Trace.applications events' = [] := List.filterMap_eq_nil_iff.2 hother
    rw [Trace.applications_append, hnone, List.append_nil]
    exact h.fuel fuel hfuel
  recursion before rule pos hbefore := by
    refine h.recursion before rule pos (Trace.prefix_of_append hbefore fun hmem => ?_)
    cases hother _ hmem

theorem remarks {cx cx' : Context} (h : limits.Admits cx.trace) (hremarks : cx.Remarks cx') :
    limits.Admits cx'.trace := by
  obtain ⟨events, hevents, htrace, -⟩ := hremarks
  rw [htrace]
  exact h.append fun event hmem => Event.application?_eq_none (hevents event hmem)

theorem lookahead {cx : Context} (h : limits.Admits cx.trace) (source target : Nat) :
    limits.Admits (cx.closeLookahead.rewound source target).trace := by
  have hclosed : limits.Admits cx.closeLookahead.trace := h
  exact hclosed.remarks (.rewound ..)

end Admits

end Limits

/-! ## Counters -/

namespace Context

variable {setting : Setting} {limits : Limits} {rule : Rule} {pos : Nat}
  {cx cx₁ cx₂ cx' bx bx₁ bx' : Context}

/-- The counters say what the log says. Fuel is counted up to the largest number
that it is bounded by. -/
structure Counted (cx : Context) : Prop where
  fuelUsed_eq : cx.fuelUsed = min (Trace.applications cx.trace).length maxFuelUsed
  depth_eq : cx.depth = (Trace.opened cx.trace).length

namespace Counted

theorem start (memoize : Bool) : (Context.start memoize).Counted := ⟨rfl, rfl⟩

theorem entered (h : cx.Counted) (henter : cx.enter limits rule pos = (true, cx₁)) :
    cx₁.Counted where
  fuelUsed_eq := by
    have hfuel := h.fuelUsed_eq
    rw [trace_enter henter, Trace.applications_enter, List.length_append, List.length_singleton]
    obtain ⟨-, -, rfl⟩ := enter_eq_true_iff.1 henter
    dsimp only
    omega
  depth_eq := by
    rw [trace_enter henter, Trace.opened_enter, List.length_cons, ← h.depth_eq]
    obtain ⟨-, -, rfl⟩ := enter_eq_true_iff.1 henter
    rfl

theorem remarked (h : cx.Counted) (hremarks : cx.Remarks cx') : cx'.Counted := by
  obtain ⟨events, hevents, htrace, heq⟩ := hremarks
  constructor
  · rw [htrace, Trace.applications_append, Trace.applications_inner hevents, List.append_nil, heq]
    exact h.fuelUsed_eq
  · rw [htrace, (Trace.Balanced.inner hevents).opened_append, heq]
    exact h.depth_eq

theorem exited {stop : Option Nat} (h : cx.Counted)
    (htrace : cx'.trace = cx.trace ++ [.exit rule pos stop]) (hfuel : cx'.fuelUsed = cx.fuelUsed)
    (hdepth : cx'.depth = cx.depth - 1) : cx'.Counted where
  fuelUsed_eq := by
    have hnone : Trace.applications [.exit rule pos stop] = [] := rfl
    rw [hfuel, htrace, Trace.applications_append, hnone, List.append_nil]
    exact h.fuelUsed_eq
  depth_eq := by
    rw [hdepth, h.depth_eq, htrace, Trace.opened_append]
    exact List.length_tail.symm

theorem openLookahead (h : cx.Counted) : cx.openLookahead.Counted := ⟨h.fuelUsed_eq, h.depth_eq⟩

/-- Executions keep the counters right. -/
theorem invariant (setting : Setting) : Invariant setting fun _ cx => cx.Counted where
  remarked h hremarks := h.remarked hremarks
  refused {rule pos cx cx'} h henter := by
    rcases enter_eq_false_iff.1 henter with ⟨-, -, rfl⟩ | ⟨-, -, -, rfl⟩
    · exact h
    · exact ⟨h.fuelUsed_eq, h.depth_eq⟩
  entered h henter := h.entered henter
  recalled {rule st cx cx₁ entry} h henter _ := by
    have hfound : (cx₁.record (.memoHit rule st.position entry.stop?)).Counted :=
      (h.entered henter).remarked (.record _ _ rfl)
    exact hfound.exited List.reverse_cons rfl rfl
  left _ _ _ h := h.exited trace_leave fuelUsed_leave depth_leave
  opened h := h.openLookahead
  closed _ h := ⟨h.fuelUsed_eq, h.depth_eq⟩

/-- Fuel runs out when as many applications have been made. -/
theorem le_fuelUsed_iff (h : cx.Counted) (fuel : UInt32) :
    fuel.toNat ≤ cx.fuelUsed ↔ fuel.toNat ≤ (Trace.applications cx.trace).length := by
  have hfuel : fuel.toNat ≤ maxFuelUsed := Nat.le_sub_one_of_lt fuel.toNat_lt
  rw [h.fuelUsed_eq]
  omega

/-- Either a limit is met, and the limits refuse another application, or none is. -/
theorem limitMet?_cases (limits : Limits) (h : cx.Counted) :
    (∃ error, cx.limitMet? limits = some error ∧ limits.Refuses cx.trace error) ∨
      cx.limitMet? limits = none ∧ limits.Allows cx.trace := by
  have hrecursion (hfuel : ∀ fuel, limits.execFuel = some fuel →
        (Trace.applications cx.trace).length < fuel.toNat)
      (heq : cx.limitMet? limits = limitMet?.recursionMet? limits cx) :
      (∃ error, cx.limitMet? limits = some error ∧ limits.Refuses cx.trace error) ∨
        cx.limitMet? limits = none ∧ limits.Allows cx.trace := by
    rw [heq, limitMet?.recursionMet?, h.depth_eq]
    split
    · rename_i hmet
      exact .inl ⟨_, rfl, .recursion hfuel hmet⟩
    · rename_i hfree
      exact .inr ⟨rfl, hfuel, Nat.lt_of_not_le hfree⟩
  cases hlimit : limits.execFuel with
  | none =>
    refine hrecursion (fun fuel hfuel => ?_) (by rw [limitMet?, hlimit])
    rw [hlimit] at hfuel
    cases hfuel
  | some fuel =>
    by_cases hmet : fuel.toNat ≤ cx.fuelUsed
    · refine .inl ⟨.execFuel fuel, ?_, .fuel hlimit ((h.le_fuelUsed_iff fuel).1 hmet)⟩
      rw [limitMet?, hlimit]
      exact if_pos hmet
    · refine hrecursion (fun fuel' hfuel => ?_) ?_
      · rw [hlimit] at hfuel
        cases hfuel
        exact Nat.lt_of_not_le (mt (h.le_fuelUsed_iff fuel).2 hmet)
      · rw [limitMet?, hlimit]
        exact if_neg hmet

/-- What the limits allow is entered under them. -/
theorem enter_of_allows (h : cx.Counted) (hallows : limits.Allows cx.trace)
    {limits' : Limits} (henter : cx.enter limits' rule pos = (true, cx₁)) :
    cx.enter limits rule pos = (true, cx₁) := by
  obtain ⟨hfatal, -, hcx₁⟩ := enter_eq_true_iff.1 henter
  rcases h.limitMet?_cases limits with ⟨error, -, hrefuses⟩ | ⟨hmet, -⟩
  · exact absurd hallows hrefuses.not_allows
  · exact enter_eq_true_iff.2 ⟨hfatal, hmet, hcx₁⟩

end Counted

end Context

/-! ## Runs that the limits admit -/

open Context

variable {setting : Setting} {limits : Limits} {task : Task} {rule : Rule} {pos : Nat}
  {st after st₁ after' : ParseState} {cx cx₁ cx₂ cx' bx bx₁ bx' : Context} {matched matched' : Bool}

/-- The setting with other limits. -/
abbrev Setting.under (setting : Setting) (limits : Limits) : Setting := ⟨setting.scope, limits⟩

theorem Executes.counted (h : Executes setting task st cx matched after cx')
    (hcounted : cx.Counted) : cx'.Counted :=
  h.preserves (Counted.invariant setting) hcounted

theorem Limits.Admits.of_frame (h : limits.Admits cx'.trace) (hframe : Frame cx cx') :
    limits.Admits cx.trace :=
  h.earlier hframe.prefix_trace

theorem Limits.Admits.allows_of_enter (h : limits.Admits cx₁.trace) {limits' : Limits}
    (henter : cx.enter limits' rule pos = (true, cx₁)) : limits.Allows cx.trace := by
  rw [trace_enter henter] at h
  exact h.allows

/-- **What the limits admit is executed under them**, in the same way. -/
theorem Executes.admitted (h : Executes setting task st cx matched after cx')
    (hfatal : cx'.fatal = none) (hcounted : cx.Counted) (hadmits : limits.Admits cx'.trace) :
    Executes (setting.under limits) task st cx matched after cx' := by
  -- logs only grow, so what the limits admit at the end they admit after each part
  induction h with
  | refused henter => exact absurd hfatal (fatal_ne_none_of_refused henter)
  | @recalled rule st _ _ cx₁ entry _ henter hentry hreplay =>
    have hentered : limits.Admits cx₁.trace := by
      rw [trace_leaveRecalled] at hadmits
      exact hadmits.earlier (List.prefix_append ..)
    exact .recalled (hcounted.enter_of_allows (hentered.allows_of_enter henter) henter) hentry
      hreplay
  | @evaluated rule st _ _ cx₁ cx₂ _ henter hentry hbody ih =>
    rw [trace_leave] at hadmits
    rw [fatal_leave] at hfatal
    have hadmits₂ : limits.Admits cx₂.trace := hadmits.earlier (List.prefix_append ..)
    have hallows := (hadmits₂.of_frame hbody.frame).allows_of_enter henter
    exact .evaluated (hcounted.enter_of_allows hallows henter) hentry
      (ih hfatal (hcounted.entered henter) hadmits₂)
  | read hprimitive hread hadvance => exact .read hprimitive hread hadvance
  | unread hprimitive hread hmiss => exact .unread hprimitive hread hmiss
  | seq _ ih => exact .seq (ih hfatal hcounted hadmits)
  | choice _ ih => exact .choice (ih hfatal hcounted hadmits)
  | notAhead_failed _ hmiss ih =>
    have hframe := (Frame.rewound _ _ _).trans (Frame.miss hmiss)
    have hclosed := hadmits.of_frame hframe
    exact .notAhead_failed (ih (hframe.fatal_eq_none hfatal) hcounted.openLookahead hclosed) hmiss
  | @notAhead_matched _ _ st probe _ cx₁ _ ih =>
    have hframe := Frame.rewound probe.position st.position cx₁.closeLookahead
    have hclosed := hadmits.of_frame hframe
    exact .notAhead_matched (ih (hframe.fatal_eq_none hfatal) hcounted.openLookahead hclosed)
  | ahead_failed _ hmiss ih =>
    have hframe := (Frame.rewound _ _ _).trans (Frame.miss hmiss)
    have hclosed := hadmits.of_frame hframe
    exact .ahead_failed (ih (hframe.fatal_eq_none hfatal) hcounted.openLookahead hclosed) hmiss
  | @ahead_matched _ _ st probe _ cx₁ _ ih =>
    have hframe := Frame.rewound probe.position st.position cx₁.closeLookahead
    have hclosed := hadmits.of_frame hframe
    exact .ahead_matched (ih (hframe.fatal_eq_none hfatal) hcounted.openLookahead hclosed)
  | zeroOrMore _ ih => exact .zeroOrMore (ih hfatal hcounted hadmits)
  | oneOrMore _ ih => exact .oneOrMore (ih hfatal hcounted hadmits)
  | opt_taken _ hinput ih => exact .opt_taken (ih hfatal hcounted hadmits) hinput
  | opt_left _ ih => exact .opt_left (ih hfatal hcounted hadmits)
  | node_failed _ ih => exact .node_failed (ih hfatal hcounted hadmits)
  | node_matched _ hle htoken hseek ih =>
    exact .node_matched (ih hfatal hcounted (hadmits.of_frame (.record ..))) hle htoken hseek
  | recursive htarget _ ih =>
    exact .recursive htarget (ih hfatal (hcounted.remarked (.record _ _ rfl)) hadmits)
  | sequence_nil hinput => exact .sequence_nil hinput
  | sequence_failed _ ih =>
    exact .sequence_failed
      (ih ((Frame.rewound ..).fatal_eq_none hfatal) hcounted (hadmits.of_frame (.rewound ..)))
  | sequence_next hhead hrest ih ih' =>
    exact .sequence_next
      (ih (hrest.frame.fatal_eq_none hfatal) hcounted (hadmits.of_frame hrest.frame))
      (ih' hfatal (hhead.counted hcounted) hadmits)
  | alternatives_nil => exact .alternatives_nil
  | alternatives_first _ hinput ih => exact .alternatives_first (ih hfatal hcounted hadmits) hinput
  | alternatives_aborted _ haborted ih =>
    exact .alternatives_aborted (ih hfatal hcounted hadmits) haborted
  | alternatives_next hhead haborted hrest ih ih' =>
    exact .alternatives_next
      (ih (hrest.frame.fatal_eq_none hfatal) hcounted (hadmits.of_frame hrest.frame)) haborted
      (ih' hfatal (hhead.counted hcounted) hadmits)
  | repetition_ended _ ih => exact .repetition_ended (ih hfatal hcounted hadmits)
  | repetition_next hhead hlt hinput hrest ih ih' =>
    exact .repetition_next
      (ih (hrest.frame.fatal_eq_none hfatal) hcounted (hadmits.of_frame hrest.frame)) hlt hinput
      (ih' hfatal (hhead.counted hcounted) hadmits)
  | repetition_dropped _ hnot ih =>
    exact .repetition_dropped (ih hfatal hcounted (hadmits.of_frame (.record ..))) hnot
  | repetition_kept _ hnot hinput ih =>
    exact .repetition_kept (ih hfatal hcounted (hadmits.of_frame (.record ..))) hnot hinput

/-! ## What a task does first -/

/-- What the task, begun in `st` and `cx`, does first: all that it is made of, or
the application of an operand. -/
def Task.first? (scope : Scope) (st : ParseState) (cx : Context) :
    Task → Option (Task × ParseState × Context)
  | .body (.seq _ rules) => some (.sequence st rules, st, cx)
  | .body (.choice _ rules) => some (.alternatives rules, st, cx)
  | .body (.notAhead _ operand) | .body (.ahead _ operand) =>
    some (.application operand, st, cx.openLookahead)
  | .body (.zeroOrMore id operand) =>
    some (.repetition (.zeroOrMore id operand) operand 0, st, cx)
  | .body (.oneOrMore id operand) => some (.repetition (.oneOrMore id operand) operand 1, st, cx)
  | .body (.opt _ operand) => some (.application operand, st, cx)
  | .body (.node _ operand) => some (.application operand, st.scope, cx)
  | .body (.recursive id key) =>
    (scope.target id key).map fun target =>
      (.application target, st, cx.record (.resolved id target))
  | .sequence _ (rule :: _) | .alternatives (rule :: _) => some (.application rule, st, cx)
  | .repetition _ operand _ => some (.application operand, st, cx)
  | _ => none

theorem Task.first?_of_isPrimitive {scope : Scope} (h : rule.isPrimitive = true) :
    (Task.body rule).first? scope st cx = none := by
  cases rule <;> first | rfl | cases h

/-- An execution begins with what its task does first. If the parse is abandoned
there, it stays so. -/
theorem Executes.first {task₁ : Task} (h : Executes setting task st cx matched after cx')
    (hfirst : task.first? setting.scope st cx = some (task₁, st₁, cx₁)) :
    ∃ matched₁ after₁ cx₂, Executes setting task₁ st₁ cx₁ matched₁ after₁ cx₂ ∧ cx₂.Idles cx' := by
  cases h with
  | refused | recalled | evaluated | sequence_nil | alternatives_nil => cases hfirst
  | read hprimitive | unread hprimitive =>
    rw [Task.first?_of_isPrimitive hprimitive] at hfirst
    cases hfirst
  | seq hrest | choice hrest | zeroOrMore hrest | oneOrMore hrest | opt_taken hrest
  | opt_left hrest | node_failed hrest | alternatives_first hrest | alternatives_aborted hrest
  | repetition_ended hrest =>
    cases hfirst
    exact ⟨_, _, _, hrest, .refl _⟩
  | notAhead_failed hprobe hmiss | ahead_failed hprobe hmiss =>
    cases hfirst
    exact ⟨_, _, _, hprobe, (Idles.closeLookahead _ _).trans (.miss hmiss)⟩
  | notAhead_matched hprobe | ahead_matched hprobe =>
    cases hfirst
    exact ⟨_, _, _, hprobe, .closeLookahead _ _⟩
  | node_matched hoperand | repetition_dropped hoperand | repetition_kept hoperand =>
    cases hfirst
    exact ⟨_, _, _, hoperand, .record _ _ rfl⟩
  | recursive htarget happly =>
    rw [Task.first?, htarget] at hfirst
    cases hfirst
    exact ⟨_, _, _, happly, .refl _⟩
  | sequence_failed hhead =>
    cases hfirst
    exact ⟨_, _, _, hhead, .rewound _ _ _⟩
  | sequence_next hhead hrest | alternatives_next hhead _ hrest
  | repetition_next hhead _ _ hrest =>
    cases hfirst
    exact ⟨_, _, _, hhead, hrest.idles⟩

/-! ## What comes after the first operand -/

theorem Executes.sequence_rest {origin attempt next : ParseState} {rest : List Rule}
    (h : Executes setting (.sequence origin (rule :: rest)) attempt cx matched after cx')
    (hhead : Executes setting (.application rule) attempt cx true next cx₁) :
    Executes setting (.sequence origin rest) next cx₁ matched after cx' := by
  cases h with
  | sequence_failed hhead' => cases (hhead.application_det hhead').1
  | sequence_next hhead' hrest =>
    obtain ⟨-, rfl, rfl⟩ := hhead.application_det hhead'
    exact hrest

theorem Executes.alternatives_rest {attempt : ParseState} {rest : List Rule}
    (h : Executes setting (.alternatives (rule :: rest)) st cx matched after cx')
    (hhead : Executes setting (.application rule) st cx false attempt cx₁)
    (hgoing : cx₁.isAborted = false) :
    Executes setting (.alternatives rest) st cx₁ matched after cx' := by
  cases h with
  | alternatives_first hhead' => cases (hhead.application_det hhead').1
  | alternatives_aborted hhead' haborted =>
    obtain ⟨-, -, rfl⟩ := hhead.application_det hhead'
    rw [hgoing] at haborted
    cases haborted
  | alternatives_next hhead' _ hrest =>
    obtain ⟨-, -, rfl⟩ := hhead.application_det hhead'
    exact hrest

theorem Executes.repetition_rest {operand : Rule} {attempt : ParseState} {required : Nat}
    (h : Executes setting (.repetition rule operand required) st cx matched after cx')
    (hhead : Executes setting (.application operand) st cx true attempt cx₁)
    (hlt : st.position < attempt.position) :
    Executes setting (.repetition rule operand (required - 1)) attempt cx₁ matched after cx' := by
  cases h with
  | repetition_ended hhead' => cases (hhead.application_det hhead').1
  | repetition_next hhead' _ _ hrest =>
    obtain ⟨-, rfl, rfl⟩ := hhead.application_det hhead'
    exact hrest
  | repetition_dropped hhead' hnot | repetition_kept hhead' hnot =>
    obtain ⟨-, rfl, -⟩ := hhead.application_det hhead'
    exact absurd hlt hnot

/-! ## Runs that are cut short -/

/-- A run that ended in `cx'` is cut short by the limits: the other run, which
ended in `bx'`, made the same applications up to the first one that the limits
refuse, and was abandoned there. -/
def Context.CutShort (limits : Limits) (cx' bx' : Context) : Prop :=
  ∃ before rule pos error, before ++ [.enter rule pos] <+: cx'.trace ∧ limits.Admits before ∧
    limits.Refuses before error ∧ bx'.fatal = some error ∧
    Trace.applications bx'.trace = Trace.applications before

theorem Context.CutShort.later (h : cx.CutShort limits bx) (hearlier : cx.trace <+: cx'.trace)
    (hstays : bx.Stays bx') : cx'.CutShort limits bx' := by
  obtain ⟨before, rule, pos, error, hbefore, hadmits, hrefuses, hfatal, heq⟩ := h
  obtain ⟨hfatal', heq'⟩ := hstays error hfatal
  exact ⟨before, rule, pos, error, hbefore.trans hearlier, hadmits, hrefuses, hfatal',
    heq'.trans heq⟩

/-- An application that the limits refuse is where a run is cut short. -/
theorem Context.Counted.cutShort (hcounted : cx.Counted) (hadmits : limits.Admits cx.trace)
    (hallows : ¬limits.Allows cx.trace) {limits' : Limits}
    (henter : cx.enter limits' rule st.position = (true, cx₁)) (hearlier : cx₁.trace <+: cx'.trace)
    (h' : Executes (setting.under limits) (.application rule) st cx matched' after' bx') :
    cx'.CutShort limits bx' := by
  obtain ⟨error, hmet, hrefuses⟩ | ⟨-, hallows'⟩ := hcounted.limitMet?_cases limits
  · have hfatal : cx.fatal = none := (enter_eq_true_iff.1 henter).1
    have hrefused : cx.enter (setting.under limits).limits rule st.position =
        (false, { cx with fatal := some error }) :=
      enter_eq_false_iff.2 (.inr ⟨hfatal, error, hmet, rfl⟩)
    obtain ⟨-, -, rfl⟩ := (Executes.application_iff_of_refused hrefused).1 h'
    rw [trace_enter henter] at hearlier
    exact ⟨cx.trace, rule, st.position, error, hearlier, hadmits, hrefuses, rfl, rfl⟩
  · exact absurd hallows' hallows

/-- **What the limits do not admit is cut short** at the first application that
they refuse, whatever encloses it. -/
theorem Executes.cutShort (h : Executes setting task st cx matched after cx')
    (hfatal : cx'.fatal = none) (hcounted : cx.Counted) (hadmits : limits.Admits cx.trace)
    (hnot : ¬limits.Admits cx'.trace)
    (h' : Executes (setting.under limits) task st cx matched' after' bx') :
    cx'.CutShort limits bx' := by
  induction h generalizing matched' after' bx' with
  | refused henter => exact absurd hfatal (fatal_ne_none_of_refused henter)
  | @recalled rule st _ cx cx₁ entry _ henter hentry hreplay =>
    refine hcounted.cutShort hadmits (fun hallows => hnot ?_) henter ?_ h'
    · rw [trace_leaveRecalled, trace_enter henter]
      exact (hadmits.enter hallows rule st.position).append (by simp [Event.application?])
    · rw [trace_leaveRecalled]
      exact List.prefix_append ..
  | @evaluated rule st _ cx cx₁ cx₂ _ henter hentry hbody ih =>
    rw [fatal_leave] at hfatal
    by_cases hallows : limits.Allows cx.trace
    · have henter' := hcounted.enter_of_allows hallows henter
      rcases (application_iff_of_entered henter').1 h' with
        ⟨entry, hentry', -⟩ | ⟨-, bx₂, hbody', rfl⟩
      · rw [hentry] at hentry'
        cases hentry'
      · have hadmits₁ : limits.Admits cx₁.trace := by
          rw [trace_enter henter]
          exact hadmits.enter hallows rule st.position
        have hnot₂ : ¬limits.Admits cx₂.trace := fun hadmits₂ =>
          hnot (by rw [trace_leave]; exact hadmits₂.append (by simp [Event.application?]))
        refine (ih hfatal (hcounted.entered henter) hadmits₁ hnot₂ hbody').later ?_ .leave
        rw [trace_leave]
        exact List.prefix_append ..
    · refine hcounted.cutShort hadmits hallows henter ?_ h'
      rw [trace_leave]
      exact hbody.frame.prefix_trace.trans (List.prefix_append ..)
  | read | sequence_nil | alternatives_nil => exact absurd hadmits hnot
  | unread _ _ hmiss => exact absurd (hadmits.remarks (.miss hmiss)) hnot
  | seq _ ih | choice _ ih | zeroOrMore _ ih | oneOrMore _ ih | opt_taken _ _ ih
  | opt_left _ ih | node_failed _ ih | alternatives_first _ _ ih
  | alternatives_aborted _ _ ih | repetition_ended _ ih =>
    obtain ⟨_, _, _, h₁, hidles⟩ := h'.first rfl
    exact (ih hfatal hcounted hadmits hnot h₁).later List.prefix_rfl hidles.stays
  | notAhead_failed _ hmiss ih | ahead_failed _ hmiss ih =>
    obtain ⟨_, _, _, h₁, hidles⟩ := h'.first rfl
    have hframe := (Frame.rewound _ _ _).trans (Frame.miss hmiss)
    refine (ih (hframe.fatal_eq_none hfatal) hcounted.openLookahead hadmits (fun hadmits₁ => ?_)
      h₁).later hframe.prefix_trace hidles.stays
    exact hnot ((hadmits₁.lookahead _ _).remarks (.miss hmiss))
  | @notAhead_matched _ _ st probe _ cx₁ _ ih | @ahead_matched _ _ st probe _ cx₁ _ ih =>
    obtain ⟨_, _, _, h₁, hidles⟩ := h'.first rfl
    have hframe := Frame.rewound probe.position st.position cx₁.closeLookahead
    refine (ih (hframe.fatal_eq_none hfatal) hcounted.openLookahead hadmits (fun hadmits₁ => ?_)
      h₁).later hframe.prefix_trace hidles.stays
    exact hnot (hadmits₁.lookahead _ _)
  | node_matched _ _ _ _ ih | repetition_dropped _ _ ih | repetition_kept _ _ _ ih =>
    obtain ⟨_, _, _, h₁, hidles⟩ := h'.first rfl
    refine (ih hfatal hcounted hadmits (fun hadmits₁ => ?_) h₁).later (Frame.record ..).prefix_trace
      hidles.stays
    exact hnot (hadmits₁.remarks (.record _ _ rfl))
  | @recursive id key target st _ cx _ _ htarget _ ih =>
    have hresolved := Remarks.record cx (.resolved id target) rfl
    obtain ⟨_, _, _, h₁, hidles⟩ := h'.first (by rw [Task.first?, htarget]; rfl)
    exact (ih hfatal (hcounted.remarked hresolved) (hadmits.remarks hresolved) hnot h₁).later
      List.prefix_rfl hidles.stays
  | @sequence_failed origin _ next _ _ _ cx' _ ih =>
    obtain ⟨_, _, _, h₁, hidles⟩ := h'.first rfl
    have hframe := Frame.rewound next.position origin.position cx'
    refine (ih (hframe.fatal_eq_none hfatal) hcounted hadmits (fun hadmits₁ => ?_) h₁).later
      hframe.prefix_trace hidles.stays
    exact hnot (hadmits₁.remarks (.rewound ..))
  -- the limits are met by the first operand, or else by what comes after it
  | @sequence_next _ _ _ _ _ _ _ cx₁ _ _ hhead hrest ih ih' =>
    have hfatal₁ := hrest.frame.fatal_eq_none hfatal
    by_cases hadmits₁ : limits.Admits cx₁.trace
    · have hhead' := hhead.admitted hfatal₁ hcounted hadmits₁
      exact ih' hfatal (hhead.counted hcounted) hadmits₁ hnot (h'.sequence_rest hhead')
    · obtain ⟨_, _, _, h₁, hidles⟩ := h'.first rfl
      exact (ih hfatal₁ hcounted hadmits hadmits₁ h₁).later hrest.frame.prefix_trace hidles.stays
  | @alternatives_next _ _ _ _ _ _ cx₁ _ _ hhead hgoing hrest ih ih' =>
    have hfatal₁ := hrest.frame.fatal_eq_none hfatal
    by_cases hadmits₁ : limits.Admits cx₁.trace
    · have hhead' := hhead.admitted hfatal₁ hcounted hadmits₁
      exact ih' hfatal (hhead.counted hcounted) hadmits₁ hnot (h'.alternatives_rest hhead' hgoing)
    · obtain ⟨_, _, _, h₁, hidles⟩ := h'.first rfl
      exact (ih hfatal₁ hcounted hadmits hadmits₁ h₁).later hrest.frame.prefix_trace hidles.stays
  | @repetition_next _ _ _ _ _ _ _ cx₁ _ _ hhead hlt _ hrest ih ih' =>
    have hfatal₁ := hrest.frame.fatal_eq_none hfatal
    by_cases hadmits₁ : limits.Admits cx₁.trace
    · have hhead' := hhead.admitted hfatal₁ hcounted hadmits₁
      exact ih' hfatal (hhead.counted hcounted) hadmits₁ hnot (h'.repetition_rest hhead' hlt)
    · obtain ⟨_, _, _, h₁, hidles⟩ := h'.first rfl
      exact (ih hfatal₁ hcounted hadmits hadmits₁ h₁).later hrest.frame.prefix_trace hidles.stays

/-! ## Runs of a parser -/

namespace Parser

/-- **Limits change no answer, they only replace it by an error of their own.** A
run that met no limit is the same run under limits that admit it. Under others it
ends with the limit that refuses the first application that is too many, and up to
there it makes the same applications. -/
theorem run_limits (p : Parser) (limits : Limits) (scope : Scope)
    (hresolves : scope.Resolves p.root) (input : String) (complete : Bool)
    (hlimit : ∀ error, (p.run scope input complete).result ≠ .ok (.error (.limit error))) :
    (limits.Admits (p.run scope input complete).events →
      { p with limits }.run scope input complete = p.run scope input complete) ∧
    (¬limits.Admits (p.run scope input complete).events →
      ∃ before rule pos error,
        before ++ [.enter rule pos] <+: (p.run scope input complete).events ∧
          limits.Admits before ∧ limits.Refuses before error ∧
          ({ p with limits }.run scope input complete).result = .ok (.error (.limit error)) ∧
          Trace.applications ({ p with limits }.run scope input complete).events =
            Trace.applications before) := by
  let bounded : Parser := { p with limits }
  have hroom := Nat.le_add_right limits.recursionLimit.toNat 0
  obtain ⟨matched, st, cx, happly, hexec⟩ := p.exists_run hresolves input
  obtain ⟨matched', st', bx, happly', hexec'⟩ := bounded.exists_run hresolves input
  rw [p.run_eq_of_apply happly] at hlimit ⊢
  have hfatal : cx.fatal = none := fatal_eq_none_of_verdict hlimit
  have hcounted : (Context.start p.memoize).Counted := .start p.memoize
  constructor
  · intro hadmits
    have hsame := hexec.admitted hfatal hcounted hadmits
    exact bounded.run_eq_of_apply ((apply_eq_ok_iff hroom).2 hsame)
  · intro hnot
    obtain ⟨before, rule, pos, error, hbefore, hadmits, hrefuses, hfatal', heq⟩ :=
      hexec.cutShort hfatal hcounted (.nil limits) hnot hexec'
    rw [bounded.run_eq_of_apply happly']
    exact ⟨before, rule, pos, error, hbefore, hadmits, hrefuses, verdict_limit hfatal', heq⟩

/-- Three applications are not enough for a quotation of one letter: the fourth is
refused, and no choice around it makes the run end otherwise. -/
theorem run_limits_quotation :
    ∃ error,
      ({ ofRule Quotation.text with limits := ⟨some 3, 1024⟩ }.run Quotation.scope "«é»"
          true).result = .ok (.error (.limit error)) ∧
        (Trace.applications ({ ofRule Quotation.text with limits := ⟨some 3, 1024⟩ }.run
          Quotation.scope "«é»" true).events).length ≤ 3 := by
  have hmany : 3 < (Trace.applications
      ((ofRule Quotation.text).run Quotation.scope "«é»" true).events).length := by
    decide +kernel
  obtain ⟨before, -, -, error, -, hadmits, -, hresult, heq⟩ :=
    (run_limits (ofRule Quotation.text) ⟨some 3, 1024⟩ Quotation.scope Quotation.resolves "«é»"
      true (Report.result_ne_limit (by decide +kernel))).2
        fun hadmits => Nat.not_le_of_lt hmany (hadmits.fuel 3 rfl)
  refine ⟨error, hresult, ?_⟩
  rw [heq]
  exact hadmits.fuel 3 rfl

end Parser

end Packrat
