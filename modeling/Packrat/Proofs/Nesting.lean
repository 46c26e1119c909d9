import Packrat.Proofs.Reachable

/-!
# Nesting of applications

A log has an event where an application begins and one where it is over. Read as
brackets, they say which applications are open at each point of a run.

- `Trace.applications`, `Trace.opened`: the applications that a part of a log
  begins, and those that are open after it.
- `Executes.nested`: what a task logs is balanced, so it leaves open what was open.
- `Context.Invariant`: a property of contexts that no single step of the engine
  breaks. Executions keep it (`Executes.preserves`), and it holds where they come
  to apply a rule (`Calls.preserves`).
- `Context.Idles`: what an abandoned parse still does. `Executes.idles`: executions
  do no more than that.
-/

namespace Packrat

/-- The rules that only look ahead. -/
def Rule.isLookahead : Rule → Bool
  | .notAhead .. | .ahead .. => true
  | _ => false

/-- What is between the beginning of a lookahead and its probe. -/
def Task.isProbe : Task → Bool
  | .body rule => rule.isLookahead
  | _ => false

/-! ## Events as brackets -/

namespace Event

/-- The rule and the offset of the application that begins with the event. -/
def application? : Event → Option (Rule × Nat)
  | .enter rule pos => some (rule, pos)
  | _ => none

/-- The open applications after the event, the innermost one first. -/
def nest (opened : List (Rule × Nat)) : Event → List (Rule × Nat)
  | .enter rule pos => (rule, pos) :: opened
  | .exit .. => opened.tail
  | _ => opened

/-- Whether the event happens inside an application, neither beginning nor
ending one. -/
def isInner : Event → Bool
  | .enter .. | .exit .. => false
  | _ => true

/-- Whether the event still happens where no rule is applied any more, and no outcome
recalled. -/
def isIdle : Event → Bool
  | .enter .. | .exit .. | .memoHit .. => false
  | _ => true

theorem isInner_of_isIdle {event : Event} (h : event.isIdle = true) : event.isInner = true := by
  cases event <;> first | rfl | cases h

theorem application?_eq_none {event : Event} (h : event.isInner = true) :
    event.application? = none := by
  cases event <;> first | rfl | cases h

theorem nest_eq {event : Event} (h : event.isInner = true) (opened : List (Rule × Nat)) :
    event.nest opened = opened := by
  cases event <;> first | rfl | cases h

end Event

namespace Trace

/-- The applications that begin, in the order in which they do. -/
def applications (events : List Event) : List (Rule × Nat) :=
  events.filterMap Event.application?

/-- The open applications after the events, where `opened` are open before them. -/
def nest (opened : List (Rule × Nat)) (events : List Event) : List (Rule × Nat) :=
  events.foldl Event.nest opened

/-- The open applications after the events of a run, the innermost one first. -/
def opened (events : List Event) : List (Rule × Nat) := nest [] events

/-- The events end what they begin, and nothing else. -/
def Balanced (events : List Event) : Prop := ∀ opened, nest opened events = opened

variable {events events' : List Event} {rule : Rule} {pos : Nat} {stop : Option Nat}

theorem nest_append (stack : List (Rule × Nat)) (events events' : List Event) :
    nest stack (events ++ events') = nest (nest stack events) events' :=
  List.foldl_append

theorem applications_append (events events' : List Event) :
    applications (events ++ events') = applications events ++ applications events' :=
  List.filterMap_append ..

theorem opened_append (events events' : List Event) :
    opened (events ++ events') = nest (opened events) events' :=
  nest_append ..

theorem opened_enter (events : List Event) (rule : Rule) (pos : Nat) :
    opened (events ++ [.enter rule pos]) = (rule, pos) :: opened events :=
  opened_append ..

theorem applications_enter (events : List Event) (rule : Rule) (pos : Nat) :
    applications (events ++ [.enter rule pos]) = applications events ++ [(rule, pos)] :=
  applications_append ..

theorem applications_inner (h : ∀ event ∈ events, event.isInner = true) :
    applications events = [] :=
  List.filterMap_eq_nil_iff.2 fun event hmem => Event.application?_eq_none (h event hmem)

/-- An event that is not among the later ones is among the earlier ones. -/
theorem prefix_of_append {before : List Event} {event : Event}
    (h : before ++ [event] <+: events ++ events') (hnot : event ∉ events') :
    before ++ [event] <+: events := by
  induction events' generalizing events with
  | nil => rwa [List.append_nil] at h
  | cons later rest ih =>
    have hlater : before ++ [event] <+: events ++ [later] ++ rest := by
      rwa [List.append_assoc]
    rcases List.prefix_concat_iff.1 (ih hlater (mt (List.mem_cons_of_mem later) hnot)) with
      hlast | hearlier
    · obtain ⟨-, hevent⟩ := List.append_inj' hlast rfl
      cases hevent
      exact absurd List.mem_cons_self hnot
    · exact hearlier

namespace Balanced

theorem nil : Balanced [] := fun _ => rfl

theorem append (h : Balanced events) (h' : Balanced events') : Balanced (events ++ events') := by
  intro stack
  rw [nest_append, h, h']

theorem inner (h : ∀ event ∈ events, event.isInner = true) : Balanced events := by
  intro stack
  induction events with
  | nil => rfl
  | cons event rest ih =>
    show nest (event.nest stack) rest = stack
    rw [Event.nest_eq (h event List.mem_cons_self)]
    exact ih fun event' hmem => h event' (List.mem_cons_of_mem _ hmem)

/-- An application is balanced if what it encloses is. -/
theorem enclosed (h : Balanced events) (rule : Rule) (pos : Nat) (stop : Option Nat) :
    Balanced (.enter rule pos :: events ++ [.exit rule pos stop]) := by
  intro stack
  rw [nest_append]
  show (nest ((rule, pos) :: stack) events).tail = stack
  rw [h]
  rfl

theorem opened_append (h : Balanced events') (events : List Event) :
    opened (events ++ events') = opened events := by
  rw [Trace.opened_append, h]

end Balanced

end Trace

/-! ## Logs in the order of events -/

namespace Context

variable {setting : Setting} {limits : Limits} {scope : Scope} {rule : Rule} {pos : Nat}
  {cx cx₁ cx₂ cx' : Context} {st after : ParseState} {matched : Bool}

/-- What has happened, the first event first. -/
def trace (cx : Context) : List Event := cx.log.reverse

@[simp] theorem trace_start (memoize : Bool) : (start memoize).trace = [] := rfl

@[simp] theorem trace_record (cx : Context) (event : Event) :
    (cx.record event).trace = cx.trace ++ [event] :=
  List.reverse_cons

@[simp] theorem trace_leave : (cx.leave scope rule st matched after).trace =
    cx.trace ++ [.exit rule st.position (if matched then some after.position else none)] := by
  rw [trace, log_leave, List.reverse_cons]
  rfl

@[simp] theorem trace_leaveRecalled {entry : MemoEntry} :
    (cx.leaveRecalled rule st entry).trace =
      cx.trace ++ [.memoHit rule st.position entry.stop?, .exit rule st.position entry.stop?] := by
  show (_ :: _ :: cx.log).reverse = _
  rw [List.reverse_cons, List.reverse_cons, List.append_assoc]
  rfl

theorem trace_enter (h : cx.enter limits rule pos = (true, cx₁)) :
    cx₁.trace = cx.trace ++ [.enter rule pos] := by
  obtain ⟨-, -, rfl⟩ := enter_eq_true_iff.1 h
  exact List.reverse_cons

theorem trace_refused (h : cx.enter limits rule pos = (false, cx')) : cx'.trace = cx.trace := by
  rcases enter_eq_false_iff.1 h with ⟨-, -, rfl⟩ | ⟨-, -, -, rfl⟩ <;> rfl

/-- An application that was refused leaves an abandoned parse. -/
theorem fatal_ne_none_of_refused
    (h : cx.enter limits rule pos = (false, cx')) : cx'.fatal ≠ none := by
  rcases enter_eq_false_iff.1 h with ⟨error, hfatal, rfl⟩ | ⟨-, error, -, rfl⟩
  · rw [hfatal]
    exact Option.some_ne_none error
  · exact Option.some_ne_none error

theorem Frame.prefix_trace (h : Frame cx cx') : cx.trace <+: cx'.trace :=
  List.reverse_prefix.2 h.log_suffix

/-! ## Remarks -/

/-- `cx'` differs from `cx` in what is expected, and in what was logged without
beginning or ending an application. -/
def Remarks (cx cx' : Context) : Prop :=
  ∃ events, (∀ event ∈ events, event.isInner = true) ∧ cx'.trace = cx.trace ++ events ∧
    cx' = { cx with furthest := cx'.furthest, expected := cx'.expected, log := cx'.log }

namespace Remarks

theorem record (cx : Context) (event : Event) (h : event.isInner = true) :
    Remarks cx (cx.record event) :=
  ⟨[event], fun _ hmem => List.mem_singleton.1 hmem ▸ h, trace_record .., rfl⟩

theorem rewound (source target : Nat) (cx : Context) : Remarks cx (cx.rewound source target) := by
  rcases rewound_eq source target cx with h | h
  · rw [h]
    exact ⟨[], by simp, (List.append_nil _).symm, rfl⟩
  · rw [h]
    exact record cx _ rfl

theorem miss (h : cx.miss scope rule pos = some cx') : Remarks cx cx' := by
  obtain ⟨events, hevents, rfl⟩ := miss_eq_some h
  refine ⟨events.reverse, fun event hmem => ?_, List.reverse_append, by rw [expect_eq]⟩
  obtain ⟨id, target, rfl⟩ := hevents event (List.mem_reverse.1 hmem)
  rfl

end Remarks

/-! ## Executions are nested -/

/-- What was logged between `cx` and `cx'` is balanced. -/
def Nested (cx cx' : Context) : Prop :=
  ∃ events, cx'.trace = cx.trace ++ events ∧ Trace.Balanced events

namespace Nested

theorem of_trace_eq (h : cx'.trace = cx.trace) : Nested cx cx' :=
  ⟨[], h.trans (List.append_nil _).symm, .nil⟩

theorem refl (cx : Context) : Nested cx cx := .of_trace_eq rfl

theorem trans (h : Nested cx cx₁) (h' : Nested cx₁ cx') : Nested cx cx' := by
  obtain ⟨events, htrace, hevents⟩ := h
  obtain ⟨events', htrace', hevents'⟩ := h'
  exact ⟨events ++ events', by rw [htrace', htrace, List.append_assoc], hevents.append hevents'⟩

theorem remarks (h : Remarks cx cx') : Nested cx cx' := by
  obtain ⟨events, hevents, htrace, -⟩ := h
  exact ⟨events, htrace, .inner hevents⟩

theorem lookahead (h : Nested cx.openLookahead cx₁) (source target : Nat) :
    Nested cx (cx₁.closeLookahead.rewound source target) := by
  have hclosed : Nested cx cx₁.closeLookahead := h
  exact hclosed.trans (.remarks (.rewound ..))

theorem leave (henter : cx.enter limits rule st.position = (true, cx₁)) (h : Nested cx₁ cx₂) :
    Nested cx (cx₂.leave scope rule st matched after) := by
  obtain ⟨events, htrace, hevents⟩ := h
  refine ⟨_, ?_, hevents.enclosed rule st.position (if matched then some after.position else none)⟩
  rw [trace_leave, htrace, trace_enter henter]
  simp

theorem leaveRecalled {entry : MemoEntry}
    (henter : cx.enter limits rule st.position = (true, cx₁)) :
    Nested cx (cx₁.leaveRecalled rule st entry) := by
  have hinner : Trace.Balanced [.memoHit rule st.position entry.stop?] := fun _ => rfl
  refine ⟨_, ?_, hinner.enclosed rule st.position entry.stop?⟩
  rw [trace_leaveRecalled, trace_enter henter]
  simp

/-- What was open is open again. -/
theorem opened_eq (h : Nested cx cx') : Trace.opened cx'.trace = Trace.opened cx.trace := by
  obtain ⟨events, htrace, hevents⟩ := h
  rw [htrace, hevents.opened_append]

end Nested

end Context

open Context

variable {setting : Setting} {task : Task} {st after : ParseState} {cx cx' : Context}
  {matched : Bool}

/-- **What an execution logs is balanced.** -/
theorem Executes.nested (h : Executes setting task st cx matched after cx') : Nested cx cx' := by
  induction h with
  | refused henter => exact .of_trace_eq (trace_refused henter)
  | recalled henter => exact .leaveRecalled henter
  | evaluated henter _ _ ih => exact .leave henter ih
  | read | sequence_nil | alternatives_nil => exact .refl _
  | unread _ _ hmiss => exact .remarks (.miss hmiss)
  | seq _ ih | choice _ ih | zeroOrMore _ ih | oneOrMore _ ih | opt_taken _ _ ih
  | opt_left _ ih | node_failed _ ih | alternatives_first _ _ ih
  | alternatives_aborted _ _ ih | repetition_ended _ ih => exact ih
  | notAhead_failed _ hmiss ih | ahead_failed _ hmiss ih =>
    exact (ih.lookahead _ _).trans (.remarks (.miss hmiss))
  | notAhead_matched _ ih | ahead_matched _ ih => exact ih.lookahead _ _
  | node_matched _ _ _ _ ih | repetition_dropped _ _ ih | repetition_kept _ _ _ ih =>
    exact ih.trans (.remarks (.record _ _ rfl))
  | recursive _ _ ih => exact (Nested.remarks (.record _ _ rfl)).trans ih
  | sequence_failed _ ih => exact ih.trans (.remarks (.rewound ..))
  | sequence_next _ _ ih ih' | alternatives_next _ _ _ ih ih'
  | repetition_next _ _ _ _ ih ih' => exact ih.trans ih'

/-! ## Invariants -/

/-- A property of contexts that no step of the engine breaks. `I true` is asked
for where the innermost open application is that of a lookahead which has not
begun to look, or has finished: there it may differ from what holds elsewhere. -/
structure Context.Invariant (setting : Setting) (I : Bool → Context → Prop) : Prop where
  remarked {probe : Bool} {cx cx' : Context} : I probe cx → Remarks cx cx' → I probe cx'
  refused {rule : Rule} {pos : Nat} {cx cx' : Context} :
    I false cx → cx.enter setting.limits rule pos = (false, cx') → I false cx'
  entered {rule : Rule} {pos : Nat} {cx cx₁ : Context} :
    I false cx → cx.enter setting.limits rule pos = (true, cx₁) → I rule.isLookahead cx₁
  recalled {rule : Rule} {st : ParseState} {cx cx₁ : Context} {entry : MemoEntry} :
    I false cx → cx.enter setting.limits rule st.position = (true, cx₁) →
    cx₁.remembered? setting.scope rule st.position = some entry →
    I false (cx₁.leaveRecalled rule st entry)
  left {rule : Rule} {st after : ParseState} {cx cx₁ cx₂ : Context} {matched : Bool} :
    cx.enter setting.limits rule st.position = (true, cx₁) → Frame cx₁ cx₂ → Nested cx₁ cx₂ →
    I rule.isLookahead cx₂ → I false (cx₂.leave setting.scope rule st matched after)
  opened {cx : Context} : I true cx → I false cx.openLookahead
  closed {cx cx₁ : Context} :
    Frame cx.openLookahead cx₁ → I false cx₁ → I true cx₁.closeLookahead

/-- **Executions keep invariants.** -/
theorem Executes.preserves {I : Bool → Context → Prop} (hinvariant : Invariant setting I)
    (h : Executes setting task st cx matched after cx') (hcx : I task.isProbe cx) :
    I task.isProbe cx' := by
  induction h with
  | refused henter => exact hinvariant.refused hcx henter
  | recalled henter hentry => exact hinvariant.recalled hcx henter hentry
  | evaluated henter _ hbody ih =>
    exact hinvariant.left henter hbody.frame hbody.nested (ih (hinvariant.entered hcx henter))
  | read | sequence_nil | alternatives_nil => exact hcx
  | unread _ _ hmiss => exact hinvariant.remarked hcx (.miss hmiss)
  | seq _ ih | choice _ ih | zeroOrMore _ ih | oneOrMore _ ih | opt_taken _ _ ih
  | opt_left _ ih | node_failed _ ih | alternatives_first _ _ ih
  | alternatives_aborted _ _ ih | repetition_ended _ ih => exact ih hcx
  | notAhead_failed hprobe hmiss ih | ahead_failed hprobe hmiss ih =>
    have hclosed := hinvariant.closed hprobe.frame (ih (hinvariant.opened hcx))
    exact hinvariant.remarked (hinvariant.remarked hclosed (.rewound ..)) (.miss hmiss)
  | notAhead_matched hprobe ih | ahead_matched hprobe ih =>
    have hclosed := hinvariant.closed hprobe.frame (ih (hinvariant.opened hcx))
    exact hinvariant.remarked hclosed (.rewound ..)
  | node_matched _ _ _ _ ih | repetition_dropped _ _ ih | repetition_kept _ _ _ ih =>
    exact hinvariant.remarked (ih hcx) (.record _ _ rfl)
  | recursive _ _ ih => exact ih (hinvariant.remarked hcx (.record _ _ rfl))
  | sequence_failed _ ih => exact hinvariant.remarked (ih hcx) (.rewound ..)
  | sequence_next _ _ ih ih' | alternatives_next _ _ _ ih ih'
  | repetition_next _ _ _ _ ih ih' => exact ih' (ih hcx)

/-- **Invariants hold where a rule is applied.** -/
theorem Calls.preserves {I : Bool → Context → Prop} {rule' : Rule} {st' : ParseState}
    (hinvariant : Invariant setting I) (h : Calls setting task st cx rule' st' cx')
    (hcx : I task.isProbe cx) : I false cx' := by
  induction h with
  | self => exact hcx
  | evaluated henter _ _ ih => exact ih (hinvariant.entered hcx henter)
  | seq _ ih | choice _ ih | zeroOrMore _ ih | oneOrMore _ ih | opt _ ih | node _ ih
  | sequence_first _ ih | alternatives_first _ ih | repetition_first _ ih => exact ih hcx
  | notAhead _ ih | ahead _ ih => exact ih (hinvariant.opened hcx)
  | recursive _ _ ih => exact ih (hinvariant.remarked hcx (.record _ _ rfl))
  | sequence_next hhead _ ih | alternatives_next hhead _ _ ih | repetition_next hhead _ _ ih =>
    have hcx₁ : I false _ := hhead.preserves hinvariant hcx
    exact ih hcx₁

/-! ## Abandoned runs -/

/-- Once a parse is abandoned it stays so, for the limit that was met, and no
application starts. -/
def Context.Stays (cx cx' : Context) : Prop :=
  ∀ error, cx.fatal = some error →
    cx'.fatal = some error ∧ Trace.applications cx'.trace = Trace.applications cx.trace

namespace Context.Stays

variable {rule : Rule}

theorem of_remarks (h : Remarks cx cx') : Stays cx cx' := by
  obtain ⟨events, hevents, htrace, heq⟩ := h
  intro error hfatal
  refine ⟨by rw [heq]; exact hfatal, ?_⟩
  rw [htrace, Trace.applications_append, Trace.applications_inner hevents, List.append_nil]

theorem leave {scope : Scope} :
    Stays cx (cx.leave scope rule st matched after) := by
  intro error hfatal
  refine ⟨fatal_leave.trans hfatal, ?_⟩
  rw [trace_leave, Trace.applications_append]
  exact List.append_nil _

/-- No step of an abandoned parse starts an application. -/
theorem invariant (setting : Setting) (error : LimitError) (applications : List (Rule × Nat)) :
    Invariant setting fun _ cx =>
      cx.fatal = some error ∧ Trace.applications cx.trace = applications where
  remarked h hremarks := by
    obtain ⟨hfatal, heq⟩ := of_remarks hremarks error h.1
    exact ⟨hfatal, heq.trans h.2⟩
  refused h henter := by
    rcases enter_eq_false_iff.1 henter with ⟨-, -, rfl⟩ | ⟨hfatal, -⟩
    · exact h
    · rw [hfatal] at h
      cases h.1
  entered h henter := by
    rw [(enter_eq_true_iff.1 henter).1] at h
    cases h.1
  recalled h henter _ := by
    rw [(enter_eq_true_iff.1 henter).1] at h
    cases h.1
  left henter _ _ h := by
    obtain ⟨hfatal, heq⟩ := leave error h.1
    exact ⟨hfatal, heq.trans h.2⟩
  opened h := h
  closed _ h := h

end Context.Stays

/-- Once a parse is abandoned nothing happens in it but what is idle. -/
def Context.Idles (cx cx' : Context) : Prop :=
  ∀ error, cx.fatal = some error → cx'.fatal = some error ∧
    ∃ events, cx'.trace = cx.trace ++ events ∧ ∀ event ∈ events, event.isIdle = true

namespace Context.Idles

variable {cx₁ : Context} {scope : Scope} {rule : Rule} {pos : Nat}

theorem of_trace_eq (hfatal : cx'.fatal = cx.fatal) (htrace : cx'.trace = cx.trace) :
    Idles cx cx' :=
  fun _ h => ⟨hfatal.trans h, [], htrace.trans (List.append_nil _).symm, by simp⟩

theorem refl (cx : Context) : Idles cx cx := .of_trace_eq rfl rfl

theorem trans (h : Idles cx cx₁) (h' : Idles cx₁ cx') : Idles cx cx' := by
  intro error hfatal
  obtain ⟨hfatal₁, events, htrace, hevents⟩ := h error hfatal
  obtain ⟨hfatal', events', htrace', hevents'⟩ := h' error hfatal₁
  refine ⟨hfatal', events ++ events', by rw [htrace', htrace, List.append_assoc], fun event hmem => ?_⟩
  exact (List.mem_append.1 hmem).elim (hevents event) (hevents' event)

theorem record (cx : Context) (event : Event) (h : event.isIdle = true) :
    Idles cx (cx.record event) :=
  fun _ hfatal =>
    ⟨hfatal, [event], trace_record .., fun _ hmem => List.mem_singleton.1 hmem ▸ h⟩

theorem rewound (source target : Nat) (cx : Context) : Idles cx (cx.rewound source target) := by
  rcases rewound_eq source target cx with h | h <;> rw [h]
  · exact refl cx
  · exact record cx _ rfl

theorem miss (h : cx.miss scope rule pos = some cx') : Idles cx cx' := by
  obtain ⟨events, hevents, rfl⟩ := miss_eq_some h
  refine fun error hfatal => ⟨by rwa [expect_eq], events.reverse, List.reverse_append, ?_⟩
  intro event hmem
  obtain ⟨id, target, rfl⟩ := hevents event (List.mem_reverse.1 hmem)
  rfl

theorem closeLookahead (source target : Nat) :
    Idles cx (cx.closeLookahead.rewound source target) := by
  have hclosed : Idles cx cx.closeLookahead := refl cx
  exact hclosed.trans (.rewound _ _ _)

theorem lookahead (h : Idles cx.openLookahead cx₁) (source target : Nat) :
    Idles cx (cx₁.closeLookahead.rewound source target) := by
  have hopened : Idles cx cx₁ := h
  exact hopened.trans (.closeLookahead _ _)

/-- Nothing is entered where the parse is abandoned. -/
theorem of_enter {limits : Limits} (henter : cx.enter limits rule pos = (true, cx₁)) :
    Idles cx cx' := by
  intro error hfatal
  rw [(enter_eq_true_iff.1 henter).1] at hfatal
  cases hfatal

theorem stays (h : Idles cx cx') : Stays cx cx' := by
  intro error hfatal
  obtain ⟨hfatal', events, htrace, hevents⟩ := h error hfatal
  refine ⟨hfatal', ?_⟩
  rw [htrace, Trace.applications_append, Trace.applications_inner fun event hmem =>
    Event.isInner_of_isIdle (hevents event hmem), List.append_nil]

end Context.Idles

/-- **Executions idle once the parse is abandoned.** -/
theorem Executes.idles (h : Executes setting task st cx matched after cx') : cx.Idles cx' := by
  induction h with
  | refused henter =>
    intro error hfatal
    rcases enter_eq_false_iff.1 henter with ⟨-, -, rfl⟩ | ⟨hnone, -⟩
    · exact Idles.refl _ error hfatal
    · rw [hnone] at hfatal
      cases hfatal
  | recalled henter | evaluated henter => exact .of_enter henter
  | read | sequence_nil | alternatives_nil => exact .refl _
  | unread _ _ hmiss => exact .miss hmiss
  | seq _ ih | choice _ ih | zeroOrMore _ ih | oneOrMore _ ih | opt_taken _ _ ih
  | opt_left _ ih | node_failed _ ih | alternatives_first _ _ ih
  | alternatives_aborted _ _ ih | repetition_ended _ ih => exact ih
  | notAhead_failed _ hmiss ih | ahead_failed _ hmiss ih =>
    exact (ih.lookahead _ _).trans (.miss hmiss)
  | notAhead_matched _ ih | ahead_matched _ ih => exact ih.lookahead _ _
  | node_matched _ _ _ _ ih | repetition_dropped _ _ ih | repetition_kept _ _ _ ih =>
    exact ih.trans (.record _ _ rfl)
  | recursive _ _ ih => exact (Idles.record _ _ rfl).trans ih
  | sequence_failed _ ih => exact ih.trans (.rewound _ _ _)
  | sequence_next _ _ ih ih' | alternatives_next _ _ _ ih ih'
  | repetition_next _ _ _ _ ih ih' => exact ih.trans ih'

/-- A parse that is not abandoned where it comes to apply a rule was not abandoned
before. -/
theorem Calls.fatal_eq_none {rule' : Rule} {st' : ParseState}
    (h : Calls setting task st cx rule' st' cx') (hfatal : cx'.fatal = none) : cx.fatal = none := by
  cases hcx : cx.fatal with
  | none => rfl
  | some error =>
    have hstays := h.preserves (Stays.invariant setting error _) ⟨hcx, rfl⟩
    rw [hstays.1] at hfatal
    cases hfatal

end Packrat
