import Mathlib.Data.List.Induction
import Packrat.Proofs.Limits

/-!
# What a tracer sees

A tracer is sent the log of a run, less what only says which rules recursive rules stand
for. Whatever the run does, what the tracer sees are applications inside applications.

- `Trace.Within input owner start events`: what may be seen inside an application that
  began at `start`, as a grammar of events.
- `Executes.within`: what an execution shows is of that form.
- `Limits.Admits.invariant`: no run makes more applications than its limits admit.
- `Calls.unwinds`: **once a limit is met no rule is applied**, and what is open is left,
  the innermost application first.
- `Parser.run_traced`: all this of the runs of a parser.
-/

namespace Packrat

/-- Whether a tracer is sent the event. -/
def Event.isShown : Event → Bool
  | .resolved .. => false
  | _ => true

namespace Trace

/-- What a tracer is sent of a log. -/
def shown (events : List Event) : List Event := events.filter Event.isShown

/-- The applications that end, in the order in which they do. -/
def exits (events : List Event) : List (Rule × Nat) :=
  events.filterMap fun
    | .exit rule pos _ => some (rule, pos)
    | _ => none

/-- An application that began at `pos` ends without a match, or no nearer than there and
inside the input. -/
def Ends (input : String) (pos : Nat) (stop : Option Nat) : Prop :=
  ∀ n, stop = some n → pos ≤ n ∧ n ≤ input.utf8ByteSize

/-- What may be seen inside the application of `owner` at `start`, or at the top level of
a run where there is no owner. -/
inductive Within (input : String) : Option Rule → Nat → List Event → Prop where
  | nil {owner : Option Rule} {start : Nat} : Within input owner start []
  | applied {owner : Option Rule} {start pos : Nat} {rule : Rule} {stop : Option Nat}
      {inner rest : List Event} :
      start ≤ pos → Ends input pos stop → Within input (some rule) pos inner →
      Within input owner start rest →
      Within input owner start (.enter rule pos :: (inner ++ .exit rule pos stop :: rest))
  -- a remembered outcome is all that there is in an application
  | recalled {owner : Option Rule} {start pos : Nat} {rule : Rule} {stop : Option Nat}
      {rest : List Event} :
      start ≤ pos → Ends input pos stop → Within input owner start rest →
      Within input owner start
        (.enter rule pos :: .memoHit rule pos stop :: .exit rule pos stop :: rest)
  -- only nodes capture tokens, which begin where the node does
  | token {id : RuleId} {operand : Rule} {start : Nat} {token : Token} {rest : List Event} :
      token.start = start → Within input (some (.node id operand)) start rest →
      Within input (some (.node id operand)) start (.token token :: rest)
  | backtrack {owner : Option Rule} {start source target : Nat} {rest : List Event} :
      start ≤ target → target < source → Within input owner start rest →
      Within input owner start (.backtrack source target :: rest)
  | stalled {owner : Option Rule} {start pos : Nat} {rule : Rule} {rest : List Event} :
      start ≤ pos → Within input owner start rest →
      Within input owner start (.stalled rule pos :: rest)

variable {input : String} {owner : Option Rule} {start : Nat} {events events' : List Event}

theorem Within.append (h : Within input owner start events)
    (h' : Within input owner start events') : Within input owner start (events ++ events') := by
  induction h with
  | nil => exact h'
  | applied hpos hends hinner _ _ ih =>
    have hrest := Within.applied hpos hends hinner (ih h')
    simpa using hrest
  | recalled hpos hends _ ih => exact .recalled hpos hends (ih h')
  | token hstart _ ih => exact .token hstart (ih h')
  | backtrack hpos hlt _ ih => exact .backtrack hpos hlt (ih h')
  | stalled hpos _ ih => exact .stalled hpos (ih h')

theorem shown_append (events events' : List Event) :
    shown (events ++ events') = shown events ++ shown events' :=
  List.filter_append ..

/-- What is not shown opens and closes nothing. -/
theorem nest_shown (events : List Event) (opened : List (Rule × Nat)) :
    nest opened (shown events) = nest opened events := by
  induction events generalizing opened with
  | nil => rfl
  | cons event rest ih => cases event <;> exact ih _

theorem opened_shown (events : List Event) : opened (shown events) = opened events :=
  nest_shown events []

theorem applications_shown (events : List Event) :
    applications (shown events) = applications events := by
  induction events with
  | nil => rfl
  | cons event rest ih => cases event <;> first | exact ih | exact congrArg (List.cons _) ih

theorem exits_append (events events' : List Event) :
    exits (events ++ events') = exits events ++ exits events' :=
  List.filterMap_append ..

theorem exits_idle (h : ∀ event ∈ events, event.isIdle = true) : exits events = [] := by
  refine List.filterMap_eq_nil_iff.2 fun event hmem => ?_
  have hidle := h event hmem
  cases event <;> first | rfl | cases hidle

theorem exits_shown (events : List Event) : exits (shown events) = exits events := by
  induction events with
  | nil => rfl
  | cons event rest ih => cases event <;> first | exact ih | exact congrArg (List.cons _) ih

end Trace

/-! ## What executions show -/

namespace Context

/-- Between `cx` and `cx'` a tracer sees what may be seen inside an application. -/
def Shows (input : String) (owner : Option Rule) (start : Nat) (cx cx' : Context) : Prop :=
  ∃ events, Trace.shown cx'.trace = Trace.shown cx.trace ++ events ∧
    Trace.Within input owner start events

variable {setting : Setting} {scope : Scope} {limits : Limits} {input : String}
  {owner : Option Rule} {start pos : Nat} {rule : Rule} {st after : ParseState}
  {cx cx₁ cx₂ cx' : Context} {matched : Bool}

namespace Shows

theorem of_trace_eq (h : cx'.trace = cx.trace) : Shows input owner start cx cx' :=
  ⟨[], by rw [h, List.append_nil], .nil⟩

theorem refl (cx : Context) : Shows input owner start cx cx := .of_trace_eq rfl

theorem trans (h : Shows input owner start cx cx₁) (h' : Shows input owner start cx₁ cx') :
    Shows input owner start cx cx' := by
  obtain ⟨events, htrace, hevents⟩ := h
  obtain ⟨events', htrace', hevents'⟩ := h'
  exact ⟨events ++ events', by rw [htrace', htrace, List.append_assoc], hevents.append hevents'⟩

theorem record {event : Event} (cx : Context) (h : Trace.Within input owner start [event])
    (hshown : event.isShown = true) : Shows input owner start cx (cx.record event) := by
  refine ⟨[event], ?_, h⟩
  rw [trace_record, Trace.shown_append]
  exact congrArg _ (List.filter_cons_of_pos hshown)

theorem resolved (id : RuleId) (target : Rule) (cx : Context) :
    Shows input owner start cx (cx.record (.resolved id target)) := by
  refine ⟨[], ?_, .nil⟩
  rw [trace_record, Trace.shown_append]
  rfl

/-- Going back is seen where there was a way to go. -/
theorem rewound {source target : Nat} (cx : Context) (hstart : start ≤ target)
    (hle : target ≤ source) : Shows input owner start cx (cx.rewound source target) := by
  unfold Context.rewound
  split
  · rename_i hne
    have hne : source ≠ target := by simpa using hne
    exact record cx (.backtrack hstart (by omega) .nil) rfl
  · exact refl cx

/-- Asking what recursive rules stand for is not seen. -/
theorem miss (h : cx.miss scope rule pos = some cx') : Shows input owner start cx cx' := by
  obtain ⟨events, hevents, rfl⟩ := miss_eq_some h
  refine ⟨[], ?_, .nil⟩
  have htrace : ({ cx.expect pos (rule.describe scope) with log := events ++ cx.log } :
      Context).trace = cx.trace ++ events.reverse := List.reverse_append
  have hnone : Trace.shown events.reverse = [] := by
    refine List.filter_eq_nil_iff.2 fun event hmem => ?_
    obtain ⟨id, target, rfl⟩ := hevents event (List.mem_reverse.1 hmem)
    exact Bool.false_ne_true
  rw [htrace, Trace.shown_append, hnone]

theorem lookahead {source target : Nat} (h : Shows input owner start cx.openLookahead cx₁)
    (hstart : start ≤ target) (hle : target ≤ source) :
    Shows input owner start cx (cx₁.closeLookahead.rewound source target) := by
  have hclosed : Shows input owner start cx cx₁.closeLookahead := h
  exact hclosed.trans (.rewound _ hstart hle)

theorem leave (henter : cx.enter limits rule st.position = (true, cx₁))
    (h : Shows input (some rule) st.position cx₁ cx₂) (hstart : start ≤ st.position)
    (hends : Trace.Ends input st.position (if matched then some after.position else none)) :
    Shows input owner start cx (cx₂.leave scope rule st matched after) := by
  obtain ⟨events, htrace, hevents⟩ := h
  refine ⟨_, ?_, .applied hstart hends hevents .nil⟩
  rw [trace_leave, Trace.shown_append, htrace, trace_enter henter, Trace.shown_append,
    List.append_assoc, List.append_assoc]
  rfl

theorem leaveRecalled {entry : MemoEntry}
    (henter : cx.enter limits rule st.position = (true, cx₁)) (hstart : start ≤ st.position)
    (hends : Trace.Ends input st.position entry.stop?) :
    Shows input owner start cx (cx₁.leaveRecalled rule st entry) := by
  refine ⟨[.enter rule st.position, .memoHit rule st.position entry.stop?,
    .exit rule st.position entry.stop?], ?_, .recalled hstart hends .nil⟩
  rw [trace_leaveRecalled, Trace.shown_append, trace_enter henter, Trace.shown_append,
    List.append_assoc]
  rfl

end Shows

end Context

open Context

variable {setting : Setting} {task : Task} {rule : Rule} {owner : Option Rule} {start : Nat}
  {st after : ParseState} {cx cx₁ cx' : Context} {matched : Bool}

/-- The task is part of an application of `owner` that began at `start`. -/
def Task.Starts (owner : Option Rule) (start : Nat) (st : ParseState) : Task → Prop
  | .body rule => owner = some rule ∧ start = st.position
  | .sequence origin _ => start ≤ origin.position ∧ origin.position ≤ st.position
  | _ => start ≤ st.position

/-- What keeps the contract ends where it may. -/
theorem Task.Contract.ends (h : task.Contract st matched after) :
    Trace.Ends st.input st.position (if matched then some after.position else none) := by
  intro n hstop
  cases matched with
  | false => cases hstop
  | true =>
    cases hstop
    obtain ⟨tokens, hext⟩ := h.of_matched rfl
    exact ⟨hext.position_le, hext.input_eq ▸ Text.le_of_isBoundary after.isBoundary_position⟩

/-- What keeps the contract has not gone back behind its start. -/
theorem Task.Contract.le_position {operand : Rule}
    (h : (Task.application operand).Contract st matched after) : st.position ≤ after.position := by
  cases matched with
  | false => exact Nat.le_of_eq (congrArg ParseState.position (h.of_failed rfl)).symm
  | true =>
    obtain ⟨tokens, hext⟩ := h.of_matched rfl
    exact hext.position_le

/-- **What an execution shows is nested.** -/
theorem Executes.within (h : Executes setting task st cx matched after cx')
    (hposed : task.WellPosed) (hlaid : cx.MemoLaid st.input) (hstarts : task.Starts owner start st) :
    Shows st.input owner start cx cx' := by
  -- an application is the owner of its body, so owner and start change on the way down
  induction h generalizing owner start with
  | refused henter => exact .of_trace_eq (trace_refused henter)
  | recalled henter hentry hreplay =>
    have hcontract := (Executes.recalled henter hentry hreplay).contract trivial hlaid
    exact .leaveRecalled henter hstarts (hreplay.stop?_eq ▸ hcontract.2.ends)
  | evaluated henter _ hbody ih =>
    have hlaid₁ := hlaid.entered henter
    exact .leave henter (ih trivial hlaid₁ ⟨rfl, rfl⟩) hstarts (hbody.contract trivial hlaid₁).2.ends
  | read | sequence_nil | alternatives_nil => exact .refl _
  | unread _ _ hmiss => exact .miss hmiss
  | seq _ ih =>
    obtain ⟨-, rfl⟩ := hstarts
    exact ih trivial hlaid ⟨Nat.le_refl _, Nat.le_refl _⟩
  | choice _ ih | opt_taken _ _ ih | opt_left _ ih | node_failed _ ih =>
    obtain ⟨-, rfl⟩ := hstarts
    exact ih trivial hlaid (Nat.le_refl _)
  | notAhead_failed hprobe hmiss ih | ahead_failed hprobe hmiss ih =>
    obtain ⟨-, rfl⟩ := hstarts
    have hle := (hprobe.contract trivial hlaid).2.le_position
    exact ((ih trivial hlaid (Nat.le_refl _)).lookahead (Nat.le_refl _) hle).trans (.miss hmiss)
  | notAhead_matched hprobe ih | ahead_matched hprobe ih =>
    obtain ⟨-, rfl⟩ := hstarts
    have hle := (hprobe.contract trivial hlaid).2.le_position
    exact (ih trivial hlaid (Nat.le_refl _)).lookahead (Nat.le_refl _) hle
  | zeroOrMore _ ih =>
    obtain ⟨-, rfl⟩ := hstarts
    exact ih (Nat.zero_le 1) hlaid (Nat.le_refl _)
  | oneOrMore _ ih =>
    obtain ⟨-, rfl⟩ := hstarts
    exact ih (Nat.le_refl 1) hlaid (Nat.le_refl _)
  | node_matched _ _ htoken _ ih =>
    obtain ⟨rfl, rfl⟩ := hstarts
    obtain ⟨rfl, -⟩ := Token.make_eq_ok_iff.1 htoken
    exact (ih trivial hlaid (Nat.le_refl _)).trans (.record _ (.token rfl .nil) rfl)
  | recursive _ _ ih =>
    obtain ⟨-, rfl⟩ := hstarts
    exact (Shows.resolved ..).trans (ih trivial hlaid (Nat.le_refl _))
  | sequence_failed hhead ih =>
    have hle := (hhead.contract trivial hlaid).2.le_position
    exact (ih trivial hlaid (Nat.le_trans hstarts.1 hstarts.2)).trans
      (.rewound _ hstarts.1 (Nat.le_trans hstarts.2 hle))
  | sequence_next hhead _ ih ih' =>
    obtain ⟨hlaid₁, hcontract⟩ := hhead.contract trivial hlaid
    obtain ⟨tokens, hext⟩ := hcontract.of_matched rfl
    have hrest : Shows _ owner start _ _ := ih' trivial (hext.input_eq ▸ hlaid₁)
      ⟨hstarts.1, Nat.le_trans hstarts.2 hext.position_le⟩
    exact (ih trivial hlaid (Nat.le_trans hstarts.1 hstarts.2)).trans (hext.input_eq ▸ hrest)
  | alternatives_first _ _ ih | alternatives_aborted _ _ ih | repetition_ended _ ih =>
    exact ih trivial hlaid hstarts
  | alternatives_next hhead _ _ ih ih' =>
    exact (ih trivial hlaid hstarts).trans (ih' trivial (hhead.contract trivial hlaid).1 hstarts)
  | @repetition_next _ _ required _ _ _ _ _ _ _ hhead hlt _ _ ih ih' =>
    obtain ⟨hlaid₁, hcontract⟩ := hhead.contract trivial hlaid
    obtain ⟨tokens, hext⟩ := hcontract.of_matched rfl
    have hposed' : required - 1 ≤ 1 := Nat.le_trans (Nat.sub_le ..) hposed
    have hrest : Shows _ owner start _ _ :=
      ih' hposed' (hext.input_eq ▸ hlaid₁) (Nat.le_trans hstarts (Nat.le_of_lt hlt))
    exact (ih trivial hlaid hstarts).trans (hext.input_eq ▸ hrest)
  | repetition_dropped _ _ ih =>
    exact (ih trivial hlaid hstarts).trans (.record _ (.stalled hstarts .nil) rfl)
  | repetition_kept hhead _ _ ih =>
    have hle := (hhead.contract trivial hlaid).2.le_position
    exact (ih trivial hlaid hstarts).trans
      (.record _ (.stalled (Nat.le_trans hstarts hle) .nil) rfl)

/-! ## Limits are kept -/

/-- What is entered the limits allow. -/
theorem Limits.Admits.entered {limits : Limits} {pos : Nat} (h : limits.Admits cx.trace)
    (hcounted : cx.Counted) (henter : cx.enter limits rule pos = (true, cx₁)) :
    limits.Admits cx₁.trace := by
  rw [trace_enter henter]
  rcases hcounted.limitMet?_cases limits with ⟨error, hmet, -⟩ | ⟨-, hallows⟩
  · rw [(enter_eq_true_iff.1 henter).2.1] at hmet
    cases hmet
  · exact h.enter hallows rule pos

/-- No step of a run applies a rule that its limits refuse. -/
theorem Limits.Admits.invariant (setting : Setting) :
    Invariant setting fun _ cx => cx.Counted ∧ setting.limits.Admits cx.trace where
  remarked h hremarks := ⟨h.1.remarked hremarks, h.2.remarks hremarks⟩
  refused h henter :=
    ⟨(Counted.invariant setting).refused h.1 henter, trace_refused henter ▸ h.2⟩
  entered h henter := ⟨h.1.entered henter, h.2.entered h.1 henter⟩
  recalled {rule st cx cx₁ entry} h henter hentry := by
    refine ⟨(Counted.invariant setting).recalled h.1 henter hentry, ?_⟩
    rw [trace_leaveRecalled]
    exact (h.2.entered h.1 henter).append (by simp [Event.application?])
  left henter hframe hnested h := by
    refine ⟨(Counted.invariant setting).left henter hframe hnested h.1, ?_⟩
    rw [trace_leave]
    exact h.2.append (by simp [Event.application?])
  opened h := ⟨h.1.openLookahead, h.2⟩
  closed hframe h := ⟨(Counted.invariant setting).closed hframe h.1, h.2⟩

/-- Nowhere are more than `n` applications open if each begins where fewer are. -/
theorem Trace.length_opened_le {events before : List Event} {n : Nat}
    (h : ∀ before rule pos, before ++ [.enter rule pos] <+: events → (opened before).length < n)
    (hbefore : before <+: events) : (opened before).length ≤ n := by
  induction before using List.reverseRecOn with
  | nil => exact Nat.zero_le _
  | append_singleton before event ih =>
    have hle := ih ((List.prefix_append ..).trans hbefore)
    cases event with
    | enter rule pos =>
      rw [opened_enter, List.length_cons]
      exact h before rule pos hbefore
    | exit =>
      rw [opened_append]
      exact Nat.le_trans (List.tail_sublist _).length_le hle
    | token | backtrack | memoHit | stalled | resolved =>
      rw [opened_append]
      exact hle

/-! ## Runs that meet a limit -/

/-- From where a limit was met in `cx`, to `cx'`: nothing is applied or recalled, and what
was `opened` is left, the innermost application first. -/
def Context.Unwinds (error : LimitError) (opened : List (Rule × Nat)) (cx cx' : Context) : Prop :=
  cx'.fatal = some error ∧ ∃ events, cx'.trace = cx.trace ++ events ∧
    (∀ event ∈ events, event.isIdle = true ∨ ∃ rule pos stop, event = .exit rule pos stop) ∧
    Trace.exits events = opened

namespace Context.Unwinds

variable {error : LimitError} {opened : List (Rule × Nat)}

theorem idles (h : Unwinds error opened cx cx₁) (hidles : Idles cx₁ cx') :
    Unwinds error opened cx cx' := by
  obtain ⟨hfatal, events, htrace, hevents, hexits⟩ := h
  obtain ⟨hfatal', events', htrace', hevents'⟩ := hidles error hfatal
  refine ⟨hfatal', events ++ events', by rw [htrace', htrace, List.append_assoc], ?_, ?_⟩
  · intro event hmem
    exact (List.mem_append.1 hmem).elim (hevents event) fun hmem => .inl (hevents' event hmem)
  · rw [Trace.exits_append, hexits, Trace.exits_idle hevents', List.append_nil]

theorem leave {scope : Scope} (h : Unwinds error opened cx cx₁) :
    Unwinds error (opened ++ [(rule, st.position)]) cx (cx₁.leave scope rule st matched after) := by
  obtain ⟨hfatal, events, htrace, hevents, hexits⟩ := h
  refine ⟨fatal_leave.trans hfatal, _, by rw [trace_leave, htrace, List.append_assoc], ?_, ?_⟩
  · intro event hmem
    rcases List.mem_append.1 hmem with hmem | hmem
    · exact hevents event hmem
    · exact .inr ⟨_, _, _, List.mem_singleton.1 hmem⟩
  · rw [Trace.exits_append, hexits]
    rfl

end Context.Unwinds

/-- **Where a limit is met, the parse is abandoned for good.** Between there and the end of
the task no rule is applied and no outcome recalled, and what was opened since the task
began is left. -/
theorem Calls.unwinds {rule' : Rule} {st' : ParseState} {error : LimitError}
    (hcall : Calls setting task st cx rule' st' cx₁)
    (h : Executes setting task st cx matched after cx') (hfatal : cx₁.fatal = none)
    (hmet : cx₁.limitMet? setting.limits = some error) :
    ∃ opened, opened ++ Trace.opened cx.trace = Trace.opened cx₁.trace ∧
      cx₁.Unwinds error opened cx' := by
  induction hcall generalizing matched after cx' with
  | @self rule st cx =>
    have hrefused : cx.enter setting.limits rule st.position = (false, _) :=
      enter_eq_false_iff.2 (.inr ⟨hfatal, error, hmet, rfl⟩)
    obtain ⟨-, -, rfl⟩ := (Executes.application_iff_of_refused hrefused).1 h
    exact ⟨[], rfl, rfl, [], (List.append_nil _).symm, by simp, rfl⟩
  | evaluated henter hentry _ ih =>
    rcases (Executes.application_iff_of_entered henter).1 h with
      ⟨entry, hentry', -⟩ | ⟨-, cx₂, hbody, rfl⟩
    · rw [hentry] at hentry'
      cases hentry'
    · obtain ⟨opened, hopened, hunwinds⟩ := ih hbody hfatal hmet
      rw [trace_enter henter, Trace.opened_enter] at hopened
      exact ⟨_, (List.append_assoc ..).trans hopened, hunwinds.leave⟩
  | seq _ ih | choice _ ih | notAhead _ ih | ahead _ ih | zeroOrMore _ ih | oneOrMore _ ih
  | opt _ ih | node _ ih | sequence_first _ ih | alternatives_first _ ih
  | repetition_first _ ih =>
    obtain ⟨_, _, _, hfirst, hidles⟩ := h.first rfl
    obtain ⟨opened, hopened, hunwinds⟩ := ih hfirst hfatal hmet
    exact ⟨opened, hopened, hunwinds.idles hidles⟩
  | recursive htarget _ ih =>
    obtain ⟨_, _, _, hfirst, hidles⟩ := h.first (by rw [Task.first?, htarget]; rfl)
    obtain ⟨opened, hopened, hunwinds⟩ := ih hfirst hfatal hmet
    rw [(Nested.remarks (.record _ _ rfl)).opened_eq] at hopened
    exact ⟨opened, hopened, hunwinds.idles hidles⟩
  | sequence_next hhead _ ih =>
    obtain ⟨opened, hopened, hunwinds⟩ := ih (h.sequence_rest hhead) hfatal hmet
    exact ⟨opened, hhead.nested.opened_eq ▸ hopened, hunwinds⟩
  | alternatives_next hhead hgoing _ ih =>
    obtain ⟨opened, hopened, hunwinds⟩ := ih (h.alternatives_rest hhead hgoing) hfatal hmet
    exact ⟨opened, hhead.nested.opened_eq ▸ hopened, hunwinds⟩
  | repetition_next hhead hlt _ ih =>
    obtain ⟨opened, hopened, hunwinds⟩ := ih (h.repetition_rest hhead hlt) hfatal hmet
    exact ⟨opened, hhead.nested.opened_eq ▸ hopened, hunwinds⟩

/-- The task comes to apply a rule where a limit is met. -/
def Task.Meets (setting : Setting) (task : Task) (st : ParseState) (cx : Context)
    (error : LimitError) : Prop :=
  ∃ rule st₁ cx₁, Calls setting task st cx rule st₁ cx₁ ∧ cx₁.fatal = none ∧
    cx₁.limitMet? setting.limits = some error

/-- What is met in a part of a task is met in the task. -/
theorem Task.Meets.imp {task₁ : Task} {st₁ : ParseState} {error : LimitError}
    (h : task₁.Meets setting st₁ cx₁ error)
    (hcalls : ∀ {rule' st' cx''}, Calls setting task₁ st₁ cx₁ rule' st' cx'' →
      Calls setting task st cx rule' st' cx'') : task.Meets setting st cx error := by
  obtain ⟨rule', st', cx'', hcall, hmet⟩ := h
  exact ⟨rule', st', cx'', hcalls hcall, hmet⟩

theorem Context.Remarks.fatal_eq (h : Remarks cx cx') : cx'.fatal = cx.fatal := by
  obtain ⟨-, -, -, heq⟩ := h
  rw [heq]

/-- A parse is abandoned where it comes to apply a rule and a limit is met. -/
theorem Executes.meets {error : LimitError} (h : Executes setting task st cx matched after cx')
    (hfatal : cx.fatal = none) (habandoned : cx'.fatal = some error) :
    task.Meets setting st cx error := by
  -- of two parts, the limit is met in the first one after which the parse is abandoned
  induction h with
  | @refused rule st cx cx' henter =>
    rcases enter_eq_false_iff.1 henter with ⟨error', hfatal', -⟩ | ⟨-, error', hmet, rfl⟩
    · rw [hfatal] at hfatal'
      cases hfatal'
    · cases habandoned
      exact ⟨rule, st, cx, .self, hfatal, hmet⟩
  | recalled henter =>
    obtain ⟨-, -, rfl⟩ := enter_eq_true_iff.1 henter
    exact absurd (habandoned.symm.trans hfatal) (Option.some_ne_none error)
  | evaluated henter hentry _ ih =>
    obtain ⟨-, -, hcx₁⟩ := enter_eq_true_iff.1 henter
    rw [fatal_leave] at habandoned
    exact (ih (hcx₁ ▸ hfatal) habandoned).imp (.evaluated henter hentry)
  | read | sequence_nil | alternatives_nil =>
    exact absurd (habandoned.symm.trans hfatal) (Option.some_ne_none error)
  | unread _ _ hmiss =>
    rw [(Remarks.miss hmiss).fatal_eq, hfatal] at habandoned
    cases habandoned
  | seq _ ih => exact (ih hfatal habandoned).imp .seq
  | choice _ ih => exact (ih hfatal habandoned).imp .choice
  | notAhead_failed _ hmiss ih =>
    rw [(Remarks.miss hmiss).fatal_eq, (Remarks.rewound _ _ _).fatal_eq] at habandoned
    exact (ih hfatal habandoned).imp .notAhead
  | notAhead_matched _ ih =>
    rw [(Remarks.rewound _ _ _).fatal_eq] at habandoned
    exact (ih hfatal habandoned).imp .notAhead
  | ahead_failed _ hmiss ih =>
    rw [(Remarks.miss hmiss).fatal_eq, (Remarks.rewound _ _ _).fatal_eq] at habandoned
    exact (ih hfatal habandoned).imp .ahead
  | ahead_matched _ ih =>
    rw [(Remarks.rewound _ _ _).fatal_eq] at habandoned
    exact (ih hfatal habandoned).imp .ahead
  | zeroOrMore _ ih => exact (ih hfatal habandoned).imp .zeroOrMore
  | oneOrMore _ ih => exact (ih hfatal habandoned).imp .oneOrMore
  | opt_taken _ _ ih | opt_left _ ih => exact (ih hfatal habandoned).imp .opt
  | node_failed _ ih | node_matched _ _ _ _ ih => exact (ih hfatal habandoned).imp .node
  | recursive htarget _ ih => exact (ih hfatal habandoned).imp (.recursive htarget)
  | sequence_failed _ ih =>
    rw [(Remarks.rewound _ _ _).fatal_eq] at habandoned
    exact (ih hfatal habandoned).imp .sequence_first
  | @sequence_next _ _ _ _ _ _ _ cx₁ _ _ hhead hrest ih ih' =>
    cases hfatal₁ : cx₁.fatal with
    | none => exact (ih' hfatal₁ habandoned).imp (.sequence_next hhead)
    | some error' =>
      rw [hrest.frame.fatal_eq error' hfatal₁] at habandoned
      exact (ih hfatal (hfatal₁.trans habandoned)).imp .sequence_first
  | alternatives_first _ _ ih | alternatives_aborted _ _ ih =>
    exact (ih hfatal habandoned).imp .alternatives_first
  | alternatives_next hhead hgoing _ ih ih' =>
    have hfatal₁ := Option.isNone_iff_eq_none.1 (by simpa [isAborted] using hgoing)
    exact (ih' hfatal₁ habandoned).imp (.alternatives_next hhead hgoing)
  | repetition_ended _ ih | repetition_dropped _ _ ih | repetition_kept _ _ _ ih =>
    exact (ih hfatal habandoned).imp .repetition_first
  | @repetition_next _ _ _ _ _ _ _ cx₁ _ _ hhead hlt _ hrest ih ih' =>
    cases hfatal₁ : cx₁.fatal with
    | none => exact (ih' hfatal₁ habandoned).imp (.repetition_next hhead hlt)
    | some error' =>
      rw [hrest.frame.fatal_eq error' hfatal₁] at habandoned
      exact (ih hfatal (hfatal₁.trans habandoned)).imp .repetition_first

/-! ## Runs of a parser -/

namespace Parser

/-- The run of a parser comes to apply `rule` in the context `cx`. -/
def ComesTo (p : Parser) (scope : Scope) (input : String) (rule : Rule) (cx : Context) : Prop :=
  ∃ st, Calls (p.setting scope) (.application p.root) (.start input) (.start p.memoize) rule st cx

/-- **What a tracer sees of a run is nested.** Applications begin and end as brackets do,
no event inside is in front of where they began, and they end no nearer and inside the
input; a remembered outcome is all that there is in its application, tokens begin where
their node did, and going back is going back. No more applications are open than the
recursion limit admits, and no more are made than there is fuel for. The run ends with a
limit error if and only if it comes to apply a rule where a limit is met; from there on
nothing is applied or recalled, and all that is open is left. -/
theorem run_traced (p : Parser) (scope : Scope) (hresolves : scope.Resolves p.root)
    (input : String) (complete : Bool) :
    Trace.Within input none 0 (Trace.shown (p.run scope input complete).events) ∧
      (∀ before, before <+: Trace.shown (p.run scope input complete).events →
        (Trace.opened before).length ≤ p.limits.recursionLimit.toNat) ∧
      (∀ fuel, p.limits.execFuel = some fuel →
        (Trace.applications (Trace.shown (p.run scope input complete).events)).length ≤
          fuel.toNat) ∧
      (∀ error, (p.run scope input complete).result = .ok (.error (.limit error)) ↔
        ∃ rule cx, p.ComesTo scope input rule cx ∧ cx.fatal = none ∧
          cx.limitMet? p.limits = some error) ∧
      ∀ rule cx error, p.ComesTo scope input rule cx → cx.fatal = none →
        cx.limitMet? p.limits = some error →
        ∃ after,
          Trace.shown (p.run scope input complete).events = Trace.shown cx.trace ++ after ∧
            (∀ event ∈ after, (∀ rule pos, event ≠ .enter rule pos) ∧
              ∀ rule pos stop, event ≠ .memoHit rule pos stop) ∧
            Trace.exits after = Trace.opened (Trace.shown cx.trace) := by
  obtain ⟨matched, st, cx, happly, hexec⟩ := p.exists_run hresolves input
  have hevents : (p.run scope input complete).events = cx.trace := by
    rw [p.run_eq_of_apply happly]
    rfl
  have hresult : (p.run scope input complete).result = p.verdict scope complete matched st cx := by
    rw [p.run_eq_of_apply happly]
  obtain ⟨shown, hshown, hwithin⟩ : Shows input none 0 (.start p.memoize) cx :=
    hexec.within trivial (.start p.memoize input) (Nat.zero_le _)
  obtain ⟨-, hadmits⟩ := hexec.preserves (Limits.Admits.invariant (p.setting scope))
    ⟨.start p.memoize, .nil _⟩
  have hunwinds {rule : Rule} {cx₁ : Context} {error : LimitError}
      (hcomes : p.ComesTo scope input rule cx₁) (hfatal : cx₁.fatal = none)
      (hmet : cx₁.limitMet? p.limits = some error) :
      cx₁.Unwinds error (Trace.opened cx₁.trace) cx := by
    obtain ⟨st₁, hcall⟩ := hcomes
    obtain ⟨opened, hopened, hunwinds⟩ := hcall.unwinds hexec hfatal hmet
    have hsame : opened = Trace.opened cx₁.trace := (List.append_nil _).symm.trans hopened
    exact hsame ▸ hunwinds
  rw [hevents, hresult]
  refine ⟨?_, fun before hbefore => ?_, fun fuel hfuel => ?_, fun error => ⟨fun hlimit => ?_, ?_⟩,
    fun rule cx₁ error hcomes hfatal hmet => ?_⟩
  · rw [hshown]
    exact hwithin
  · -- what is shown up to some point is what is shown of the log up to some point
    obtain ⟨rest, hrest⟩ := hbefore
    obtain ⟨before', rest', heq, rfl, -⟩ := List.filter_eq_append_iff.1 hrest.symm
    have hopened : Trace.opened (before'.filter Event.isShown) = Trace.opened before' :=
      Trace.opened_shown before'
    rw [hopened]
    exact Trace.length_opened_le hadmits.recursion ⟨rest', heq.symm⟩
  · rw [Trace.applications_shown]
    exact hadmits.fuel fuel hfuel
  · obtain ⟨rule, st₁, cx₁, hcall, hmet⟩ := hexec.meets rfl (fatal_of_verdict_limit hlimit)
    exact ⟨rule, cx₁, ⟨st₁, hcall⟩, hmet⟩
  · rintro ⟨rule, cx₁, hcomes, hfatal, hmet⟩
    exact verdict_limit (hunwinds hcomes hfatal hmet).1
  · obtain ⟨-, events, htrace, hrest, hexits⟩ := hunwinds hcomes hfatal hmet
    refine ⟨Trace.shown events, by rw [htrace, Trace.shown_append], fun event hmem => ?_, ?_⟩
    · rcases hrest event (List.mem_of_mem_filter hmem) with hidle | ⟨rule, pos, stop, rfl⟩
      · exact ⟨fun rule pos heq => (by rw [heq] at hidle; cases hidle),
          fun rule pos stop heq => (by rw [heq] at hidle; cases hidle)⟩
      · exact ⟨nofun, nofun⟩
    · rw [Trace.exits_shown, hexits, Trace.opened_shown]

/-- Fuel for three applications is not enough for a quotation of one letter: where the fourth
would be made the three are open, and they are left. -/
theorem run_traced_quotation :
    ∃ (cx : Context) (after : List Event),
      Trace.shown ({ ofRule Quotation.text with limits := ⟨some 3, 1024⟩ }.run Quotation.scope
          "«é»" true).events = Trace.shown cx.trace ++ after ∧
        Trace.exits after = Trace.opened (Trace.shown cx.trace) ∧
        ∃ error, cx.limitMet? ⟨some 3, 1024⟩ = some error ∧
          ({ ofRule Quotation.text with limits := ⟨some 3, 1024⟩ }.run Quotation.scope "«é»"
            true).result = .ok (.error (.limit error)) := by
  obtain ⟨-, -, -, hlimit, hafter⟩ := run_traced
    { ofRule Quotation.text with limits := ⟨some 3, 1024⟩ } Quotation.scope Quotation.resolves "«é»"
    true
  have hmet : (match ({ ofRule Quotation.text with limits := ⟨some 3, 1024⟩ }.run Quotation.scope
        "«é»" true).result with
      | .ok (.error (.limit _)) => true
      | _ => false) = true := by decide +kernel
  split at hmet
  · rename_i error hresult
    obtain ⟨rule, cx, hcomes, hfatal, herror⟩ := (hlimit error).1 hresult
    obtain ⟨after, hshown, -, hexits⟩ := hafter rule cx error hcomes hfatal herror
    exact ⟨cx, after, hshown, hexits, error, herror, hresult⟩
  · cases hmet

end Parser

end Packrat
