import Mathlib.Data.List.Induction
import Packrat.Proofs.Identity
import Packrat.Proofs.Memoization
import Packrat.Proofs.Replay

/-!
# What a failed parse reports

A failed parse says how far it came and what it wanted there. That is a summary
of its log: among the failures that happened outside lookahead, those at the
furthest offset count, and of what they wanted the first sixteen different things.

- `Failure.Summarizes f wants`: the record `f` is the summary of `wants`.
  `Failure.summarizes_noteAll`: noting one want after another gives the summary.
- `Trace.misses scope events`: what was wanted where a primitive or a lookahead
  failed, read off the log.
- `Executes.reports`: executions keep the record in step with the log.
- `Parser.run_diagnosis`: the failure of a run is the summary of its log, and there
  is always something to report.
-/

namespace Packrat

/-! ## Summaries -/

theorem nodup_eraseDups {α : Type} [BEq α] [LawfulBEq α] (l : List α) : l.eraseDups.Nodup := by
  cases l with
  | nil => exact List.nodup_nil
  | cons a rest =>
    have hlt : (rest.filter fun b => !b == a).length < rest.length + 1 :=
      Nat.lt_succ_of_le (List.length_filter_le ..)
    rw [List.eraseDups_cons, List.nodup_cons]
    refine ⟨fun hmem => ?_, nodup_eraseDups _⟩
    simpa using (List.mem_filter.1 (List.mem_eraseDups.1 hmem)).2
termination_by l.length

/-- Of a list with one element more, the first occurrences. -/
theorem eraseDups_concat {α : Type} [BEq α] [LawfulBEq α] [DecidableEq α] (l : List α) (a : α) :
    (l ++ [a]).eraseDups = if a ∈ l then l.eraseDups else l.eraseDups ++ [a] := by
  rw [List.eraseDups_append, List.removeAll]
  by_cases h : a ∈ l <;> simp [h, List.eraseDups_cons]

namespace Failure

variable {f : Failure} {want : Want} {wants : List Want}

/-- The record in which nothing has been noted. -/
def blank : Failure := ⟨0, []⟩

/-- The descriptions of what was wanted at an offset, each one once, in the order
in which they came up. -/
def wantedAt (pos : Nat) (wants : List Want) : List String :=
  ((wants.filter (·.1 == pos)).map (·.2)).eraseDups

/-- The record has the furthest offset at which something was wanted, and the
first of the descriptions there, as many as are kept. -/
structure Summarizes (f : Failure) (wants : List Want) : Prop where
  reached : ∃ want ∈ wants, want.1 = f.furthest
  furthest_le : ∀ want ∈ wants, want.1 ≤ f.furthest
  expected_eq : f.expected = (wantedAt f.furthest wants).take Context.maxExpected

theorem wantedAt_concat_of_ne {pos : Nat} (h : want.1 ≠ pos) (wants : List Want) :
    wantedAt pos (wants ++ [want]) = wantedAt pos wants := by
  simp [wantedAt, List.filter_append, h]

theorem wantedAt_concat_of_mem {pos : Nat} (h : want.2 ∈ wantedAt pos wants) :
    wantedAt pos (wants ++ [want]) = wantedAt pos wants := by
  by_cases hpos : want.1 = pos
  · have hkept : [want].filter (·.1 == pos) = [want] := by simp [hpos]
    rw [wantedAt, List.filter_append, hkept, List.map_append, List.map_singleton,
      eraseDups_concat, if_pos (List.mem_eraseDups.1 h)]
    rfl
  · exact wantedAt_concat_of_ne hpos wants

theorem wantedAt_concat_of_not_mem (h : want.2 ∉ wantedAt want.1 wants) :
    wantedAt want.1 (wants ++ [want]) = wantedAt want.1 wants ++ [want.2] := by
  have hkept : [want].filter (·.1 == want.1) = [want] := by simp
  rw [wantedAt, List.filter_append, hkept, List.map_append, List.map_singleton,
    eraseDups_concat, if_neg (mt List.mem_eraseDups.2 h)]
  rfl

theorem wantedAt_eq_nil {pos : Nat} (h : ∀ want ∈ wants, want.1 < pos) :
    wantedAt pos wants = [] := by
  have hnone : wants.filter (·.1 == pos) = [] :=
    List.filter_eq_nil_iff.2 fun want hmem heq =>
      Nat.ne_of_lt (h want hmem) (eq_of_beq heq)
  simp [wantedAt, hnone]

theorem note_blank (want : Want) : blank.note want = ⟨want.1, [want.2]⟩ := by
  obtain ⟨pos, description⟩ := want
  cases pos <;> simp [blank, note, Context.maxExpected]

/-- The summary of a single want. -/
theorem summarizes_note_blank (want : Want) : (blank.note want).Summarizes [want] := by
  rw [note_blank]
  refine ⟨⟨want, List.mem_singleton_self _, rfl⟩, fun other hmem => ?_, ?_⟩
  · exact Nat.le_of_eq (congrArg Prod.fst (List.mem_singleton.1 hmem))
  · simp [wantedAt, Context.maxExpected, List.eraseDups_cons]

/-- What is wanted at the furthest offset goes behind what was wanted there, if it
is new and there is room. -/
theorem Summarizes.note_same (h : f.Summarizes wants) (hpos : want.1 = f.furthest) :
    (f.note want).Summarizes (wants ++ [want]) := by
  have hexpected := h.expected_eq
  -- the first so many descriptions change only while there are not so many
  have hsame : (f.note want).furthest = f.furthest ∧ (f.note want).expected =
      (wantedAt f.furthest (wants ++ [want])).take Context.maxExpected := by
    unfold note
    rw [if_neg (by omega), if_neg (by omega)]
    split
    · rename_i hopen
      have hall : (wantedAt f.furthest wants).take Context.maxExpected =
          wantedAt f.furthest wants := by
        refine List.take_of_length_le (Nat.le_of_not_lt fun hlt => ?_)
        have hlen := congrArg List.length hexpected
        rw [List.length_take, Nat.min_eq_left (Nat.le_of_lt hlt)] at hlen
        omega
      rw [hall] at hexpected
      have hnew : want.2 ∉ wantedAt want.1 wants := by
        rw [hpos, ← hexpected]
        exact hopen.2
      rw [← hpos, wantedAt_concat_of_not_mem hnew, hpos, ← hexpected]
      refine ⟨rfl, (List.take_of_length_le ?_).symm⟩
      rw [List.length_append, List.length_singleton]
      omega
    · rename_i hclosed
      refine ⟨rfl, ?_⟩
      by_cases hmem : want.2 ∈ wantedAt f.furthest wants
      · rw [wantedAt_concat_of_mem hmem, hexpected]
      · -- a new description is not kept, so there is no room for it
        have hfull : Context.maxExpected ≤ (wantedAt f.furthest wants).length := by
          refine Nat.le_of_not_lt fun hlt => hclosed ⟨?_, fun hin => ?_⟩
          · rw [hexpected, List.length_take]
            omega
          · exact hmem (List.mem_of_mem_take (hexpected ▸ hin))
        rw [← hpos] at hmem hfull ⊢
        rw [wantedAt_concat_of_not_mem hmem, List.take_append_of_le_length hfull, hpos,
          hexpected]
  refine ⟨?_, fun other hmem => ?_, hsame.1 ▸ hsame.2⟩
  · rw [hsame.1]
    exact ⟨want, List.mem_append_right _ (List.mem_singleton_self _), hpos⟩
  · rw [hsame.1]
    rcases List.mem_append.1 hmem with hmem | hmem
    · exact h.furthest_le other hmem
    · exact List.mem_singleton.1 hmem ▸ Nat.le_of_eq hpos

/-- The summary with one want more. -/
theorem Summarizes.note (h : f.Summarizes wants) (want : Want) :
    (f.note want).Summarizes (wants ++ [want]) := by
  rcases Nat.lt_trichotomy want.1 f.furthest with hnear | hsame | hfar
  · have heq : f.note want = f := if_pos hnear
    obtain ⟨first, hfirst, hreached⟩ := h.reached
    rw [heq]
    refine ⟨⟨first, List.mem_append_left _ hfirst, hreached⟩, fun other hmem => ?_, ?_⟩
    · rcases List.mem_append.1 hmem with hmem | hmem
      · exact h.furthest_le other hmem
      · exact List.mem_singleton.1 hmem ▸ Nat.le_of_lt hnear
    · rw [wantedAt_concat_of_ne (Nat.ne_of_lt hnear)]
      exact h.expected_eq
  · exact h.note_same hsame
  · have heq : f.note want = ⟨want.1, [want.2]⟩ := by
      unfold Failure.note
      rw [if_neg (by omega), if_pos hfar]
    have hnone : wantedAt want.1 wants = [] :=
      wantedAt_eq_nil fun other hmem => Nat.lt_of_le_of_lt (h.furthest_le other hmem) hfar
    have hnew : want.2 ∉ wantedAt want.1 wants := hnone ▸ List.not_mem_nil
    rw [heq]
    refine ⟨⟨want, List.mem_append_right _ (List.mem_singleton_self _), rfl⟩,
      fun other hmem => ?_, ?_⟩
    · rcases List.mem_append.1 hmem with hmem | hmem
      · exact Nat.le_of_lt (Nat.lt_of_le_of_lt (h.furthest_le other hmem) hfar)
      · exact Nat.le_of_eq (congrArg Prod.fst (List.mem_singleton.1 hmem))
    · show [want.2] = (wantedAt want.1 (wants ++ [want])).take Context.maxExpected
      rw [wantedAt_concat_of_not_mem hnew, hnone]
      rfl

/-- **Noting one want after another gives the summary.** -/
theorem summarizes_noteAll (h : wants ≠ []) : (blank.noteAll wants).Summarizes wants := by
  induction wants using List.reverseRecOn with
  | nil => exact absurd rfl h
  | append_singleton front want ih =>
    rw [noteAll_append]
    cases front with
    | nil => exact summarizes_note_blank want
    | cons first rest => exact (ih (List.cons_ne_nil _ _)).note want

namespace Summarizes

theorem expected_nodup (h : f.Summarizes wants) : f.expected.Nodup := by
  rw [h.expected_eq]
  exact (List.take_sublist ..).nodup (nodup_eraseDups _)

theorem length_expected_le (h : f.Summarizes wants) :
    f.expected.length ≤ Context.maxExpected := by
  rw [h.expected_eq]
  exact List.length_take_le ..

theorem length_expected_pos (h : f.Summarizes wants) : 1 ≤ f.expected.length := by
  obtain ⟨want, hmem, hpos⟩ := h.reached
  have hdescription : want.2 ∈ wantedAt f.furthest wants :=
    List.mem_eraseDups.2 (List.mem_map_of_mem (List.mem_filter.2 ⟨hmem, beq_iff_eq.2 hpos⟩))
  have hlen := List.length_pos_of_mem hdescription
  rw [h.expected_eq, List.length_take, Context.maxExpected]
  omega

end Summarizes

end Failure

/-! ## Failures in the log -/

/-- The rules that fail on their own account: primitives and lookaheads. All
others fail because an operand does. -/
def Rule.isAccountable (rule : Rule) : Bool := rule.isPrimitive || rule.isLookahead

/-- What was wanted where the event ends an application that failed on its own
account, outside lookahead. `opened` are the applications that are open before the
event, first of all the one that it ends. -/
def Event.miss? (scope : Scope) (opened : List (Rule × Nat)) : Event → Option Want
  | .exit rule pos none =>
    if rule.isAccountable && Trace.lookaheads opened.tail == 0 then
      some (pos, rule.describe scope)
    else none
  | _ => none

theorem Event.miss?_eq_none {event : Event} (h : event.isInner = true) (scope : Scope)
    (opened : List (Rule × Nat)) : event.miss? scope opened = none := by
  cases event <;> first | rfl | cases h

namespace Trace

variable {scope : Scope} {events events' : List Event}

/-- What was wanted in the course of the events, where `opened` are open before
them. -/
def missesFrom (scope : Scope) : List (Rule × Nat) → List Event → List Want
  | _, [] => []
  | opened, event :: rest =>
    (event.miss? scope opened).toList ++ missesFrom scope (event.nest opened) rest

/-- What was wanted in the course of a run, in the order in which applications
failed: the offset and the description of each primitive and each lookahead that
failed while no lookahead was open around it. A failure that was remembered counts
like one that was seen. -/
def misses (scope : Scope) (events : List Event) : List Want := missesFrom scope [] events

theorem missesFrom_append (opened : List (Rule × Nat)) :
    missesFrom scope opened (events ++ events') =
      missesFrom scope opened events ++ missesFrom scope (nest opened events) events' := by
  induction events generalizing opened with
  | nil => rfl
  | cons event rest ih =>
    show _ ++ missesFrom scope _ (rest ++ events') = _
    rw [ih, ← List.append_assoc]
    rfl

theorem misses_append :
    misses scope (events ++ events') =
      misses scope events ++ missesFrom scope (opened events) events' :=
  missesFrom_append []

theorem missesFrom_inner (h : ∀ event ∈ events, event.isInner = true)
    (opened : List (Rule × Nat)) : missesFrom scope opened events = [] := by
  induction events with
  | nil => rfl
  | cons event rest ih =>
    have hevent := h event List.mem_cons_self
    rw [missesFrom, Event.miss?_eq_none hevent, Event.nest_eq hevent]
    exact ih fun event' hmem => h event' (List.mem_cons_of_mem _ hmem)

theorem misses_inner (h : ∀ event ∈ events', event.isInner = true) :
    misses scope (events ++ events') = misses scope events := by
  rw [misses_append, missesFrom_inner h, List.append_nil]

theorem misses_enter (rule : Rule) (pos : Nat) :
    misses scope (events ++ [.enter rule pos]) = misses scope events := by
  rw [misses_append]
  exact List.append_nil _

end Trace

/-! ## The record is in step with the log -/

open Context

variable {setting : Setting} {scope : Scope} {limits : Limits} {root rule : Rule} {task : Task}
  {input : String} {pos : Nat} {st after : ParseState} {cx cx₁ cx₂ cx' : Context}
  {matched : Bool} {outcome : Outcome} {owed wants : List Want} {stalls : Prop}

/-- The record of expectations is what comes of noting all that the log says was
wanted, and then what is `owed`: wanted already, but not logged yet. -/
def Context.Reports (scope : Scope) (owed : List Want) (cx : Context) : Prop :=
  cx.failure = Failure.blank.noteAll (Trace.misses scope cx.trace ++ owed)

namespace Context.Reports

theorem start (memoize : Bool) : (Context.start memoize).Reports scope [] := rfl

theorem of_eq (h : cx.Reports scope owed) (hfailure : cx'.failure = cx.failure)
    (hmisses : Trace.misses scope cx'.trace = Trace.misses scope cx.trace) :
    cx'.Reports scope owed := by
  unfold Reports
  rw [hfailure, hmisses]
  exact h

theorem entered (h : cx.Reports scope []) (henter : cx.enter limits rule pos = (true, cx₁)) :
    cx₁.Reports scope [] := by
  refine h.of_eq ?_ (by rw [trace_enter henter, Trace.misses_enter])
  obtain ⟨-, -, rfl⟩ := enter_eq_true_iff.1 henter
  rfl

theorem refused (h : cx.Reports scope []) (henter : cx.enter limits rule pos = (false, cx')) :
    cx'.Reports scope [] := by
  rcases enter_eq_false_iff.1 henter with ⟨-, -, rfl⟩ | ⟨-, -, -, rfl⟩ <;> exact h

theorem record (h : cx.Reports scope owed) (event : Event) (hinner : event.isInner = true) :
    (cx.record event).Reports scope owed := by
  refine h.of_eq rfl ?_
  rw [trace_record, Trace.misses_inner fun _ hmem => List.mem_singleton.1 hmem ▸ hinner]

theorem rewound (h : cx.Reports scope owed) (source target : Nat) :
    (cx.rewound source target).Reports scope owed := by
  rcases rewound_eq source target cx with heq | heq <;> rw [heq]
  · exact h
  · exact h.record _ rfl

theorem lookahead (h : cx.Reports scope owed) (source target : Nat) :
    (cx.closeLookahead.rewound source target).Reports scope owed := by
  have hclosed : cx.closeLookahead.Reports scope owed := h
  exact hclosed.rewound source target

/-- A failure outside lookahead is pending until the application is over. -/
theorem miss (h : cx.Reports scope []) (hmiss : cx.miss scope rule pos = some cx') :
    cx'.Reports scope (if cx.quiet = 0 then [(pos, rule.describe scope)] else []) := by
  obtain ⟨events, hevents, htrace, -⟩ := Remarks.miss hmiss
  have hfailure := failure_miss hmiss
  unfold Reports at h ⊢
  rw [htrace, Trace.misses_inner hevents, hfailure, h, List.append_nil]
  split
  · rw [Failure.noteAll_append]
    rfl
  · rw [List.append_nil]

/-- What was pending is logged when the application is over. -/
theorem leave (h : cx₂.Reports scope owed)
    (hlogged : Trace.missesFrom scope (Trace.opened cx₂.trace)
      [.exit rule st.position (if matched then some after.position else none)] = owed) :
    (cx₂.leave scope rule st matched after).Reports scope [] := by
  unfold Reports at h ⊢
  rw [trace_leave, failure_leave, Trace.misses_append, hlogged, h, List.append_nil]

end Context.Reports

/-- What is pending when a task has ended: the failure of its own of a rule whose
application is not over yet. -/
def Task.pending (scope : Scope) (st : ParseState) (quiet : Nat) (matched : Bool) : Task → List Want
  | .body rule =>
    if rule.isAccountable && !matched then
      if quiet = 0 then [(st.position, rule.describe scope)] else []
    else []
  | _ => []

/-- All that is wanted where a rule fails on its own account is the rule. -/
theorem Evaluates.wants_eq_of_isAccountable
    (h : Evaluates scope input stalls rule pos none wants) (haccount : rule.isAccountable = true) :
    wants = [(pos, rule.describe scope)] := by
  generalize hfailed : (none : Outcome) = outcome at h
  cases h with
  | unread | notAhead_failed | ahead_failed => rfl
  | read | notAhead_matched | ahead_matched => cases hfailed
  | seq_nil | seq_failed | seq_next | choice_nil | choice_first | choice_next | zeroOrMore_ended
  | zeroOrMore_next | zeroOrMore_stalled | oneOrMore_failed | oneOrMore_next | oneOrMore_stalled
  | opt_taken | opt_left | node_failed | node_matched | recursive => cases haccount

/-- The log of a failure that was remembered wants nothing new. -/
theorem Context.Reports.leaveRecalled {entry : MemoEntry} (h : cx.Reports setting.scope [])
    (hlevel : Level false cx) (hidentifies : setting.scope.Identifies root)
    (hrule : root.Reaches setting.scope rule)
    (htrusted : cx.Trusted setting.scope root st.input)
    (henter : cx.enter setting.limits rule st.position = (true, cx₁))
    (hentry : cx₁.remembered? setting.scope rule st.position = some entry) :
    (cx₁.leaveRecalled rule st entry).Reports setting.scope [] := by
  have hreports := h.entered henter
  have hopened : Trace.opened cx₁.trace = (rule, st.position) :: Trace.opened cx.trace := by
    rw [trace_enter henter, Trace.opened_enter]
  obtain ⟨outcome, wants, heval, rfl, hknown⟩ :=
    (htrusted.entered henter).sound.remembered hidentifies hrule hentry
  unfold Reports at hreports ⊢
  rw [List.append_nil] at hreports ⊢
  show cx₁.failure = _
  rw [trace_leaveRecalled, Trace.misses_append, Failure.noteAll_append, ← hreports, hopened]
  obtain _ | ⟨stop, tokens⟩ := outcome
  · show cx₁.failure = cx₁.failure.noteAll ((if _ then _ else _ : Option Want).toList ++ [])
    split
    · rename_i hcounts
      simp only [Event.nest, List.tail_cons, Bool.and_eq_true, beq_iff_eq] at hcounts
      obtain ⟨haccount, hnone⟩ := hcounts
      have hquiet : cx₁.quiet = 0 := by
        have heq : cx.quiet = 0 := hlevel.trans hnone
        obtain ⟨-, -, rfl⟩ := enter_eq_true_iff.1 henter
        exact heq
      rw [heval.wants_eq_of_isAccountable haccount, noted, if_pos hquiet] at hknown
      exact hknown
    · rfl
  · rfl

/-- **The record is in step with the log.** -/
theorem Executes.reports (h : Executes setting task st cx matched after cx')
    (hidentifies : setting.scope.Identifies root) (hbelow : task.Below setting.scope root)
    (hposed : task.WellPosed) (htrusted : cx.Trusted setting.scope root st.input)
    (hlevel : Level task.isProbe cx) (hreports : cx.Reports setting.scope []) :
    cx'.Reports setting.scope (task.pending setting.scope st cx.quiet matched) := by
  -- only the body of a rule that fails on its own account leaves something pending
  induction h with
  | refused henter => exact hreports.refused henter
  | recalled henter hentry =>
    exact hreports.leaveRecalled hlevel hidentifies hbelow htrusted henter hentry
  | @evaluated rule st after cx cx₁ cx₂ matched henter _ hbody ih =>
    have hbegun := ih hbelow trivial (htrusted.entered henter) (hlevel.entered henter)
      (hreports.entered henter)
    refine hbegun.leave ?_
    have hquiet : cx₁.quiet = cx.quiet := by
      obtain ⟨-, -, rfl⟩ := enter_eq_true_iff.1 henter
      rfl
    have hlevel' : cx.quiet = Trace.lookaheads (Trace.opened cx.trace) := hlevel
    rw [hbody.nested.opened_eq, trace_enter henter, Trace.opened_enter, hquiet, hlevel']
    cases matched with
    | true => simp [Trace.missesFrom, Event.miss?, Task.pending]
    | false =>
      cases haccount : rule.isAccountable <;>
        by_cases hnone : Trace.lookaheads (Trace.opened cx.trace) = 0 <;>
        simp [Trace.missesFrom, Event.miss?, Task.pending, haccount, hnone]
  | @read rule st after cx n hprimitive hread hadvance =>
    simpa [Task.pending] using hreports
  | @unread rule st cx cx' hprimitive hread hmiss =>
    have haccount : rule.isAccountable = true := by simp [Rule.isAccountable, hprimitive]
    simpa [Task.pending, haccount] using hreports.miss hmiss
  | seq _ ih | choice _ ih =>
    exact ih (fun _ hmem => hbelow.operand hmem) trivial htrusted hlevel hreports
  | @notAhead_failed id operand st probe cx cx₁ cx' hprobe hmiss ih
  | @ahead_failed id operand st probe cx cx₁ cx' hprobe hmiss ih =>
    have hprobed := ih (hbelow.operand (List.mem_singleton_self _)) trivial
      htrusted.openLookahead hlevel hreports
    have hmissed := (hprobed.lookahead probe.position st.position).miss hmiss
    rw [(hprobe.frame.lookahead probe.position st.position).quiet_eq] at hmissed
    exact hmissed
  | notAhead_matched _ ih | ahead_matched _ ih =>
    have hprobed := ih (hbelow.operand (List.mem_singleton_self _)) trivial
      htrusted.openLookahead hlevel hreports
    exact hprobed.lookahead _ _
  | zeroOrMore _ ih =>
    exact ih (hbelow.operand (List.mem_singleton_self _)) (Nat.zero_le 1) htrusted hlevel hreports
  | oneOrMore _ ih =>
    exact ih (hbelow.operand (List.mem_singleton_self _)) (Nat.le_refl 1) htrusted hlevel hreports
  | opt_taken _ _ ih | opt_left _ ih | node_failed _ ih =>
    exact ih (hbelow.operand (List.mem_singleton_self _)) trivial htrusted hlevel hreports
  | node_matched _ _ _ _ ih =>
    have hinner := ih (hbelow.operand (List.mem_singleton_self _)) trivial htrusted hlevel hreports
    exact hinner.record _ rfl
  | recursive htarget _ ih =>
    exact ih (hbelow.target htarget) trivial (htrusted.record _)
      ((Level.invariant setting).remarked hlevel (.record _ _ rfl)) (hreports.record _ rfl)
  | sequence_nil | alternatives_nil => exact hreports
  | sequence_failed _ ih =>
    exact (ih (hbelow _ List.mem_cons_self) trivial htrusted hlevel hreports).rewound _ _
  | sequence_next hhead _ ih ih' =>
    have hrule := hbelow _ List.mem_cons_self
    obtain ⟨tokens, hext⟩ := (hhead.contract trivial htrusted.laid).2.of_matched rfl
    have htrusted₁ := hhead.trusted hidentifies hrule trivial htrusted
    rw [← hext.input_eq] at htrusted₁
    have hlevel₁ : Level false _ := hhead.preserves (Level.invariant setting) hlevel
    exact ih' (fun r hmem => hbelow r (List.mem_cons_of_mem _ hmem)) trivial htrusted₁ hlevel₁
      (ih hrule trivial htrusted hlevel hreports)
  | alternatives_first _ _ ih | alternatives_aborted _ _ ih =>
    exact ih (hbelow _ List.mem_cons_self) trivial htrusted hlevel hreports
  | alternatives_next hhead _ _ ih ih' =>
    have hrule := hbelow _ List.mem_cons_self
    have hlevel₁ : Level false _ := hhead.preserves (Level.invariant setting) hlevel
    exact ih' (fun r hmem => hbelow r (List.mem_cons_of_mem _ hmem)) trivial
      (hhead.trusted hidentifies hrule trivial htrusted) hlevel₁
      (ih hrule trivial htrusted hlevel hreports)
  | repetition_ended _ ih => exact ih hbelow trivial htrusted hlevel hreports
  | repetition_next hoperand _ hinput _ ih ih' =>
    have htrusted₁ := hoperand.trusted hidentifies hbelow trivial htrusted
    rw [hinput] at htrusted₁
    have hlevel₁ : Level false _ := hoperand.preserves (Level.invariant setting) hlevel
    exact ih' hbelow (Nat.le_trans (Nat.sub_le _ 1) hposed) htrusted₁ hlevel₁
      (ih hbelow trivial htrusted hlevel hreports)
  | repetition_dropped _ _ ih | repetition_kept _ _ _ ih =>
    exact (ih hbelow trivial htrusted hlevel hreports).record _ rfl

/-! ## A failure leaves something to report -/

/-- Every choice below `root` has an alternative. The constructor of choices sees
to it, see `Builder.Built.offers`. -/
def Scope.Offers (scope : Scope) (root : Rule) : Prop := ∀ id, ¬root.Reaches scope (.choice id [])

namespace Scope.Offers

theorem below {below : Rule} (h : scope.Offers rule) (hbelow : rule.Reaches scope below) :
    scope.Offers below :=
  fun id hempty => h id (hbelow.trans hempty)

theorem operand {operand : Rule} (h : scope.Offers rule) (hmem : operand ∈ rule.operands) :
    scope.Offers operand :=
  h.below (Rule.Reaches.refl.operand hmem)

theorem of_operands {part : Rule} (h : scope.Offers rule) (hsubset : part.operands ⊆ rule.operands)
    (hpart : ∀ id key, part ≠ .recursive id key) (hempty : ∀ id, part ≠ .choice id []) :
    scope.Offers part := by
  intro id hreaches
  rcases hreaches.of_operands hsubset hpart with heq | hreaches
  · exact hempty id heq.symm
  · exact h id hreaches

/-- The rest of a sequence offers what the sequence does. -/
theorem rest {id : RuleId} {first : Rule} {others : List Rule}
    (h : scope.Offers (.seq id (first :: others))) : scope.Offers (.seq id others) :=
  h.of_operands (List.subset_cons_self _ _) (fun _ _ => Rule.noConfusion) fun _ => Rule.noConfusion

/-- What goes on after the first match offers what the repetition does. -/
theorem further {id : RuleId} {operand : Rule} (h : scope.Offers (.oneOrMore id operand)) :
    scope.Offers (.zeroOrMore id operand) :=
  h.of_operands (List.Subset.refl _) (fun _ _ => Rule.noConfusion) fun _ => Rule.noConfusion

end Scope.Offers

/-- Built choices have alternatives, in every scope whose recursive rules stand for
built rules. -/
theorem Builder.Built.offers {rules : List Rule} {next : RuleId} (h : Builder.Built rules next)
    (hroot : root ∈ rules)
    (htargets : ∀ id key target, scope.target id key = some target → target ∈ rules) :
    scope.Offers root := by
  have hcloses : scope.Closes rules :=
    ⟨h.operand_mem, fun id key target _ => htargets id key target⟩
  intro id hreaches
  have hmem := hcloses.mem_of_reaches hroot hreaches
  clear hcloses hreaches htargets hroot
  induction h with
  | start => cases hmem
  | step _ hconstructs _ hbuild ih =>
    rcases List.mem_cons.1 hmem with rfl | hmem
    · cases hconstructs with
      | choice alternatives =>
        unfold Builder.choice at hbuild
        split at hbuild
        · cases hbuild
        · rename_i hsome
          cases hbuild
          exact hsome rfl
      | ch | any | satisfy | endOfInput | seq | notAhead | ahead | zeroOrMore | oneOrMore | opt
      | node | recursive => cases hbuild
      | oneOf =>
        unfold Builder.oneOf at hbuild
        split at hbuild <;> cases hbuild
      | noneOf =>
        unfold Builder.noneOf at hbuild
        split at hbuild <;> cases hbuild
      | range =>
        unfold Builder.range at hbuild
        split at hbuild <;> cases hbuild
      | literal =>
        unfold Builder.literal at hbuild
        split at hbuild <;> cases hbuild
      | regex pattern =>
        unfold Builder.regex at hbuild
        cases hcompile : Regex.compile pattern with
        | ok | error =>
          rw [hcompile] at hbuild
          cases hbuild
    · exact ih hmem

/-- **A rule that fails wants something.** -/
theorem Evaluates.wants_ne_nil (h : Evaluates scope input stalls rule pos outcome wants)
    (hoffers : scope.Offers rule) (hfailed : outcome = none) : wants ≠ [] := by
  induction h with
  | unread | notAhead_failed | ahead_failed => exact List.cons_ne_nil _ _
  | read | seq_nil | choice_first | notAhead_matched | ahead_matched | zeroOrMore_ended
  | zeroOrMore_stalled | oneOrMore_stalled | opt_taken | opt_left | node_matched => cases hfailed
  | choice_nil => exact absurd .refl (hoffers _)
  | seq_failed _ ih => exact ih (hoffers.operand List.mem_cons_self) rfl
  | oneOrMore_failed _ ih | node_failed _ ih =>
    exact ih (hoffers.operand (List.mem_singleton_self _)) rfl
  -- the alternatives before have failed, and each of them wants something
  | choice_next _ _ ih =>
    have hfirst := ih (hoffers.operand List.mem_cons_self) rfl
    exact fun heq => hfirst (List.append_eq_nil_iff.1 heq).1
  | seq_next _ _ _ ih' =>
    have hrest := ih' hoffers.rest (Option.map_eq_none_iff.1 hfailed)
    exact fun heq => hrest (List.append_eq_nil_iff.1 heq).2
  | zeroOrMore_next _ _ _ _ ih' =>
    have hrest := ih' hoffers (Option.map_eq_none_iff.1 hfailed)
    exact fun heq => hrest (List.append_eq_nil_iff.1 heq).2
  | oneOrMore_next _ _ _ _ ih' =>
    have hrest := ih' hoffers.further (Option.map_eq_none_iff.1 hfailed)
    exact fun heq => hrest (List.append_eq_nil_iff.1 heq).2
  | recursive htarget _ ih => exact ih (hoffers.below (Rule.Reaches.refl.target htarget)) hfailed

/-! ## The failure of a run -/

/-- What a parse wants besides, where it matched and something is left. -/
def ParseError.leftover : ParseError → List Want
  | .incomplete consumed _ => [(consumed, "end of input")]
  | _ => []

namespace Parser

variable {p : Parser} {complete : Bool} {error : ParseError} {failure : Failure}

/-- A run with a result comes from an application of its root rule that ends well. -/
theorem exists_apply_of_run {result : Except ParseError Token}
    (h : (p.run scope input complete).result = .ok result) :
    ∃ matched st cx,
      apply (p.setting scope) p.limits.recursionLimit.toNat p.root (.start input)
          (.start p.memoize) = .ok (matched, st) cx ∧
        p.verdict scope complete matched st cx = .ok result ∧
        (p.run scope input complete).events = cx.trace := by
  cases happly : apply (p.setting scope) p.limits.recursionLimit.toNat p.root (.start input)
      (.start p.memoize) with
  | ok ending cx =>
    obtain ⟨matched, st⟩ := ending
    rw [p.run_eq_of_apply happly] at h ⊢
    exact ⟨matched, st, cx, rfl, h, rfl⟩
  | error breach cx =>
    unfold run execute at h
    simp only [bind, EStateM.bind, happly] at h
    cases h

/-- **The failure report of a run is the summary of its log**: of the failures of
primitives and lookaheads outside lookahead, and of the end of input where that
was wanted. There is at least one of them, so that the report names between one
and sixteen things, no two the same, at no less than what was consumed. -/
theorem run_diagnosis (p : Parser) (scope : Scope) (hidentifies : scope.Identifies p.root)
    (hoffers : scope.Offers p.root) (input : String) (complete : Bool)
    (hresult : (p.run scope input complete).result = .ok (.error error))
    (hfailure : error.failure? = some failure) :
    Trace.misses scope (p.run scope input complete).events ++ error.leftover ≠ [] ∧
      failure.Summarizes
        (Trace.misses scope (p.run scope input complete).events ++ error.leftover) ∧
      1 ≤ failure.expected.length ∧ failure.expected.length ≤ 16 ∧ failure.expected.Nodup ∧
      ∀ consumed, error = .incomplete consumed failure → consumed ≤ failure.furthest := by
  obtain ⟨matched, st, cx, happly, hverdict, hevents⟩ := exists_apply_of_run hresult
  have hexec := (apply_eq_ok_iff (Nat.le_add_right _ _)).1 happly
  have hreports : cx.Reports scope [] := hexec.reports hidentifies .refl trivial
    ⟨.start p.memoize input, .start p.memoize⟩ (.start p.memoize) (.start p.memoize)
  have hrecord : cx.failure = Failure.blank.noteAll (Trace.misses scope cx.trace) := by
    rw [hreports, List.append_nil]
  -- it is enough that the report is what comes of noting all that is wanted
  suffices hnoted : Trace.misses scope cx.trace ++ error.leftover ≠ [] ∧
      failure = Failure.blank.noteAll (Trace.misses scope cx.trace ++ error.leftover) by
    rw [hevents]
    obtain ⟨hsome, heq⟩ := hnoted
    have hsummary : failure.Summarizes (Trace.misses scope cx.trace ++ error.leftover) :=
      heq ▸ Failure.summarizes_noteAll hsome
    refine ⟨hsome, hsummary, hsummary.length_expected_pos, hsummary.length_expected_le,
      hsummary.expected_nodup, fun consumed herror => ?_⟩
    refine hsummary.furthest_le (consumed, "end of input") (List.mem_append_right _ ?_)
    rw [herror]
    exact List.mem_singleton_self _
  unfold verdict at hverdict
  split at hverdict
  · cases hverdict
    cases hfailure
  · rename_i hfatal
    split at hverdict
    · -- the root rule has failed, and what it wanted is in the record
      rename_i hmatched
      cases hverdict
      cases hfailure
      subst hmatched
      obtain ⟨outcome, wants, heval, hreal, hnoted⟩ :=
        (hexec.adequate hidentifies .refl trivial (.start p.memoize input)
          (Context.Sound.start p.memoize) fun _ => trivial).2 hfatal
      have hwants : wants ≠ [] := (heval 0).wants_ne_nil hoffers hreal.eq_none
      have hknown : cx.failure = Failure.blank.noteAll wants := hnoted
      have hleft : (ParseError.noMatch cx.failure).leftover = [] := rfl
      rw [hleft, List.append_nil, ← hrecord]
      refine ⟨fun hnone => ?_, rfl⟩
      have hblank : (Failure.blank.noteAll wants).expected = [] := by
        rw [← hknown, hrecord, hnone]
        rfl
      have hlen := (Failure.summarizes_noteAll hwants).length_expected_pos
      rw [hblank] at hlen
      exact absurd hlen (by decide)
    · split at hverdict
      · cases hverdict
        cases hfailure
        refine ⟨List.append_ne_nil_of_right_ne_nil _ (List.cons_ne_nil _ _), ?_⟩
        have hquiet : cx.quiet = 0 := hexec.frame.quiet_eq
        rw [Failure.noteAll_append, ← hrecord, Context.failure_expect, if_pos hquiet]
        rfl
      · cases hroot : rootToken scope p.root st with
        | ok | error =>
          rw [hroot] at hverdict
          cases hverdict

/-- The failure of a run that matched nothing. -/
def Report.noMatch? (report : Report) : Option Failure :=
  match report.result with
  | .ok (.error (.noMatch failure)) => some failure
  | _ => none

theorem Report.result_of_noMatch? {report : Report} (h : report.noMatch? = some failure) :
    report.result = .ok (.error (.noMatch failure)) := by
  unfold noMatch? at h
  split at h
  · rename_i hresult
    cases h
    exact hresult
  · cases h

/-- In a quotation that is not closed, the closing mark is what is missing: the
other ways to begin failed earlier. -/
theorem run_diagnosis_quotation :
    ∃ failure : Failure,
      ((ofRule Quotation.text).run Quotation.scope "«é" true).result =
          .ok (.error (.noMatch failure)) ∧
        failure.Summarizes
          (Trace.misses Quotation.scope
            ((ofRule Quotation.text).run Quotation.scope "«é" true).events) ∧
        failure = ⟨4, ["'…'", "'»'"]⟩ := by
  have hoffers : Quotation.scope.Offers Quotation.text := fun id hreaches => by
    have hmem := Quotation.closes.mem_of_reaches List.mem_cons_self hreaches
    simp [Quotation.rules, Quotation.text, Quotation.quoted, Quotation.dotted,
      Quotation.letter] at hmem
  have hfailed : ((ofRule Quotation.text).run Quotation.scope "«é" true).noMatch? =
      some ⟨4, ["'…'", "'»'"]⟩ := by decide +kernel
  have hresult := Report.result_of_noMatch? hfailed
  obtain ⟨-, hsummary, -⟩ := run_diagnosis (ofRule Quotation.text) Quotation.scope
    Quotation.identifies hoffers "«é" true hresult rfl
  have hleft : (ParseError.noMatch ⟨4, ["'…'", "'»'"]⟩).leftover = [] := rfl
  rw [hleft, List.append_nil] at hsummary
  exact ⟨_, hresult, hsummary, rfl⟩

end Parser

end Packrat
