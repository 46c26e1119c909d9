import Packrat.Proofs.Recursion

/-!
# A named rule is evaluated once at each offset

Where no lookahead is open, the outcome of a named rule is remembered as soon as
its application is over. The next application at the same offset cannot come
before that, since it would be inside the first one. So it comes after it, and is
answered from the table.

- `Trace.Outside events`: no lookahead is open after the events.
- `Context.Kept`: the table has what was applied outside lookahead. It rests on the
  level of lookahead being right wherever a rule is applied.
- `Executes.replayed`: an application whose outcome is in the table is a replay.
- `Occurs.replays`, `Parser.run_replays`: all applications but the first are replays
  of it.
-/

namespace Packrat

open Context

/-! ## The level of lookahead -/

namespace Trace

/-- No lookahead is open after the events. -/
def Outside (events : List Event) : Prop :=
  ∀ application ∈ opened events, application.1.isLookahead = false

/-- How many of the open applications are lookaheads. -/
def lookaheads (opened : List (Rule × Nat)) : Nat := opened.countP (·.1.isLookahead)

/-- What ends all that it begins leaves no lookahead open. -/
theorem Outside.append {events events' : List Event} (h : Outside events)
    (hbalanced : Balanced events') : Outside (events ++ events') := by
  unfold Outside
  rw [hbalanced.opened_append]
  exact h

theorem Outside.lookaheads_eq {events : List Event} (h : Outside events) :
    lookaheads (opened events) = 0 :=
  List.countP_eq_zero.2 fun application hmem => by simp [h application hmem]

theorem lookaheads_cons (rule : Rule) (pos : Nat) (opened : List (Rule × Nat)) :
    lookaheads ((rule, pos) :: opened) = lookaheads opened + rule.isLookahead.toNat := by
  unfold lookaheads
  rw [List.countP_cons]
  cases rule.isLookahead <;> rfl

end Trace

namespace Context

variable {setting : Setting} {limits : Limits} {scope : Scope} {rule : Rule} {pos : Nat}
  {probe : Bool} {cx cx₁ cx₂ cx' : Context} {st after : ParseState} {matched : Bool}

/-- The level of lookahead is the number of open lookaheads. The probe of the
innermost one may not have begun yet, or be over. -/
def Level (probe : Bool) (cx : Context) : Prop :=
  cx.quiet + probe.toNat = Trace.lookaheads (Trace.opened cx.trace)

namespace Level

theorem start (memoize : Bool) : Level false (.start memoize) := rfl

theorem entered (h : Level false cx) (henter : cx.enter limits rule pos = (true, cx₁)) :
    Level rule.isLookahead cx₁ := by
  rw [Level, trace_enter henter, Trace.opened_enter, Trace.lookaheads_cons, ← h]
  obtain ⟨-, -, rfl⟩ := enter_eq_true_iff.1 henter
  rfl

theorem of_nested (h : Level probe cx) (hnested : Nested cx cx') (hquiet : cx'.quiet = cx.quiet) :
    Level probe cx' := by
  rw [Level, hnested.opened_eq, hquiet]
  exact h

/-- Executions keep the level of lookahead right. -/
theorem invariant (setting : Setting) : Invariant setting Level where
  remarked h hremarks := by
    refine h.of_nested (.remarks hremarks) ?_
    obtain ⟨-, -, -, heq⟩ := hremarks
    rw [heq]
  refused h henter :=
    h.of_nested (.of_trace_eq (trace_refused henter)) (Frame.refused henter).quiet_eq
  entered h henter := h.entered henter
  recalled h henter _ := h.of_nested (.leaveRecalled henter) (Frame.leaveRecalled henter).quiet_eq
  left {rule st after cx cx₁ cx₂ matched} henter _ hnested h := by
    have hopened : Trace.opened cx₂.trace = (rule, st.position) :: Trace.opened cx.trace := by
      rw [hnested.opened_eq, trace_enter henter, Trace.opened_enter]
    rw [Level, hopened, Trace.lookaheads_cons] at h
    rw [Level, (Nested.leave henter hnested).opened_eq, quiet_leave]
    exact Nat.add_right_cancel h
  opened h := h
  closed {cx cx₁} hframe h := by
    have hquiet : cx₁.quiet = cx.quiet + 1 := hframe.quiet_eq
    rw [Level] at h ⊢
    show cx₁.quiet - 1 + 1 = Trace.lookaheads (Trace.opened cx₁.trace)
    rw [← h]
    exact Nat.sub_add_cancel (by omega)

/-- Where no lookahead is open, and none is about to look, expectations count. -/
theorem quiet_eq_zero (h : Level probe cx) (houtside : Trace.Outside cx.trace) : cx.quiet = 0 := by
  rw [Level, houtside.lookaheads_eq] at h
  omega

end Level

/-! ## What is kept -/

/-- Outcomes are remembered, and unless the parse was abandoned the table has one
for every application of a named rule that was made outside lookahead and is over. -/
structure Kept (scope : Scope) (probe : Bool) (cx : Context) : Prop where
  level : Level probe cx
  kept : ∃ table, cx.memo = some table ∧ (cx.fatal = none →
    ∀ before rule pos stop, before ++ [.exit rule pos stop] <+: cx.trace →
      Trace.Outside (before ++ [.exit rule pos stop]) → (scope.name rule.id).isSome = true →
      (rule.id, pos) ∈ table)

namespace Kept

theorem start (scope : Scope) : Kept scope false (.start true) where
  level := .start true
  kept := ⟨∅, rfl, fun _ before rule pos stop hexit => by simp at hexit⟩

/-- What is remembered is in the table. -/
theorem mem_of_remembered? {table : MemoTable} {entry : MemoEntry}
    (h : cx.remembered? scope rule pos = some entry) (htable : cx.memo = some table) :
    (rule.id, pos) ∈ table := by
  rw [remembered?, htable] at h
  split at h
  · have hget : table[(rule.id, pos)]? = some entry := h
    rw [Std.HashMap.mem_iff_isSome_getElem?, hget]
    rfl
  · cases h

/-- What does not end an application keeps the table as good as it is. -/
theorem of_trace_eq {events : List Event} {probe' : Bool} (h : Kept scope probe cx)
    (hlevel : Level probe' cx') (hmemo : cx'.memo = cx.memo)
    (hfatal : cx'.fatal = none → cx.fatal = none) (htrace : cx'.trace = cx.trace ++ events)
    (hother : ∀ rule pos stop, Event.exit rule pos stop ∉ events) : Kept scope probe' cx' where
  level := hlevel
  kept := by
    obtain ⟨table, htable, hkept⟩ := h.kept
    refine ⟨table, hmemo.trans htable, fun hgoing before rule pos stop hexit => ?_⟩
    rw [htrace] at hexit
    exact hkept (hfatal hgoing) before rule pos stop
      (Trace.prefix_of_append hexit (hother rule pos stop))

/-- Leaving an application keeps the table good if it has the outcome then. -/
theorem exited {stop : Option Nat} {table : MemoTable} {probe' : Bool} (h : Kept scope probe cx)
    (hlevel : Level probe' cx') (htrace : cx'.trace = cx.trace ++ [.exit rule pos stop])
    (hfatal : cx'.fatal = none → cx.fatal = none) (htable : cx'.memo = some table)
    (hgrown : ∀ before, cx.memo = some before → ∀ key ∈ before, key ∈ table)
    (hleft : cx'.fatal = none → Trace.Outside cx'.trace → (scope.name rule.id).isSome = true →
      (rule.id, pos) ∈ table) : Kept scope probe' cx' where
  level := hlevel
  kept := by
    obtain ⟨before, hbefore, hkept⟩ := h.kept
    refine ⟨table, htable, fun hgoing earlier rule' pos' stop' hexit houtside hnamed => ?_⟩
    rw [htrace] at hexit hleft
    rcases List.prefix_concat_iff.1 hexit with hlast | hearlier
    · obtain ⟨rfl, hevent⟩ := List.append_inj' hlast rfl
      cases hevent
      exact hleft hgoing houtside hnamed
    · exact hgrown before hbefore _
        (hkept (hfatal hgoing) earlier rule' pos' stop' hearlier houtside hnamed)

theorem entered (h : Kept scope false cx) (henter : cx.enter limits rule pos = (true, cx₁)) :
    Kept scope rule.isLookahead cx₁ := by
  refine h.of_trace_eq (h.level.entered henter) ?_ ?_ (trace_enter henter) (by simp)
  · obtain ⟨-, -, rfl⟩ := enter_eq_true_iff.1 henter
    rfl
  · obtain ⟨hfatal, -⟩ := enter_eq_true_iff.1 henter
    exact fun _ => hfatal

/-- Executions keep the table good. -/
theorem invariant (setting : Setting) : Invariant setting (Kept setting.scope) where
  remarked h hremarks := by
    have hlevel := (Level.invariant setting).remarked h.level hremarks
    obtain ⟨events, hevents, htrace, heq⟩ := hremarks
    refine h.of_trace_eq hlevel (by rw [heq]) (by rw [heq]; exact id) htrace ?_
    exact fun rule pos stop hmem => nomatch hevents _ hmem
  refused {rule pos cx cx'} h henter := by
    have htrace : cx'.trace = cx.trace ++ [] :=
      (trace_refused henter).trans (List.append_nil _).symm
    refine h.of_trace_eq ((Level.invariant setting).refused h.level henter) ?_
      (fun hfatal => absurd hfatal (fatal_ne_none_of_refused henter)) htrace (by simp)
    rcases enter_eq_false_iff.1 henter with ⟨-, -, rfl⟩ | ⟨-, -, -, rfl⟩ <;> rfl
  entered h henter := h.entered henter
  recalled {rule st cx cx₁ entry} h henter hentry := by
    have h₁ := h.entered henter
    have hfound : Kept setting.scope rule.isLookahead
        (cx₁.record (.memoHit rule st.position entry.stop?)) :=
      h₁.of_trace_eq ((Level.invariant setting).remarked h₁.level (.record _ _ rfl)) rfl id
        (trace_record ..) (by simp)
    obtain ⟨table, htable, -⟩ := h₁.kept
    refine hfound.exited ((Level.invariant setting).recalled h.level henter hentry)
      List.reverse_cons id htable (fun table' heq key hmem => ?_)
      fun _ _ _ => mem_of_remembered? hentry htable
    cases htable.symm.trans heq
    exact hmem
  left {rule st after cx cx₁ cx₂ matched} henter hframe hnested h := by
    have hlevel : Level false (cx₂.leave setting.scope rule st matched after) :=
      (Level.invariant setting).left henter hframe hnested h.level
    have hfatal : (cx₂.leave setting.scope rule st matched after).fatal = none →
        cx₂.fatal = none := fun hgoing => fatal_leave.symm.trans hgoing
    obtain ⟨before, hbefore, -⟩ := h.kept
    by_cases hkeeps : (cx₂.memoizes setting.scope rule && !cx₂.isAborted) = true
    · have htable : (cx₂.leave setting.scope rule st matched after).memo =
          some (before.insert (rule.id, st.position)
            (Apply.outcome st.emitted.size matched after)) := by
        rw [memo_leave, if_pos hkeeps, hbefore]
        rfl
      refine h.exited hlevel trace_leave hfatal htable (fun table heq key hmem => ?_)
        fun _ _ _ => Std.HashMap.mem_insert_self
      cases hbefore.symm.trans heq
      exact Std.HashMap.mem_insert.2 (.inr hmem)
    · have htable : (cx₂.leave setting.scope rule st matched after).memo = some before := by
        rw [memo_leave, if_neg hkeeps, hbefore]
      refine h.exited hlevel trace_leave hfatal htable (fun table heq key hmem => ?_)
        fun hgoing houtside hnamed => absurd ?_ hkeeps
      · cases hbefore.symm.trans heq
        exact hmem
      -- the level is right, so the outcome would have been remembered
      · have hquiet : cx₂.quiet = 0 := quiet_leave.symm.trans (hlevel.quiet_eq_zero houtside)
        simp [memoizes, isAborted, hnamed, hquiet, hfatal hgoing]
  opened h := ⟨h.level, h.kept⟩
  closed hframe h := ⟨(Level.invariant setting).closed hframe h.level, h.kept⟩

/-- An application outside lookahead that is over has its outcome in the table. -/
theorem mem_of_over {before closed : List Event} {stop : Option Nat} (h : Kept scope probe cx)
    (hfatal : cx.fatal = none) (hclosed : Trace.Balanced closed)
    (hover : before ++ .enter rule pos :: (closed ++ [.exit rule pos stop]) <+: cx.trace)
    (houtside : Trace.Outside before) (hnamed : (scope.name rule.id).isSome = true) :
    ∃ table, cx.memo = some table ∧ (rule.id, pos) ∈ table := by
  obtain ⟨table, htable, hkept⟩ := h.kept
  have hafter := houtside.append (hclosed.enclosed rule pos stop)
  have hexit : before ++ .enter rule pos :: (closed ++ [.exit rule pos stop]) =
      before ++ .enter rule pos :: closed ++ [.exit rule pos stop] := by simp
  rw [List.cons_append, hexit] at hafter
  rw [hexit] at hover
  exact ⟨table, htable, hkept hfatal _ rule pos stop hover hafter hnamed⟩

end Kept

end Context

variable {setting : Setting} {root rule : Rule} {st st₁ after after₁ : ParseState}
  {cx cx₁ cx' : Context} {matched matched₁ : Bool}

/-! ## Replays -/

/-- Where an outcome says that a match ends is where the state after it stands. -/
theorem Outcome.Realized.stop_eq {outcome : Outcome} (h : outcome.Realized st matched after) :
    (if matched then some after.position else none) = outcome.map (·.1) := by
  cases h <;> rfl

/-- An application outside lookahead whose outcome is in the table is a replay. -/
theorem Executes.replayed (h : Executes setting (.application rule) st cx matched after cx')
    (hkept : Kept setting.scope false cx) (hfatal : cx'.fatal = none)
    (houtside : Trace.Outside cx.trace) (hnamed : (setting.scope.name rule.id).isSome = true)
    {table : MemoTable} (htable : cx.memo = some table) (hmem : (rule.id, st.position) ∈ table) :
    cx'.trace = cx.trace ++ [.enter rule st.position,
      .memoHit rule st.position (if matched then some after.position else none),
      .exit rule st.position (if matched then some after.position else none)] := by
  cases h with
  | refused henter => exact absurd hfatal (fatal_ne_none_of_refused henter)
  | recalled henter _ hreplay =>
    rw [trace_leaveRecalled, trace_enter henter, hreplay.stop?_eq]
    simp
  | evaluated henter hentry hbody =>
    have hquiet := hkept.level.quiet_eq_zero houtside
    obtain ⟨-, -, rfl⟩ := enter_eq_true_iff.1 henter
    have hget : table[(rule.id, st.position)]? = none := by
      simpa [remembered?, memoizes, hnamed, hquiet, htable] using hentry
    rw [Std.HashMap.mem_iff_isSome_getElem?, hget] at hmem
    cases hmem

/-- Of two applications of a rule at one offset, the first one is over when the
second one begins: inside the first one, the rule is open. -/
theorem Executes.over {cx₂ cx₂' : Context} {st₂ after₂ : ParseState} {matched₂ : Bool}
    {first second : Rule} {whole : List Event}
    (happly : Executes setting (.application first) st₁ cx₁ matched₁ after₁ cx')
    (hcall : Calls setting (.application root) st cx second st₂ cx₂)
    (happly₂ : Executes setting (.application second) st₂ cx₂ matched₂ after₂ cx₂')
    (hidentifies : setting.scope.Identifies root) (hcx : cx.Reachable setting root st.input)
    (hbegun : Trace.opened cx.trace = []) (hfatal : cx₂'.fatal = none)
    (hpos : st₁.position = st₂.position) (hid : first.id = second.id)
    (hearlier : cx₁.trace ++ [.enter first st₁.position] <+: cx₂.trace)
    (hlater : cx₂.trace ++ [.enter second st₂.position] <+: whole) (hwhole : cx'.trace <+: whole) :
    cx'.trace <+: cx₂.trace := by
  rcases Trace.prefix_cases hlater hwhole with hinside | hover
  · have hbefore : cx₁.trace <+: cx₂.trace := (List.prefix_append ..).trans hearlier
    obtain ⟨hcall', -, -, htrace, -, -⟩ := happly.occurs hbefore hinside
    have hne : cx₂.trace ≠ cx₁.trace := by
      intro heq
      rw [heq] at hearlier
      exact Trace.not_within_earlier List.prefix_rfl hearlier
    have hopened := hcall'.mem_opened (htrace ▸ hne)
    rw [htrace, hpos] at hopened
    exact absurd hid (hcall.fresh happly₂ hidentifies hcx hbegun hfatal hopened)
  · exact hover

/-- Two applications of a rule at one offset end at the same place. -/
theorem Executes.stop_eq {cx₂ cx₂' : Context} {st₂ after₂ : ParseState} {matched₂ : Bool}
    (h : Executes setting (.application rule) st₁ cx₁ matched₁ after₁ cx')
    (h' : Executes setting (.application rule) st₂ cx₂ matched₂ after₂ cx₂')
    (hidentifies : setting.scope.Identifies root) (hrule : root.Reaches setting.scope rule)
    (hinput : st₁.input = st₂.input) (hpos : st₁.position = st₂.position)
    (htrusted : cx₁.Trusted setting.scope root st₂.input)
    (htrusted' : cx₂.Trusted setting.scope root st₂.input) (hfatal : cx'.fatal = none)
    (hfatal' : cx₂'.fatal = none) :
    (if matched₁ then some after₁.position else none) =
      if matched₂ then some after₂.position else none := by
  obtain ⟨outcome, wants, heval, hreal⟩ :=
    h.evaluates hidentifies hrule hinput htrusted hfatal
  obtain ⟨outcome', wants', heval', hreal'⟩ :=
    h'.evaluates hidentifies hrule rfl htrusted' hfatal'
  rw [hpos] at heval
  obtain ⟨rfl, -⟩ := heval.det heval'
  rw [hreal.stop_eq, hreal'.stop_eq]

/-- **Of two applications of a named rule at one offset, the second is a replay of
the first**, if both are outside lookahead and outcomes are remembered. -/
theorem Occurs.replays {before between after : List Event} {first second : Rule} {pos : Nat}
    (h₁ : Occurs setting (.application root) st cx cx' before first pos)
    (h₂ : Occurs setting (.application root) st cx cx' (before ++ .enter first pos :: between)
      second pos)
    (hidentifies : setting.scope.Identifies root) (hcx : cx.Reachable setting root st.input)
    (hkept : Kept setting.scope false cx) (hbegun : Trace.opened cx.trace = [])
    (hfatal : cx'.fatal = none)
    (htrace : cx'.trace = before ++ .enter first pos :: between ++ .enter second pos :: after)
    (hid : first.id = second.id) (hnamed : (setting.scope.name second.id).isSome = true)
    (hfirst : Trace.Outside before)
    (hsecond : Trace.Outside (before ++ .enter first pos :: between)) :
    ∃ closed stop rest rest', Trace.Balanced closed ∧
      between = closed ++ .exit first pos stop :: rest ∧
      after = .memoHit second pos stop :: .exit second pos stop :: rest' := by
  obtain @⟨st₁, after₁, cx₁, cx₁', matched₁, hcall₁, happly₁, -, htrace₁, hpos₁, hlater₁⟩ := h₁
  obtain @⟨st₂, after₂, cx₂, cx₂', matched₂, hcall₂, happly₂, -, htrace₂, hpos₂, hlater₂⟩ := h₂
  have hfatal₁ := hlater₁.fatal_eq_none hfatal
  have hfatal₂ := hlater₂.fatal_eq_none hfatal
  have hpos : st₁.position = st₂.position := hpos₁.trans hpos₂.symm
  obtain ⟨hrule, hinput₁, hcx₁⟩ := hcall₁.reachable .refl hcx
  obtain ⟨hrule₂, hinput₂, hcx₂⟩ := hcall₂.reachable .refl hcx
  obtain rfl : first = second := hidentifies first second hrule hrule₂ hid
  -- the first application is over before the second one begins
  have hover : cx₁'.trace <+: cx₂.trace := by
    refine happly₁.over hcall₂ happly₂ hidentifies hcx hbegun hfatal₂ hpos rfl ?_ ?_
      hlater₁.prefix_trace
    · rw [htrace₁, htrace₂, hpos₁]
      exact ⟨between, by simp⟩
    · rw [htrace₂, hpos₂, htrace]
      exact ⟨after, by simp⟩
  obtain ⟨closed, hclosed, htrace₁'⟩ := happly₁.exists_trace_eq hfatal₁
  rw [htrace₁, hpos₁] at htrace₁'
  -- so its outcome is in the table, and the second one finds it there
  have hkept₂ : Kept setting.scope false cx₂ := hcall₂.preserves (Kept.invariant setting) hkept
  obtain ⟨table, htable, hkey⟩ := hkept₂.mem_of_over (happly₂.frame.fatal_eq_none hfatal₂) hclosed
    (htrace₁' ▸ hover) hfirst hnamed
  have hreplay :=
    happly₂.replayed hkept₂ hfatal₂ (htrace₂ ▸ hsecond) hnamed htable (hpos₂.symm ▸ hkey)
  have hstop := happly₁.stop_eq happly₂ hidentifies hrule (hinput₁.trans hinput₂.symm) hpos
    (hinput₂.symm ▸ hcx₁.trusted hidentifies) (hinput₂.symm ▸ hcx₂.trusted hidentifies) hfatal₁
    hfatal₂
  obtain ⟨rest, hrest⟩ := hover
  obtain ⟨rest', hrest'⟩ := hlater₂.prefix_trace
  rw [htrace₁', htrace₂] at hrest
  rw [hreplay, htrace₂, hpos₂, htrace, ← hstop] at hrest'
  exact ⟨closed, _, rest, rest', hclosed, by simpa using hrest.symm, by simpa using hrest'.symm⟩

namespace Parser

/-- **A named rule is evaluated once at each offset outside lookahead.** In a run
that remembers outcomes and ends without a limit error, a second application of it
is made after the first one is over, and it is a replay that ends at the same place. -/
theorem run_replays (p : Parser) (scope : Scope) (hresolves : scope.Resolves p.root)
    (hidentifies : scope.Identifies p.root) (hmemoize : p.memoize = true) (input : String)
    (complete : Bool)
    (hlimit : ∀ error, (p.run scope input complete).result ≠ .ok (.error (.limit error)))
    {before between after : List Event} {first second : Rule} {pos : Nat}
    (hevents : (p.run scope input complete).events =
      before ++ .enter first pos :: between ++ .enter second pos :: after)
    (hid : first.id = second.id) (hnamed : (scope.name second.id).isSome = true)
    (hfirst : Trace.Outside before)
    (hsecond : Trace.Outside (before ++ .enter first pos :: between)) :
    ∃ closed stop rest rest', Trace.Balanced closed ∧
      between = closed ++ .exit first pos stop :: rest ∧
      after = .memoHit second pos stop :: .exit second pos stop :: rest' := by
  obtain ⟨matched, st, cx, happly, hexec⟩ := p.exists_run hresolves input
  rw [p.run_eq_of_apply happly] at hlimit hevents
  have hfatal : cx.fatal = none := fatal_eq_none_of_verdict hlimit
  have htrace : cx.trace = before ++ .enter first pos :: between ++ .enter second pos :: after :=
    hevents
  have hkept : Kept scope false (.start p.memoize) := by
    rw [hmemoize]
    exact .start scope
  have hentered₁ : before ++ [.enter first pos] <+: cx.trace :=
    ⟨between ++ .enter second pos :: after, by rw [htrace]; simp⟩
  have hentered₂ : (before ++ .enter first pos :: between) ++ [.enter second pos] <+: cx.trace :=
    ⟨after, by rw [htrace]; simp⟩
  exact (hexec.occurs List.nil_prefix hentered₁).replays (hexec.occurs List.nil_prefix hentered₂)
    hidentifies (.start p.memoize) hkept rfl hfatal htrace hid hnamed hfirst hsecond

end Parser

/-! ## A rule that is tried twice -/

namespace Retry

/-- A letter with a name. -/
def letter : Rule := .literal 2 "x"

/-- A mark behind the letter. -/
def mark : Rule := .literal 3 ";"

/-- A letter and a mark. -/
def marked : Rule := .seq 1 [letter, mark]

/-- A letter and a mark, or else the letter alone: `Text <- Letter ';' / Letter`. -/
def text : Rule := .choice 0 [marked, letter]

/-- The names. -/
def scope : Scope where
  name id := [(0, "Text"), (2, "Letter")].lookup id
  target _ _ := none

theorem closes : scope.Closes [text, marked, letter, mark] where
  operand_mem := by simp [text, marked, letter, mark, Rule.operands]
  target_mem id key target hmem := by simp [text, marked, letter, mark] at hmem

theorem resolves : scope.Resolves text :=
  closes.resolves List.mem_cons_self (by simp [text, marked, letter, mark])

theorem identifies : scope.Identifies text := closes.identifies List.mem_cons_self (by decide)

/-- The parser that remembers outcomes. -/
def parser : Parser := { Parser.ofRule text with memoize := true }

/-- The cursor behind the letter. -/
def behind : ParseState where
  input := "x"
  position := 1
  remainder := []
  emitted := .empty
  splits := rfl

/-- The letter is read, but no mark behind it. When it is tried again, it is known how far it
goes. -/
theorem exists_executes : ∃ cx,
    Executes (parser.setting scope) (.application text) (.start "x") (.start true) true behind cx ∧
      cx.fatal = none ∧
      cx.trace = [.enter text 0, .enter marked 0] ++ .enter letter 0 ::
        [.exit letter 0 (some 1), .enter mark 1, .exit mark 1 none, .backtrack 1 0,
          .exit marked 0 none] ++ .enter letter 0 ::
        [.memoHit letter 0 (some 1), .exit letter 0 (some 1), .exit text 0 (some 1)] := by
  have hadvance : (ParseState.start "x").advance 1 = .ok behind := rfl
  have hreplay : Replays (.start "x") (.matched 1 []) true behind := .matched hadvance
  refine ⟨_, .evaluated (enter_eq_true_iff.2 ⟨rfl, rfl, rfl⟩) ?text (.choice (.alternatives_next
    (.evaluated (enter_eq_true_iff.2 ⟨rfl, rfl, rfl⟩) ?marked (.seq (.sequence_next
      (.evaluated (enter_eq_true_iff.2 ⟨rfl, rfl, rfl⟩) ?letter (.read rfl rfl hadvance))
      (.sequence_failed
        (.evaluated (enter_eq_true_iff.2 ⟨rfl, rfl, rfl⟩) ?mark (.unread rfl rfl rfl)))))) rfl
    (.alternatives_first (.recalled (enter_eq_true_iff.2 ⟨rfl, rfl, rfl⟩) ?again hreplay) rfl))),
    rfl, rfl⟩
  case text => simp [remembered?, memoizes, start]
  case marked => rfl
  case letter => simp [remembered?, memoizes, start]
  case mark => rfl
  case again =>
    show ((∅ : MemoTable).insert (2, 0) (MemoEntry.matched 1 []))[(2, 0)]? = some (.matched 1 [])
    exact Std.HashMap.getElem?_insert_self

end Retry

/-- The letter is entered twice. Both times it goes up to the end of the input, and the second
time this is not found out but remembered. -/
theorem Parser.run_replays_retry :
    ∃ before closed rest rest',
      (Retry.parser.run Retry.scope "x" true).events =
        before ++ .enter Retry.letter 0 :: (closed ++ .exit Retry.letter 0 (some 1) :: rest) ++
          .enter Retry.letter 0 :: .memoHit Retry.letter 0 (some 1) ::
            .exit Retry.letter 0 (some 1) :: rest' ∧
        Trace.Balanced closed := by
  obtain ⟨cx, hexec, hfatal, htrace⟩ := Retry.exists_executes
  have hrun : Retry.parser.run Retry.scope "x" true = _ :=
    Retry.parser.run_eq_of_apply ((apply_eq_ok_iff (Nat.le_add_right _ _)).2 hexec)
  have hevents := (congrArg Report.events hrun).trans htrace
  have hlimit (error : LimitError) :
      (Retry.parser.run Retry.scope "x" true).result ≠ .ok (.error (.limit error)) := by
    rw [hrun]
    intro h
    have hmet := fatal_of_verdict_limit h
    rw [hfatal] at hmet
    cases hmet
  obtain ⟨closed, stop, rest, rest', hclosed, hbetween, hafter⟩ :=
    Retry.parser.run_replays Retry.scope Retry.resolves Retry.identifies rfl "x" true hlimit hevents
      rfl rfl (by unfold Trace.Outside; decide) (by unfold Trace.Outside; decide)
  cases hafter
  exact ⟨_, closed, rest, _, hbetween ▸ hevents, hclosed⟩

end Packrat
