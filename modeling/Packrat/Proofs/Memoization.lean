import Packrat.Proofs.Reachable
import Packrat.Proofs.Verdict
import Packrat.Trace.Count

/-!
# Remembering outcomes changes nothing

A run that remembers outcomes does what a plain run does, with no more
applications. Both are followed side by side. Where the run that remembers finds
an outcome, the plain one evaluates the rule; what it gets is the same, since a
rule has one outcome at an offset, and what it wants on the way is in the record
already.

- `Context.Tracks cx mx`: the contexts of a plain run and of one that remembers,
  at corresponding points.
- `Executes.remembering`: every plain execution that is not abandoned has a
  counterpart that remembers.
- `Parser.exists_tracks`, `Parser.result_memoize`: both runs of a parser end in the same way.
- `Parser.run_memoize`: they have the same result, with no more applications.
-/

namespace Packrat

/-! ## Counting applications -/

/-- Whether an application starts. -/
def Event.isEnter : Event → Bool
  | .enter .. => true
  | _ => false

/-- The applications of a log. -/
def Context.enters (cx : Context) : Nat := cx.log.countP Event.isEnter

theorem Trace.Counts.enters_foldl_add (events : List Event) (n : Counts) :
    (events.foldl add n).enters = n.enters + events.countP Event.isEnter := by
  induction events generalizing n with
  | nil => rfl
  | cons event rest ih =>
    rw [List.foldl_cons, ih]
    cases event <;> simp [add, Event.isEnter, List.countP_cons]
    omega

/-- A trace counts as many applications as the log has. -/
theorem Trace.Counts.enters_ofEvents (cx : Context) :
    (ofEvents cx.log.reverse).enters = cx.enters := by
  rw [ofEvents, enters_foldl_add, List.countP_reverse]
  exact Nat.zero_add _

namespace Context

variable {cx cx₁ cx₂ cx' mx mx₁ : Context} {limits : Limits} {scope : Scope} {rule : Rule}
  {pos : Nat}

theorem enters_le (h : cx.log <:+ cx'.log) : cx.enters ≤ cx'.enters := h.sublist.countP_le

/-! ## Two runs side by side -/

/-- `mx` stands where `cx` stands, with no more fuel used and no more
applications made. Neither run is abandoned. -/
structure Tracks (cx mx : Context) : Prop where
  fuelUsed_le : mx.fuelUsed ≤ cx.fuelUsed
  counted : cx.fuelUsed ≤ maxFuelUsed
  depth_eq : mx.depth = cx.depth
  quiet_eq : mx.quiet = cx.quiet
  fatal_eq : mx.fatal = none
  failure_eq : mx.failure = cx.failure
  enters_le : mx.enters ≤ cx.enters

/-- A limit that is not met with more fuel used is not met with less. -/
theorem limitMet?_eq_none (hfuel : mx.fuelUsed ≤ cx.fuelUsed) (hdepth : mx.depth = cx.depth)
    (h : cx.limitMet? limits = none) : mx.limitMet? limits = none := by
  have hrecursion : limitMet?.recursionMet? limits mx = limitMet?.recursionMet? limits cx := by
    unfold limitMet?.recursionMet?
    rw [hdepth]
  unfold limitMet? at h ⊢
  rw [hrecursion]
  split
  · rename_i fuel hlimit
    rw [hlimit] at h
    dsimp only at h
    by_cases hmet : fuel.toNat ≤ cx.fuelUsed
    · rw [if_pos hmet] at h
      cases h
    · rw [if_neg hmet] at h
      rw [if_neg (by omega)]
      exact h
  · rename_i hlimit
    rw [hlimit] at h
    exact h

namespace Tracks

theorem start (memoize memoize' : Bool) : Tracks (.start memoize) (.start memoize') :=
  ⟨Nat.le_refl _, Nat.zero_le _, rfl, rfl, rfl, rfl, Nat.le_refl _⟩

theorem record (h : Tracks cx mx) (event : Event) : Tracks (cx.record event) (mx.record event) where
  __ := h
  enters_le := by
    have hle := h.enters_le
    unfold enters at hle ⊢
    rw [log_record, log_record, List.countP_cons, List.countP_cons]
    omega

theorem rewound (h : Tracks cx mx) (source target : Nat) :
    Tracks (cx.rewound source target) (mx.rewound source target) := by
  unfold Context.rewound
  split
  · exact h.record _
  · exact h

theorem openLookahead (h : Tracks cx mx) : Tracks cx.openLookahead mx.openLookahead where
  __ := h
  quiet_eq := congrArg (· + 1) h.quiet_eq

theorem closeLookahead (h : Tracks cx mx) : Tracks cx.closeLookahead mx.closeLookahead where
  __ := h
  quiet_eq := congrArg (· - 1) h.quiet_eq

/-- What the plain run may enter, the other may. -/
theorem enter (h : Tracks cx mx) (henter : cx.enter limits rule pos = (true, cx₁)) :
    ∃ mx₁, mx.enter limits rule pos = (true, mx₁) ∧ Tracks cx₁ mx₁ := by
  obtain ⟨-, hmet, rfl⟩ := enter_eq_true_iff.1 henter
  refine ⟨_, enter_eq_true_iff.2
    ⟨h.fatal_eq, limitMet?_eq_none h.fuelUsed_le h.depth_eq hmet, rfl⟩, ?_⟩
  have hfuel := h.fuelUsed_le
  have henters := (h.record (.enter rule pos)).enters_le
  exact ⟨by dsimp only; omega, Nat.min_le_right _ _, congrArg (· + 1) h.depth_eq, h.quiet_eq,
    h.fatal_eq, h.failure_eq, henters⟩

theorem consult : ∀ {refs : List (RuleId × String)} {cx mx : Context}, Tracks cx mx →
    cx.consult scope refs = some cx' → ∃ mx', mx.consult scope refs = some mx' ∧ Tracks cx' mx'
  | [], _, mx, h, hconsult => by
    cases hconsult
    exact ⟨mx, rfl, h⟩
  | (id, key) :: rest, _, _, h, hconsult => by
    rw [Context.consult] at hconsult ⊢
    cases htarget : scope.target id key with
    | some target =>
      rw [htarget] at hconsult
      exact (h.record _).consult hconsult
    | none =>
      rw [htarget] at hconsult
      cases hconsult

theorem expect (h : Tracks cx mx) (pos : Nat) (description : String) :
    Tracks (cx.expect pos description) (mx.expect pos description) := by
  have hfailure : (mx.expect pos description).failure = (cx.expect pos description).failure := by
    rw [failure_expect, failure_expect, h.quiet_eq, h.failure_eq]
  rw [expect_eq cx, expect_eq mx]
  exact { h with failure_eq := hfailure }

theorem isOpenTo_eq (h : Tracks cx mx) (pos : Nat) : mx.isOpenTo pos = cx.isOpenTo pos := by
  have hfurthest : mx.furthest = cx.furthest := congrArg Failure.furthest h.failure_eq
  have hexpected : mx.expected = cx.expected := congrArg Failure.expected h.failure_eq
  unfold isOpenTo heeds reach
  rw [h.quiet_eq, hfurthest]
  split
  · rfl
  · rw [hexpected]

theorem miss (h : Tracks cx mx) (hmiss : cx.miss scope rule pos = some cx') :
    ∃ mx', mx.miss scope rule pos = some mx' ∧ Tracks cx' mx' := by
  unfold Context.miss at hmiss ⊢
  rw [h.isOpenTo_eq]
  split at hmiss
  · obtain ⟨cx₁, hconsult, rfl⟩ := Option.map_eq_some_iff.1 hmiss
    obtain ⟨mx₁, hconsult', htracks⟩ := h.consult hconsult
    rename_i hopen
    exact ⟨_, by rw [if_pos hopen, hconsult']; rfl, htracks.expect _ _⟩
  · cases hmiss
    rename_i hclosed
    exact ⟨mx, if_neg hclosed, h⟩

/-- Both runs leave an application that both have evaluated. -/
theorem leave {st after : ParseState} {matched : Bool} (h : Tracks cx mx) :
    Tracks (cx.leave scope rule st matched after) (mx.leave scope rule st matched after) where
  fuelUsed_le := by simpa using h.fuelUsed_le
  counted := by simpa using h.counted
  depth_eq := by simp [h.depth_eq]
  quiet_eq := by simp [h.quiet_eq]
  fatal_eq := by simp [h.fatal_eq]
  failure_eq := by simp [h.failure_eq]
  enters_le := by
    have hle := h.enters_le
    unfold enters at hle ⊢
    rw [log_leave, log_leave, List.countP_cons, List.countP_cons]
    omega

/-- One run leaves an application that it has evaluated, the other one that it
remembers. -/
theorem leave_recalled {st after : ParseState} {matched : Bool} {entry : MemoEntry}
    (h : Tracks cx₁ mx₁) (hframe : Frame cx₁ cx₂) (hfailure : mx₁.failure = cx₂.failure) :
    Tracks (cx₂.leave scope rule st matched after) (mx₁.leaveRecalled rule st entry) := by
  obtain ⟨hfuel, hcounted⟩ := hframe.fuelUsed_le h.counted
  have henters := Nat.le_trans h.enters_le (Context.enters_le hframe.log_suffix)
  refine ⟨?_, ?_, ?_, ?_, h.fatal_eq, ?_, ?_⟩
  · rw [fuelUsed_leave]
    exact Nat.le_trans h.fuelUsed_le hfuel
  · rwa [fuelUsed_leave]
  · rw [depth_leave, hframe.depth_eq, ← h.depth_eq]
    rfl
  · rw [quiet_leave, hframe.quiet_eq, ← h.quiet_eq]
    rfl
  · rw [failure_leave]
    exact hfailure
  · unfold enters at henters ⊢
    rw [log_leave]
    simpa [leaveRecalled, exit, Event.isEnter] using henters

end Tracks

end Context

/-! ## Counterparts of executions -/

variable {setting : Setting} {root : Rule} {input : String} {st after : ParseState}
  {cx cx' mx mx' : Context} {matched : Bool} {task : Task}

/-- What a context remembers may be taken over. -/
structure Context.Trusted (scope : Scope) (root : Rule) (input : String) (cx : Context) : Prop where
  laid : cx.MemoLaid input
  sound : cx.Sound scope root input True

/-- A context that remembers nothing may be trusted. -/
theorem Context.Trusted.of_memo_eq_none {scope : Scope} (h : cx.memo = none) :
    cx.Trusted scope root input where
  laid table htable := by
    rw [h] at htable
    cases htable
  sound table htable := by
    rw [h] at htable
    cases htable

namespace Context.Trusted

variable {scope : Scope} {limits : Limits} {rule : Rule} {pos : Nat}

theorem entered (h : cx.Trusted scope root input) (henter : cx.enter limits rule pos = (true, cx')) :
    cx'.Trusted scope root input :=
  ⟨h.laid.entered henter, h.sound.entered henter⟩

theorem openLookahead (h : cx.Trusted scope root input) :
    cx.openLookahead.Trusted scope root input :=
  ⟨h.laid, h.sound⟩

theorem record (h : cx.Trusted scope root input) (event : Event) :
    (cx.record event).Trusted scope root input :=
  ⟨h.laid, h.sound⟩

end Context.Trusted

theorem Executes.trusted (h : Executes setting task st cx matched after cx')
    (hidentifies : setting.scope.Identifies root) (hbelow : task.Below setting.scope root)
    (hposed : task.WellPosed) (htrusted : cx.Trusted setting.scope root st.input) :
    cx'.Trusted setting.scope root st.input where
  laid := (h.contract hposed htrusted.laid).1
  sound := (h.adequate hidentifies hbelow hposed htrusted.laid htrusted.sound fun _ => trivial).1

/-- What is remembered of a rule is what evaluating it comes to, and evaluating it
adds nothing to the record of expectations. -/
theorem Executes.recall {rule : Rule} {entry : MemoEntry}
    (h : Executes setting (.body rule) st cx matched after cx')
    (hidentifies : setting.scope.Identifies root) (hrule : root.Reaches setting.scope rule)
    (hplain : cx.memo = none) (hfatal : cx'.fatal = none) (htracks : cx.Tracks mx)
    (htrusted : mx.Trusted setting.scope root st.input)
    (hentry : mx.remembered? setting.scope rule st.position = some entry) :
    Replays st entry matched after ∧ mx.failure = cx'.failure := by
  obtain ⟨outcome, wants, heval, rfl, hknown⟩ :=
    htrusted.sound.remembered hidentifies hrule hentry
  have hempty : cx.Trusted setting.scope root st.input := .of_memo_eq_none hplain
  have hcontract := (h.contract trivial hempty.laid).2
  -- a table that is not kept is sound, so the plain execution is adequate as well
  obtain ⟨outcome', wants', heval', hreal, hfailure⟩ :=
    (h.adequate hidentifies hrule trivial hempty.laid hempty.sound fun _ => trivial).2 hfatal
  obtain ⟨rfl, rfl⟩ := heval.det (heval' 0)
  refine ⟨hreal.replays hcontract.of_failed, ?_⟩
  rw [hfailure, hknown]
  exact Context.noted_of_eq htracks.quiet_eq htracks.failure_eq

/-- **A plain execution has a counterpart that remembers**, with the same outcome
and the same state after it. -/
theorem Executes.remembering (h : Executes setting task st cx matched after cx')
    (hidentifies : setting.scope.Identifies root) (hbelow : task.Below setting.scope root)
    (hposed : task.WellPosed) (hplain : cx.memo = none) (hfatal : cx'.fatal = none)
    (htracks : cx.Tracks mx) (htrusted : mx.Trusted setting.scope root st.input) :
    ∃ mx', Executes setting task st mx matched after mx' ∧ cx'.Tracks mx' := by
  -- the plain execution is the larger one, so the induction is on it
  induction h generalizing mx with
  | refused henter =>
    rcases Context.enter_eq_false_iff.1 henter with ⟨error, herror, rfl⟩ | ⟨-, error, -, rfl⟩
    · rw [herror] at hfatal
      cases hfatal
    · cases hfatal
  | recalled henter hentry _ =>
    obtain ⟨-, -, rfl⟩ := Context.enter_eq_true_iff.1 henter
    simp [Context.remembered?, hplain] at hentry
  | evaluated henter _ hbody ih =>
    obtain ⟨mx₁, henter', htracks₁⟩ := htracks.enter henter
    have htrusted₁ : mx₁.Trusted setting.scope root _ :=
      ⟨htrusted.laid.entered henter', htrusted.sound.entered henter'⟩
    rw [Context.fatal_leave] at hfatal
    obtain ⟨-, -, rfl⟩ := Context.enter_eq_true_iff.1 henter
    cases hentry' : mx₁.remembered? setting.scope _ _ with
    | none =>
      obtain ⟨mx₂, hbody', htracks₂⟩ := ih hbelow trivial hplain hfatal htracks₁ htrusted₁
      exact ⟨_, .evaluated henter' hentry' hbody', htracks₂.leave⟩
    | some entry =>
      -- the plain run goes through the body for what is remembered here
      obtain ⟨hreplay, hfailure⟩ :=
        hbody.recall hidentifies hbelow hplain hfatal htracks₁ htrusted₁ hentry'
      exact ⟨_, .recalled henter' hentry' hreplay, htracks₁.leave_recalled hbody.frame hfailure⟩
  | read hprimitive hread hadvance => exact ⟨mx, .read hprimitive hread hadvance, htracks⟩
  | unread hprimitive hread hmiss =>
    obtain ⟨mx', hmiss', htracks'⟩ := htracks.miss hmiss
    exact ⟨mx', .unread hprimitive hread hmiss', htracks'⟩
  | seq _ ih =>
    obtain ⟨mx', hrest, htracks'⟩ :=
      ih (fun _ hmem => hbelow.operand hmem) trivial hplain hfatal htracks htrusted
    exact ⟨mx', .seq hrest, htracks'⟩
  | choice _ ih =>
    obtain ⟨mx', hrest, htracks'⟩ :=
      ih (fun _ hmem => hbelow.operand hmem) trivial hplain hfatal htracks htrusted
    exact ⟨mx', .choice hrest, htracks'⟩
  | notAhead_failed _ hmiss ih =>
    have hframe := (Context.Frame.rewound _ _ _).trans (.miss hmiss)
    obtain ⟨mx₁, hoperand, htracks₁⟩ := ih (hbelow.operand (List.mem_singleton_self _)) trivial
      hplain (hframe.fatal_eq_none hfatal) htracks.openLookahead ⟨htrusted.laid, htrusted.sound⟩
    obtain ⟨mx', hmiss', htracks'⟩ := (htracks₁.closeLookahead.rewound _ _).miss hmiss
    exact ⟨mx', .notAhead_failed hoperand hmiss', htracks'⟩
  | notAhead_matched _ ih =>
    have hfatal₁ := (Context.Frame.rewound _ _ (Context.closeLookahead _)).fatal_eq_none hfatal
    obtain ⟨mx₁, hoperand, htracks₁⟩ := ih (hbelow.operand (List.mem_singleton_self _)) trivial
      hplain hfatal₁ htracks.openLookahead ⟨htrusted.laid, htrusted.sound⟩
    exact ⟨_, .notAhead_matched hoperand, htracks₁.closeLookahead.rewound _ _⟩
  | ahead_failed _ hmiss ih =>
    have hframe := (Context.Frame.rewound _ _ _).trans (.miss hmiss)
    obtain ⟨mx₁, hoperand, htracks₁⟩ := ih (hbelow.operand (List.mem_singleton_self _)) trivial
      hplain (hframe.fatal_eq_none hfatal) htracks.openLookahead ⟨htrusted.laid, htrusted.sound⟩
    obtain ⟨mx', hmiss', htracks'⟩ := (htracks₁.closeLookahead.rewound _ _).miss hmiss
    exact ⟨mx', .ahead_failed hoperand hmiss', htracks'⟩
  | ahead_matched _ ih =>
    have hfatal₁ := (Context.Frame.rewound _ _ (Context.closeLookahead _)).fatal_eq_none hfatal
    obtain ⟨mx₁, hoperand, htracks₁⟩ := ih (hbelow.operand (List.mem_singleton_self _)) trivial
      hplain hfatal₁ htracks.openLookahead ⟨htrusted.laid, htrusted.sound⟩
    exact ⟨_, .ahead_matched hoperand, htracks₁.closeLookahead.rewound _ _⟩
  | zeroOrMore _ ih =>
    obtain ⟨mx', hrepeat, htracks'⟩ := ih (hbelow.operand (List.mem_singleton_self _))
      (Nat.zero_le 1) hplain hfatal htracks htrusted
    exact ⟨mx', .zeroOrMore hrepeat, htracks'⟩
  | oneOrMore _ ih =>
    obtain ⟨mx', hrepeat, htracks'⟩ := ih (hbelow.operand (List.mem_singleton_self _))
      (Nat.le_refl 1) hplain hfatal htracks htrusted
    exact ⟨mx', .oneOrMore hrepeat, htracks'⟩
  | opt_taken _ hinput ih =>
    obtain ⟨mx', hoperand, htracks'⟩ := ih (hbelow.operand (List.mem_singleton_self _)) trivial
      hplain hfatal htracks htrusted
    exact ⟨mx', .opt_taken hoperand hinput, htracks'⟩
  | opt_left _ ih =>
    obtain ⟨mx', hoperand, htracks'⟩ := ih (hbelow.operand (List.mem_singleton_self _)) trivial
      hplain hfatal htracks htrusted
    exact ⟨mx', .opt_left hoperand, htracks'⟩
  | node_failed _ ih =>
    obtain ⟨mx', hoperand, htracks'⟩ := ih (hbelow.operand (List.mem_singleton_self _)) trivial
      hplain hfatal htracks htrusted
    exact ⟨mx', .node_failed hoperand, htracks'⟩
  | node_matched _ hle htoken hseek ih =>
    obtain ⟨mx', hoperand, htracks'⟩ := ih (hbelow.operand (List.mem_singleton_self _)) trivial
      hplain hfatal htracks htrusted
    exact ⟨_, .node_matched hoperand hle htoken hseek, htracks'.record _⟩
  | recursive htarget _ ih =>
    obtain ⟨mx', happlied, htracks'⟩ := ih (hbelow.target htarget) trivial hplain hfatal
      (htracks.record _) ⟨htrusted.laid, htrusted.sound⟩
    exact ⟨mx', .recursive htarget happlied, htracks'⟩
  | sequence_nil hinput => exact ⟨mx, .sequence_nil hinput, htracks⟩
  | sequence_failed _ ih =>
    have hfatal₁ := (Context.Frame.rewound _ _ _).fatal_eq_none hfatal
    obtain ⟨mx₁, hhead, htracks₁⟩ := ih (hbelow _ List.mem_cons_self) trivial hplain hfatal₁
      htracks htrusted
    exact ⟨_, .sequence_failed hhead, htracks₁.rewound _ _⟩
  | sequence_next hhead hrest ih ih' =>
    have hrule := hbelow _ List.mem_cons_self
    obtain ⟨mx₁, hhead', htracks₁⟩ := ih hrule trivial hplain (hrest.frame.fatal_eq_none hfatal)
      htracks htrusted
    obtain ⟨tokens, hext⟩ := (hhead'.contract trivial htrusted.laid).2.of_matched rfl
    have htrusted₁ := hhead'.trusted hidentifies hrule trivial htrusted
    rw [← hext.input_eq] at htrusted₁
    obtain ⟨mx', hrest', htracks'⟩ := ih' (fun r hmem => hbelow r (List.mem_cons_of_mem _ hmem))
      trivial (hhead.frame.memo_eq hplain) hfatal htracks₁ htrusted₁
    exact ⟨mx', .sequence_next hhead' hrest', htracks'⟩
  | alternatives_nil => exact ⟨mx, .alternatives_nil, htracks⟩
  | alternatives_first _ hinput ih =>
    obtain ⟨mx', hhead, htracks'⟩ := ih (hbelow _ List.mem_cons_self) trivial hplain hfatal
      htracks htrusted
    exact ⟨mx', .alternatives_first hhead hinput, htracks'⟩
  | alternatives_aborted _ haborted =>
    rw [Context.isAborted, hfatal] at haborted
    cases haborted
  | alternatives_next hhead _ hrest ih ih' =>
    have hrule := hbelow _ List.mem_cons_self
    obtain ⟨mx₁, hhead', htracks₁⟩ := ih hrule trivial hplain (hrest.frame.fatal_eq_none hfatal)
      htracks htrusted
    have htrusted₁ := hhead'.trusted hidentifies hrule trivial htrusted
    have hgoing : mx₁.isAborted = false := by rw [Context.isAborted, htracks₁.fatal_eq]; rfl
    obtain ⟨mx', hrest', htracks'⟩ := ih' (fun r hmem => hbelow r (List.mem_cons_of_mem _ hmem))
      trivial (hhead.frame.memo_eq hplain) hfatal htracks₁ htrusted₁
    exact ⟨mx', .alternatives_next hhead' hgoing hrest', htracks'⟩
  | repetition_ended _ ih =>
    obtain ⟨mx', hoperand, htracks'⟩ := ih hbelow trivial hplain hfatal htracks htrusted
    exact ⟨mx', .repetition_ended hoperand, htracks'⟩
  | repetition_next hoperand hlt hinput hrepeat ih ih' =>
    obtain ⟨mx₁, hoperand', htracks₁⟩ := ih hbelow trivial hplain
      (hrepeat.frame.fatal_eq_none hfatal) htracks htrusted
    have htrusted₁ := hoperand'.trusted hidentifies hbelow trivial htrusted
    rw [hinput] at htrusted₁
    have hposed' := Nat.le_trans (Nat.sub_le _ 1) hposed
    obtain ⟨mx', hrepeat', htracks'⟩ :=
      ih' hbelow hposed' (hoperand.frame.memo_eq hplain) hfatal htracks₁ htrusted₁
    exact ⟨mx', .repetition_next hoperand' hlt hinput hrepeat', htracks'⟩
  | repetition_dropped _ hnot ih =>
    obtain ⟨mx', hoperand, htracks'⟩ := ih hbelow trivial hplain hfatal htracks htrusted
    exact ⟨_, .repetition_dropped hoperand hnot, htracks'.record _⟩
  | repetition_kept _ hnot hinput ih =>
    obtain ⟨mx', hoperand, htracks'⟩ := ih hbelow trivial hplain hfatal htracks htrusted
    exact ⟨_, .repetition_kept hoperand hnot hinput, htracks'.record _⟩

/-! ## Runs -/

namespace Parser

variable {p : Parser} {scope : Scope} {complete : Bool}

/-- The verdict goes by the record of expectations, not by how it came about. -/
theorem verdict_eq_of_tracks (htracks : cx.Tracks mx) (hfatal : cx.fatal = none) :
    p.verdict scope complete matched st mx = p.verdict scope complete matched st cx := by
  unfold verdict
  rw [hfatal, htracks.fatal_eq, htracks.failure_eq,
    (htracks.expect st.position "end of input").failure_eq]

/-- A run that remembers outcomes ends as the one that does not and meets no limit, in a context
that tracks the other one. -/
theorem exists_tracks (p : Parser) (hresolves : scope.Resolves p.root)
    (hidentifies : scope.Identifies p.root) (input : String) (complete : Bool)
    (hlimit : ∀ error,
      ({ p with memoize := false }.run scope input complete).result ≠ .ok (.error (.limit error))) :
    ∃ result cx mx, Context.Tracks cx mx ∧
      { p with memoize := false }.run scope input complete = ⟨.ok result, cx.log.reverse⟩ ∧
      { p with memoize := true }.run scope input complete = ⟨.ok result, mx.log.reverse⟩ := by
  have hroom := Nat.le_add_right p.limits.recursionLimit.toNat 0
  let plain : Parser := { p with memoize := false }
  let remembering : Parser := { p with memoize := true }
  obtain ⟨matched, st, cx, happly, hexec⟩ := plain.exists_run hresolves input
  obtain ⟨result, hresult, -⟩ := plain.verdict_sound scope complete cx
    (hexec.contract trivial (Context.MemoLaid.start false input)).2
  have hplain : plain.run scope input complete = _ := plain.run_eq_of_apply happly
  rw [hplain] at hlimit
  have hfatal : cx.fatal = none := fatal_eq_none_of_verdict hlimit
  obtain ⟨mx, hexec', htracks⟩ := hexec.remembering hidentifies .refl trivial rfl hfatal
    (.start false true) ⟨.start true input, .start true⟩
  have hrun : remembering.run scope input complete = _ :=
    remembering.run_eq_of_apply ((apply_eq_ok_iff hroom).2 hexec')
  have hresult' : remembering.verdict scope complete matched st mx = .ok result :=
    (verdict_eq_of_tracks htracks hfatal).trans hresult
  rw [hresult] at hplain
  rw [hresult'] at hrun
  exact ⟨result, cx, mx, htracks, hplain, hrun⟩

/-- Whether outcomes are remembered makes no difference to the result where no limit is met
without. -/
theorem result_memoize (p : Parser) (hresolves : scope.Resolves p.root)
    (hidentifies : scope.Identifies p.root) (input : String) (complete : Bool)
    (hlimit : ∀ error,
      ({ p with memoize := false }.run scope input complete).result ≠ .ok (.error (.limit error))) :
    (p.run scope input complete).result =
      ({ p with memoize := false }.run scope input complete).result := by
  obtain ⟨root, limits, memoize⟩ := p
  cases memoize with
  | false => rfl
  | true =>
    obtain ⟨result, cx, mx, -, hplain, hrun⟩ :=
      exists_tracks ⟨root, limits, true⟩ hresolves hidentifies input complete hlimit
    exact (congrArg Report.result hrun).trans (congrArg Report.result hplain).symm

/-- **Remembering outcomes changes nothing** in a run that meets no limit without
it: the result is the same, token or error, and no more rules are applied. -/
theorem run_memoize (p : Parser) (scope : Scope) (hresolves : scope.Resolves p.root)
    (hidentifies : scope.Identifies p.root) (input : String) (complete : Bool)
    (hlimit : ∀ error,
      ({ p with memoize := false }.run scope input complete).result ≠ .ok (.error (.limit error))) :
    ∃ result, (∀ error, result ≠ .error (.limit error)) ∧
      ({ p with memoize := false }.run scope input complete).result = .ok result ∧
      ({ p with memoize := true }.run scope input complete).result = .ok result ∧
      (Trace.Counts.ofEvents ({ p with memoize := true }.run scope input complete).events).enters ≤
        (Trace.Counts.ofEvents
          ({ p with memoize := false }.run scope input complete).events).enters := by
  obtain ⟨result, cx, mx, htracks, hplain, hrun⟩ :=
    exists_tracks p hresolves hidentifies input complete hlimit
  rw [hplain] at hlimit ⊢
  rw [hrun]
  refine ⟨result, fun error h => hlimit error (h ▸ rfl), rfl, rfl, ?_⟩
  rw [Trace.Counts.enters_ofEvents, Trace.Counts.enters_ofEvents]
  exact htracks.enters_le

/-- A letter that is tried twice at one place: the second time it is remembered. -/
theorem run_memoize_quotation :
    ∃ result,
      ((ofRule Quotation.text).run Quotation.scope "«é»" true).result = .ok result ∧
        ({ ofRule Quotation.text with memoize := true }.run Quotation.scope "«é»" true).result =
          .ok result ∧
        (Trace.Counts.ofEvents ({ ofRule Quotation.text with memoize := true }.run Quotation.scope
            "«é»" true).events).enters ≤
          (Trace.Counts.ofEvents
            ((ofRule Quotation.text).run Quotation.scope "«é»" true).events).enters := by
  have hgoing : (match ((ofRule Quotation.text).run Quotation.scope "«é»" true).result with
      | .ok (.error (.limit _)) => false
      | _ => true) = true := by decide +kernel
  have hlimit (error : LimitError) :
      ((ofRule Quotation.text).run Quotation.scope "«é»" true).result ≠
        .ok (.error (.limit error)) := by
    intro h
    rw [h] at hgoing
    cases hgoing
  obtain ⟨result, -, hplain, hmemo, henters⟩ := run_memoize (ofRule Quotation.text)
    Quotation.scope Quotation.resolves Quotation.identifies "«é»" true hlimit
  exact ⟨result, hplain, hmemo, henters⟩

end Parser

end Packrat
