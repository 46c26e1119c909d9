import Packrat.Proofs.Execution

/-!
# What every execution keeps

- `Context.Frame cx cx'`: the levels are as they were, a limit that was met stays
  met, a table that is not kept is not kept, and fuel and log have only grown.
- `Executes.frame`: this holds between the context in which a task is begun and
  the one in which it ends.
-/

namespace Packrat

namespace Context

variable {cx cx₁ cx' : Context} {limits : Limits} {rule : Rule} {pos : Nat}

/-! ## Single changes -/

@[simp] theorem depth_record (event : Event) : (cx.record event).depth = cx.depth := rfl

@[simp] theorem quiet_record (event : Event) : (cx.record event).quiet = cx.quiet := rfl

@[simp] theorem fatal_record (event : Event) : (cx.record event).fatal = cx.fatal := rfl

@[simp] theorem memo_record (event : Event) : (cx.record event).memo = cx.memo := rfl

@[simp] theorem failure_record (event : Event) : (cx.record event).failure = cx.failure := rfl

@[simp] theorem fuelUsed_record (event : Event) : (cx.record event).fuelUsed = cx.fuelUsed := rfl

@[simp] theorem log_record (event : Event) : (cx.record event).log = event :: cx.log := rfl

/-- Going back is an event at most. -/
theorem rewound_eq (source target : Nat) (cx : Context) :
    cx.rewound source target = cx ∨
      cx.rewound source target = cx.record (.backtrack source target) := by
  unfold rewound
  split
  · exact .inr rfl
  · exact .inl rfl

/-- An expectation changes the record of expectations only. -/
theorem expect_eq (cx : Context) (pos : Nat) (description : String) :
    cx.expect pos description = { cx with
      furthest := (cx.expect pos description).furthest
      expected := (cx.expect pos description).expected } := by
  unfold expect
  split
  · unfold want reach
    split <;> split <;> rfl
  · rfl

section WithLog

variable (cx : Context) (log : List Event) (pos : Nat) (description : String)

theorem reach_with_log : { cx with log := log }.reach pos = { cx.reach pos with log := log } := by
  unfold reach
  dsimp only
  split <;> rfl

theorem want_with_log :
    { cx with log := log }.want description = { cx.want description with log := log } := by
  unfold want
  dsimp only
  split <;> rfl

theorem isOpenTo_with_log : { cx with log := log }.isOpenTo pos = cx.isOpenTo pos := by
  unfold isOpenTo
  rw [reach_with_log]
  rfl

/-- What is expected does not depend on what was logged. -/
theorem expect_with_log : { cx with log := log }.expect pos description =
    { cx.expect pos description with log := log } := by
  unfold expect
  rw [isOpenTo_with_log, reach_with_log, want_with_log]
  split <;> rfl

end WithLog

/-- Asking for targets logs that they were found, and nothing else. -/
theorem consult_eq_some {scope : Scope} : ∀ {refs : List (RuleId × String)} {cx cx' : Context},
    cx.consult scope refs = some cx' →
      ∃ events : List Event, (∀ event ∈ events, ∃ id target, event = .resolved id target) ∧
        cx' = { cx with log := events ++ cx.log }
  | [], cx, cx', h => by
    cases h
    exact ⟨[], by simp, rfl⟩
  | (id, key) :: rest, cx, cx', h => by
    rw [consult] at h
    split at h
    · rename_i target _
      obtain ⟨events, hevents, rfl⟩ := consult_eq_some h
      refine ⟨events ++ [.resolved id target], ?_, by simp [record]⟩
      intro event hmem
      rcases List.mem_append.1 hmem with hmem | hmem
      · exact hevents event hmem
      · exact ⟨id, target, List.mem_singleton.1 hmem⟩
    · cases h

/-- A failure of its own accord: what it wanted is recorded, and the targets
that were asked for are logged. -/
theorem miss_eq_some {scope : Scope} (h : cx.miss scope rule pos = some cx') :
    ∃ events : List Event, (∀ event ∈ events, ∃ id target, event = .resolved id target) ∧
      cx' = { cx.expect pos (rule.describe scope) with log := events ++ cx.log } := by
  unfold miss at h
  split at h
  · obtain ⟨cx₁, hconsult, rfl⟩ := Option.map_eq_some_iff.1 h
    obtain ⟨events, hevents, rfl⟩ := consult_eq_some hconsult
    exact ⟨events, hevents, expect_with_log cx _ pos _⟩
  · rename_i hclosed
    cases h
    exact ⟨[], by simp, by simp [expect, hclosed]⟩

theorem failure_miss {scope : Scope} (h : cx.miss scope rule pos = some cx') :
    cx'.failure = if cx.quiet = 0 then cx.failure.note (pos, rule.describe scope)
      else cx.failure := by
  obtain ⟨events, -, rfl⟩ := miss_eq_some h
  exact failure_expect cx pos (rule.describe scope)

theorem memo_miss {scope : Scope} (h : cx.miss scope rule pos = some cx') :
    cx'.memo = cx.memo := by
  obtain ⟨events, -, rfl⟩ := miss_eq_some h
  rw [expect_eq]

/-- Remembering an outcome changes the table only. -/
theorem remember_eq (cx : Context) (scope : Scope) (rule : Rule) (pos : Nat) (entry : MemoEntry) :
    cx.remember scope rule pos entry =
      { cx with memo := (cx.remember scope rule pos entry).memo } := by
  unfold remember
  split <;> rfl

section Leave

variable {scope : Scope} {st after : ParseState} {matched : Bool}

@[simp] theorem depth_leave : (cx.leave scope rule st matched after).depth = cx.depth - 1 := by
  rw [leave, remember_eq]
  rfl

@[simp] theorem quiet_leave : (cx.leave scope rule st matched after).quiet = cx.quiet := by
  rw [leave, remember_eq]
  rfl

@[simp] theorem fatal_leave : (cx.leave scope rule st matched after).fatal = cx.fatal := by
  rw [leave, remember_eq]
  rfl

@[simp] theorem failure_leave : (cx.leave scope rule st matched after).failure = cx.failure := by
  rw [leave, remember_eq]
  rfl

@[simp] theorem fuelUsed_leave :
    (cx.leave scope rule st matched after).fuelUsed = cx.fuelUsed := by
  rw [leave, remember_eq]
  rfl

@[simp] theorem log_leave : (cx.leave scope rule st matched after).log =
    .exit rule st.position (if matched then some after.position else none) :: cx.log := by
  rw [leave, remember_eq]
  rfl

/-- The outcome of an application is remembered on leaving it, for a named rule
outside lookahead in a parse that is not abandoned. -/
theorem memo_leave : (cx.leave scope rule st matched after).memo =
    if cx.memoizes scope rule && !cx.isAborted then
      cx.memo.map
        (·.insert (rule.id, st.position) (Apply.outcome st.emitted.size matched after))
    else cx.memo := by
  show (cx.remember ..).memo = _
  unfold remember
  split <;> rfl

end Leave

/-- An application is entered while no limit has been met. -/
theorem enter_eq_true_iff :
    cx.enter limits rule pos = (true, cx₁) ↔
      cx.fatal = none ∧ cx.limitMet? limits = none ∧
        cx₁ = { cx with
          fuelUsed := min (cx.fuelUsed + 1) maxFuelUsed
          depth := cx.depth + 1
          log := .enter rule pos :: cx.log } := by
  unfold enter
  split
  · rename_i error hfatal
    simp [hfatal]
  · rename_i hfatal
    split
    · rename_i error hmet
      simp [hmet]
    · rename_i hmet
      simp [hfatal, hmet, eq_comm]

/-- What is counted of the fuel stays within the count. -/
theorem fuelUsed_le_of_enter (h : cx.enter limits rule pos = (true, cx₁))
    (hcount : cx.fuelUsed ≤ maxFuelUsed) :
    cx.fuelUsed ≤ cx₁.fuelUsed ∧ cx₁.fuelUsed ≤ maxFuelUsed := by
  obtain ⟨-, -, rfl⟩ := enter_eq_true_iff.1 h
  exact ⟨Nat.le_min.2 ⟨Nat.le_succ _, hcount⟩, Nat.min_le_right _ _⟩

/-- An application is refused after a limit was met, or because one is met now. -/
theorem enter_eq_false_iff :
    cx.enter limits rule pos = (false, cx') ↔
      (∃ error, cx.fatal = some error ∧ cx' = cx) ∨
        cx.fatal = none ∧ ∃ error, cx.limitMet? limits = some error ∧
          cx' = { cx with fatal := some error } := by
  unfold enter
  split
  · rename_i error hfatal
    simp [hfatal, eq_comm]
  · rename_i hfatal
    split
    · rename_i error hmet
      simp [hfatal, hmet, eq_comm]
    · rename_i hmet
      simp [hfatal, hmet]

/-- As many applications are open as the recursion limit allows, at most. -/
theorem depth_lt_of_limitMet?_eq_none (h : cx.limitMet? limits = none) :
    cx.depth < limits.recursionLimit.toNat := by
  have hrecursion : limitMet?.recursionMet? limits cx = none := by
    unfold limitMet? at h
    split at h
    · split at h
      · cases h
      · exact h
    · exact h
  unfold limitMet?.recursionMet? at hrecursion
  split at hrecursion
  · cases hrecursion
  · omega

/-! ## The frame -/

/-- What the context after a task shares with the one before it. -/
structure Frame (cx cx' : Context) : Prop where
  depth_eq : cx'.depth = cx.depth
  quiet_eq : cx'.quiet = cx.quiet
  fatal_eq : ∀ error, cx.fatal = some error → cx'.fatal = some error
  memo_eq : cx.memo = none → cx'.memo = none
  fuelUsed_le : cx.fuelUsed ≤ maxFuelUsed →
    cx.fuelUsed ≤ cx'.fuelUsed ∧ cx'.fuelUsed ≤ maxFuelUsed
  log_suffix : cx.log <:+ cx'.log

namespace Frame

theorem refl (cx : Context) : Frame cx cx :=
  ⟨rfl, rfl, fun _ h => h, fun h => h, fun h => ⟨Nat.le_refl _, h⟩, List.suffix_rfl⟩

theorem trans (h : Frame cx cx₁) (h' : Frame cx₁ cx') : Frame cx cx' where
  depth_eq := h'.depth_eq.trans h.depth_eq
  quiet_eq := h'.quiet_eq.trans h.quiet_eq
  fatal_eq error hfatal := h'.fatal_eq error (h.fatal_eq error hfatal)
  memo_eq hmemo := h'.memo_eq (h.memo_eq hmemo)
  fuelUsed_le hcount := by
    obtain ⟨hle, hcount⟩ := h.fuelUsed_le hcount
    obtain ⟨hle', hcount⟩ := h'.fuelUsed_le hcount
    exact ⟨Nat.le_trans hle hle', hcount⟩
  log_suffix := h.log_suffix.trans h'.log_suffix

/-- A parse that is not abandoned afterwards was not abandoned before. -/
theorem fatal_eq_none (h : Frame cx cx') (hfatal : cx'.fatal = none) : cx.fatal = none := by
  cases hcx : cx.fatal with
  | none => rfl
  | some error =>
    rw [h.fatal_eq error hcx] at hfatal
    cases hfatal

theorem record (cx : Context) (event : Event) : Frame cx (cx.record event) :=
  ⟨rfl, rfl, fun _ h => h, fun h => h, fun h => ⟨Nat.le_refl _, h⟩, List.suffix_cons ..⟩

theorem rewound (source target : Nat) (cx : Context) : Frame cx (cx.rewound source target) := by
  rcases rewound_eq source target cx with h | h
  · rw [h]
    exact refl cx
  · rw [h]
    exact record cx _

theorem miss {scope : Scope} (h : cx.miss scope rule pos = some cx') : Frame cx cx' := by
  obtain ⟨events, -, rfl⟩ := miss_eq_some h
  rw [expect_eq]
  exact ⟨rfl, rfl, fun _ h => h, fun h => h, fun h => ⟨Nat.le_refl _, h⟩, List.suffix_append ..⟩

/-- What is asked for inside a lookahead stays inside it. -/
theorem lookahead (h : Frame cx.openLookahead cx₁) (source target : Nat) :
    Frame cx (cx₁.closeLookahead.rewound source target) := by
  refine Frame.trans ?_ (rewound source target _)
  refine ⟨h.depth_eq, ?_, h.fatal_eq, h.memo_eq, h.fuelUsed_le, h.log_suffix⟩
  show cx₁.quiet - 1 = cx.quiet
  rw [h.quiet_eq]
  rfl

theorem refused (h : cx.enter limits rule pos = (false, cx')) : Frame cx cx' := by
  rcases enter_eq_false_iff.1 h with ⟨error, -, rfl⟩ | ⟨hfatal, error, -, rfl⟩
  · exact refl _
  · refine ⟨rfl, rfl, fun error' h' => ?_, fun h => h, fun h => ⟨Nat.le_refl _, h⟩, List.suffix_rfl⟩
    rw [hfatal] at h'
    cases h'

theorem leaveRecalled {st : ParseState} {entry : MemoEntry}
    (h : cx.enter limits rule pos = (true, cx₁)) : Frame cx (cx₁.leaveRecalled rule st entry) := by
  have hfuel := fuelUsed_le_of_enter h
  obtain ⟨-, -, rfl⟩ := enter_eq_true_iff.1 h
  refine ⟨rfl, rfl, fun _ h => h, fun h => h, hfuel, ?_⟩
  exact ⟨[_, _, _], rfl⟩

theorem leave {scope : Scope} {st after : ParseState} {matched : Bool} {cx₂ : Context}
    (h : cx.enter limits rule pos = (true, cx₁)) (hbody : Frame cx₁ cx₂) :
    Frame cx (cx₂.leave scope rule st matched after) := by
  have hfuel := fuelUsed_le_of_enter h
  obtain ⟨hfatal, -, rfl⟩ := enter_eq_true_iff.1 h
  refine ⟨?_, quiet_leave.trans hbody.quiet_eq, fun error h' => ?_, fun hmemo => ?_, ?_, ?_⟩
  · rw [depth_leave, hbody.depth_eq]
    rfl
  · rw [hfatal] at h'
    cases h'
  · rw [memo_leave, hbody.memo_eq hmemo, Option.map_none, ite_self]
  · intro hcount
    obtain ⟨hle, hcount⟩ := hfuel hcount
    obtain ⟨hle', hcount⟩ := hbody.fuelUsed_le hcount
    rw [fuelUsed_leave]
    exact ⟨Nat.le_trans hle hle', hcount⟩
  · rw [log_leave]
    exact ((List.suffix_cons ..).trans hbody.log_suffix).trans (List.suffix_cons ..)

end Frame

end Context

/-- **Every execution keeps the frame.** -/
theorem Executes.frame {setting : Setting} {task : Task} {st after : ParseState}
    {cx cx' : Context} {matched : Bool} (h : Executes setting task st cx matched after cx') :
    cx.Frame cx' := by
  induction h with
  | refused henter => exact .refused henter
  | recalled henter => exact .leaveRecalled henter
  | evaluated henter _ _ ih => exact .leave henter ih
  | read | sequence_nil | alternatives_nil => exact .refl _
  | unread _ _ hmiss => exact .miss hmiss
  | seq _ ih | choice _ ih | zeroOrMore _ ih | oneOrMore _ ih | opt_taken _ _ ih
  | opt_left _ ih | node_failed _ ih | alternatives_first _ _ ih
  | alternatives_aborted _ _ ih | repetition_ended _ ih => exact ih
  | notAhead_failed _ hmiss ih | ahead_failed _ hmiss ih =>
    exact (ih.lookahead _ _).trans (.miss hmiss)
  | notAhead_matched _ ih | ahead_matched _ ih => exact ih.lookahead _ _
  | node_matched _ _ _ _ ih | repetition_dropped _ _ ih | repetition_kept _ _ _ ih =>
    exact ih.trans (.record _ _)
  | recursive _ _ ih => exact (Context.Frame.record _ _).trans ih
  | sequence_failed _ ih => exact ih.trans (.rewound _ _ _)
  | sequence_next _ _ ih ih' | alternatives_next _ _ _ ih ih'
  | repetition_next _ _ _ _ ih ih' => exact ih.trans ih'

end Packrat
