import Mathlib.Logic.Relation
import Packrat.Proofs.Lookahead
import Packrat.Proofs.Tracing

/-!
# The counters of a context

A context counts the applications and the lookaheads that are open, and the applications
that were made. These numbers go up in one place and down in another, and only the first one
is held against a limit. They stay in range because a lookahead only begins inside an
application of its own: there are never more of them open than applications.

- `Opening`, `Moment`: what has begun and is not over, and a context with what is open in it.
- `Makes setting task st cx change now next`: the changes that are made to the counters in the
  course of a task, from one moment to the next.
- `Task.Passes`: the moments that are reached by such changes and by remarks.
  `Executes.passes`: an execution passes from its beginning to its end in this way.
- `Moment.InRange`, `Change.Fits`: what the counters are at a moment, and that a change to
  them does not leave the 32-bit numbers.
- `Parser.run_counters`: **the counters of a run are in range at every moment of it**, and
  back to zero at its end.
-/

namespace Packrat

open Context

/-! ## Moments -/

/-- What has begun and is not over. -/
inductive Opening where
  | application (rule : Rule) (pos : Nat)
  /-- The probe of a lookahead. -/
  | probe (operand : Rule)

namespace Opening

/-- Whether a rule is applied. -/
def isApplication : Opening → Bool
  | application .. => true
  | probe _ => false

/-- Whether something is looked for. -/
def isProbe : Opening → Bool
  | application .. => false
  | probe _ => true

end Opening

/-- A context, with what is open there, the innermost first. -/
structure Moment where
  opened : List Opening
  context : Context

namespace Moment

/-- The same moment, seen from where `outer` is open around it. -/
def inside (outer : Opening) (m : Moment) : Moment := { m with opened := m.opened ++ [outer] }

/-- The open applications. -/
def applications (m : Moment) : Nat := m.opened.countP Opening.isApplication

/-- The open probes. -/
def probes (m : Moment) : Nat := m.opened.countP Opening.isProbe

variable {m : Moment}

@[simp] theorem applications_inside (outer : Opening) :
    (m.inside outer).applications = m.applications + outer.isApplication.toNat := by
  unfold applications inside
  rw [List.countP_append, List.countP_singleton]
  cases outer.isApplication <;> rfl

@[simp] theorem probes_inside (outer : Opening) :
    (m.inside outer).probes = m.probes + outer.isProbe.toNat := by
  unfold probes inside
  rw [List.countP_append, List.countP_singleton]
  cases outer.isProbe <;> rfl

@[simp] theorem context_inside (outer : Opening) : (m.inside outer).context = m.context := rfl

end Moment

/-- The changes that are made to counters. -/
inductive Change where
  /-- An application begins. -/
  | enter
  /-- An application is refused. -/
  | refuse
  /-- An application is over. -/
  | exit
  /-- A lookahead begins. -/
  | look
  /-- A lookahead is over. -/
  | unlook

/-! ## The changes of a run -/

/-- In the course of the task, begun in `st` and `cx`, the change is made from `now` to
`next`. What is open at these moments has begun in the course of the task. -/
inductive Makes (setting : Setting) :
    Task → ParseState → Context → Change → Moment → Moment → Prop where
  | refused {rule : Rule} {st : ParseState} {cx cx' : Context} :
      cx.enter setting.limits rule st.position = (false, cx') →
      Makes setting (.application rule) st cx .refuse ⟨[], cx⟩ ⟨[], cx'⟩
  | entered {rule : Rule} {st : ParseState} {cx cx₁ : Context} :
      cx.enter setting.limits rule st.position = (true, cx₁) →
      Makes setting (.application rule) st cx .enter ⟨[], cx⟩
        ⟨[.application rule st.position], cx₁⟩
  | recalled {rule : Rule} {st : ParseState} {cx cx₁ : Context} {entry : MemoEntry} :
      cx.enter setting.limits rule st.position = (true, cx₁) →
      cx₁.remembered? setting.scope rule st.position = some entry →
      Makes setting (.application rule) st cx .exit
        ⟨[.application rule st.position], cx₁.record (.memoHit rule st.position entry.stop?)⟩
        ⟨[], cx₁.leaveRecalled rule st entry⟩
  | left {rule : Rule} {st after : ParseState} {cx cx₁ cx₂ : Context} {matched : Bool} :
      cx.enter setting.limits rule st.position = (true, cx₁) →
      cx₁.remembered? setting.scope rule st.position = none →
      Executes setting (.body rule) st cx₁ matched after cx₂ →
      Makes setting (.application rule) st cx .exit ⟨[.application rule st.position], cx₂⟩
        ⟨[], cx₂.leave setting.scope rule st matched after⟩
  | applying {rule : Rule} {st : ParseState} {cx cx₁ : Context} {change : Change}
      {now next : Moment} :
      cx.enter setting.limits rule st.position = (true, cx₁) →
      cx₁.remembered? setting.scope rule st.position = none →
      Makes setting (.body rule) st cx₁ change now next →
      Makes setting (.application rule) st cx change (now.inside (.application rule st.position))
        (next.inside (.application rule st.position))
  | looked {rule operand : Rule} {wanted : Bool} {st : ParseState} {cx : Context} :
      rule.LooksFor wanted operand →
      Makes setting (.body rule) st cx .look ⟨[], cx⟩ ⟨[.probe operand], cx.openLookahead⟩
  | unlooked {rule operand : Rule} {wanted matched : Bool} {st probe : ParseState}
      {cx cx₁ : Context} :
      rule.LooksFor wanted operand →
      Executes setting (.application operand) st cx.openLookahead matched probe cx₁ →
      Makes setting (.body rule) st cx .unlook ⟨[.probe operand], cx₁⟩ ⟨[], cx₁.closeLookahead⟩
  | looking {rule operand : Rule} {wanted : Bool} {st : ParseState} {cx : Context}
      {change : Change} {now next : Moment} :
      rule.LooksFor wanted operand →
      Makes setting (.application operand) st cx.openLookahead change now next →
      Makes setting (.body rule) st cx change (now.inside (.probe operand))
        (next.inside (.probe operand))
  -- other tasks begin with a part of theirs, and go on with the rest
  | first {task task₁ : Task} {st st₁ : ParseState} {cx cx₁ : Context} {change : Change}
      {now next : Moment} :
      task.isProbe = false → task.first? setting.scope st cx = some (task₁, st₁, cx₁) →
      Makes setting task₁ st₁ cx₁ change now next → Makes setting task st cx change now next
  | sequence_next {origin attempt mid : ParseState} {rule : Rule} {rest : List Rule}
      {cx cx₁ : Context} {change : Change} {now next : Moment} :
      Executes setting (.application rule) attempt cx true mid cx₁ →
      Makes setting (.sequence origin rest) mid cx₁ change now next →
      Makes setting (.sequence origin (rule :: rest)) attempt cx change now next
  | alternatives_next {st attempt : ParseState} {rule : Rule} {rest : List Rule}
      {cx cx₁ : Context} {change : Change} {now next : Moment} :
      Executes setting (.application rule) st cx false attempt cx₁ → cx₁.isAborted = false →
      Makes setting (.alternatives rest) st cx₁ change now next →
      Makes setting (.alternatives (rule :: rest)) st cx change now next
  | repetition_next {rule operand : Rule} {required : Nat} {st attempt : ParseState}
      {cx cx₁ : Context} {change : Change} {now next : Moment} :
      Executes setting (.application operand) st cx true attempt cx₁ →
      st.position < attempt.position →
      Makes setting (.repetition rule operand (required - 1)) attempt cx₁ change now next →
      Makes setting (.repetition rule operand required) st cx change now next

variable {setting : Setting} {task task₁ : Task} {rule : Rule} {pos : Nat}
  {st st₁ after : ParseState} {cx cx₁ cx' : Context} {matched : Bool} {change : Change}
  {now next : Moment}

/-- A task that does not look ahead begins where it is, but for what a recursive rule is found
to stand for, and with a part that does not look ahead either. -/
theorem Task.of_first? {scope : Scope} (hprobe : task.isProbe = false)
    (hfirst : task.first? scope st cx = some (task₁, st₁, cx₁)) :
    task₁.isProbe = false ∧ Remarks cx cx₁ := by
  have hsame : Remarks cx cx := ⟨[], nofun, (List.append_nil _).symm, rfl⟩
  unfold first? at hfirst
  split at hfirst
  case h_3 | h_4 => cases hprobe
  case h_9 =>
    obtain ⟨target, -, heq⟩ := Option.map_eq_some_iff.1 hfirst
    cases heq
    exact ⟨rfl, .record cx _ rfl⟩
  case h_13 => cases hfirst
  all_goals
    cases hfirst
    exact ⟨rfl, hsame⟩

theorem Context.Remarks.depth_eq (h : Remarks cx cx') : cx'.depth = cx.depth := by
  obtain ⟨-, -, -, heq⟩ := h
  rw [heq]

theorem Context.Remarks.quiet_eq (h : Remarks cx cx') : cx'.quiet = cx.quiet := by
  obtain ⟨-, -, -, heq⟩ := h
  rw [heq]

theorem Context.Remarks.fuelUsed_eq (h : Remarks cx cx') : cx'.fuelUsed = cx.fuelUsed := by
  obtain ⟨-, -, -, heq⟩ := h
  rw [heq]

theorem Context.Remarks.applications_eq (h : Remarks cx cx') :
    Trace.applications cx'.trace = Trace.applications cx.trace := by
  obtain ⟨events, hevents, htrace, -⟩ := h
  rw [htrace, Trace.applications_append, Trace.applications_inner hevents, List.append_nil]

/-! ## Counters say what is open -/

namespace Moment

/-- From `cx` to the moment, the counters have gone up by what is open. -/
structure CountsFrom (cx : Context) (m : Moment) : Prop where
  depth_eq : m.context.depth = cx.depth + m.applications
  quiet_eq : m.context.quiet = cx.quiet + m.probes

namespace CountsFrom

variable {m : Moment} {outer : Opening}

theorem of_frame (h : Frame cx cx') : CountsFrom cx ⟨[], cx'⟩ := ⟨h.depth_eq, h.quiet_eq⟩

theorem self (cx : Context) : CountsFrom cx ⟨[], cx⟩ := .of_frame (.refl cx)

theorem inside (h : m.CountsFrom cx₁)
    (hdepth : cx₁.depth = cx.depth + outer.isApplication.toNat)
    (hquiet : cx₁.quiet = cx.quiet + outer.isProbe.toNat) : (m.inside outer).CountsFrom cx where
  depth_eq := by
    rw [context_inside, h.depth_eq, hdepth, applications_inside]
    omega
  quiet_eq := by
    rw [context_inside, h.quiet_eq, hquiet, probes_inside]
    omega

theorem applying (h : m.CountsFrom cx₁)
    (henter : cx.enter setting.limits rule pos = (true, cx₁)) :
    (m.inside (.application rule pos)).CountsFrom cx := by
  obtain ⟨-, -, rfl⟩ := enter_eq_true_iff.1 henter
  exact h.inside rfl rfl

theorem looking {operand : Rule} (h : m.CountsFrom cx.openLookahead) :
    (m.inside (.probe operand)).CountsFrom cx :=
  h.inside rfl rfl

theorem of_eq (h : m.CountsFrom cx₁) (hdepth : cx₁.depth = cx.depth)
    (hquiet : cx₁.quiet = cx.quiet) : m.CountsFrom cx where
  depth_eq := hdepth ▸ h.depth_eq
  quiet_eq := hquiet ▸ h.quiet_eq

end CountsFrom

/-- Each open probe belongs to an open application, but for one that may be seen from inside
its lookahead. -/
def Nests (probe : Bool) (m : Moment) : Prop := m.probes ≤ m.applications + probe.toNat

namespace Nests

variable {m : Moment} {probe : Bool}

theorem nil (probe : Bool) (cx : Context) : Nests probe ⟨[], cx⟩ := Nat.zero_le _

theorem applying (h : m.Nests rule.isLookahead) (pos : Nat) :
    (m.inside (.application rule pos)).Nests false := by
  unfold Nests at h ⊢
  rw [applications_inside, probes_inside]
  have hle : rule.isLookahead.toNat ≤ 1 := Bool.toNat_le _
  show m.probes + 0 ≤ m.applications + 1 + 0
  omega

theorem looking (h : m.Nests false) (operand : Rule) : (m.inside (.probe operand)).Nests true := by
  unfold Nests at h ⊢
  rw [applications_inside, probes_inside]
  show m.probes + 1 ≤ m.applications + 0 + 1
  exact Nat.succ_le_succ h

end Nests

end Moment

open Moment

/-- **The counters go up and down by what is begun and ended.** -/
theorem Makes.countsFrom (h : Makes setting task st cx change now next) :
    now.CountsFrom cx ∧ next.CountsFrom cx := by
  induction h with
  | refused henter => exact ⟨.self _, .of_frame (.refused henter)⟩
  | entered henter => exact ⟨.self _, (CountsFrom.self _).applying henter⟩
  | @recalled rule st _ cx₁ entry henter =>
    have hfound := CountsFrom.of_frame (.record cx₁ (.memoHit rule st.position entry.stop?))
    exact ⟨hfound.applying henter, .of_frame (.leaveRecalled henter)⟩
  | left henter _ hbody =>
    have hdone := CountsFrom.of_frame hbody.frame
    exact ⟨hdone.applying henter, .of_frame (.leave henter hbody.frame)⟩
  | applying henter _ _ ih => exact ⟨ih.1.applying henter, ih.2.applying henter⟩
  | looked => exact ⟨.self _, (CountsFrom.self _).looking⟩
  | unlooked _ hprobe =>
    have hframe := hprobe.frame
    have hdone := CountsFrom.of_frame hframe
    refine ⟨hdone.looking, hframe.depth_eq, ?_⟩
    show _ - 1 = _
    rw [hframe.quiet_eq]
    rfl
  | looking _ _ ih => exact ⟨ih.1.looking, ih.2.looking⟩
  | first hprobe hfirst _ ih =>
    have hremarks := (Task.of_first? hprobe hfirst).2
    exact ⟨ih.1.of_eq hremarks.depth_eq hremarks.quiet_eq,
      ih.2.of_eq hremarks.depth_eq hremarks.quiet_eq⟩
  | sequence_next hhead _ ih | alternatives_next hhead _ _ ih | repetition_next hhead _ _ ih =>
    have hframe := hhead.frame
    exact ⟨ih.1.of_eq hframe.depth_eq hframe.quiet_eq, ih.2.of_eq hframe.depth_eq hframe.quiet_eq⟩

/-- **A lookahead begins inside an application of its own.** -/
theorem Makes.nests (h : Makes setting task st cx change now next) :
    now.Nests task.isProbe ∧ next.Nests task.isProbe := by
  induction h with
  | refused => exact ⟨.nil _ _, .nil _ _⟩
  | entered => exact ⟨.nil _ _, (Nests.nil _ _).applying _⟩
  | recalled | left => exact ⟨(Nests.nil _ _).applying _, .nil _ _⟩
  | applying _ _ _ ih => exact ⟨ih.1.applying _, ih.2.applying _⟩
  | looked hlooks =>
    cases hlooks with
    | ahead | notAhead => exact ⟨.nil _ _, (Nests.nil _ _).looking _⟩
  | unlooked hlooks =>
    cases hlooks with
    | ahead | notAhead => exact ⟨(Nests.nil _ _).looking _, .nil _ _⟩
  | looking hlooks _ ih =>
    cases hlooks with
    | ahead | notAhead => exact ⟨ih.1.looking _, ih.2.looking _⟩
  | first hprobe hfirst _ ih =>
    rw [hprobe, ← (Task.of_first? hprobe hfirst).1]
    exact ih
  | sequence_next _ _ ih | alternatives_next _ _ _ ih | repetition_next _ _ _ ih => exact ih

/-- What no step of the engine breaks holds before and after each change. -/
theorem Makes.preserves {I : Context → Prop} (hinvariant : Invariant setting fun _ cx => I cx)
    (h : Makes setting task st cx change now next) (hcx : I cx) :
    I now.context ∧ I next.context := by
  have hremarked {cx cx' : Context} (hcx : I cx) (hremarks : Remarks cx cx') : I cx' :=
    @Invariant.remarked setting _ hinvariant false cx cx' hcx hremarks
  have hexecuted {task : Task} {st after : ParseState} {cx cx' : Context} {matched : Bool}
      (hexec : Executes setting task st cx matched after cx') (hcx : I cx) : I cx' :=
    hexec.preserves hinvariant hcx
  induction h with
  | refused henter => exact ⟨hcx, hinvariant.refused hcx henter⟩
  | entered henter => exact ⟨hcx, hinvariant.entered hcx henter⟩
  | recalled henter hentry =>
    have hcx₁ : I _ := hinvariant.entered hcx henter
    exact ⟨hremarked hcx₁ (.record _ _ rfl), hinvariant.recalled hcx henter hentry⟩
  | left henter _ hbody =>
    have hcx₂ : I _ := hexecuted hbody (hinvariant.entered hcx henter)
    exact ⟨hcx₂, hinvariant.left henter hbody.frame hbody.nested hcx₂⟩
  | applying henter _ _ ih => exact ih (hinvariant.entered hcx henter)
  | looked => exact ⟨hcx, hinvariant.opened hcx⟩
  | unlooked _ hprobe =>
    have hcx₁ : I _ := hexecuted hprobe (hinvariant.opened hcx)
    exact ⟨hcx₁, hinvariant.closed hprobe.frame hcx₁⟩
  | looking _ _ ih => exact ih (hinvariant.opened hcx)
  | first hprobe hfirst _ ih => exact ih (hremarked hcx (Task.of_first? hprobe hfirst).2)
  | sequence_next hhead _ ih | alternatives_next hhead _ _ ih | repetition_next hhead _ _ ih =>
    exact ih (hexecuted hhead hcx)

/-! ## What a change begins or ends -/

/-- What the change does to what is open. -/
def Change.Opens : Change → List Opening → List Opening → Prop
  | .enter, opened, opened' => ∃ rule pos, opened' = .application rule pos :: opened
  | .refuse, opened, opened' => opened' = opened
  | .exit, opened, opened' => ∃ rule pos, opened = .application rule pos :: opened'
  | .look, opened, opened' => ∃ operand, opened' = .probe operand :: opened
  | .unlook, opened, opened' => ∃ operand, opened = .probe operand :: opened'

/-- What is open around it is not touched. -/
theorem Change.Opens.append {opened opened' : List Opening} (h : change.Opens opened opened')
    (outer : List Opening) : change.Opens (opened ++ outer) (opened' ++ outer) := by
  cases change with
  | enter =>
    obtain ⟨rule, pos, rfl⟩ := h
    exact ⟨rule, pos, rfl⟩
  | refuse => exact congrArg (· ++ outer) h
  | exit =>
    obtain ⟨rule, pos, rfl⟩ := h
    exact ⟨rule, pos, rfl⟩
  | look =>
    obtain ⟨operand, rfl⟩ := h
    exact ⟨operand, rfl⟩
  | unlook =>
    obtain ⟨operand, rfl⟩ := h
    exact ⟨operand, rfl⟩

theorem Makes.opens (h : Makes setting task st cx change now next) :
    change.Opens now.opened next.opened := by
  induction h with
  | refused => rfl
  | entered | recalled | left => exact ⟨_, _, rfl⟩
  | looked | unlooked => exact ⟨_, rfl⟩
  | applying _ _ _ ih | looking _ _ ih => exact ih.append _
  | first _ _ _ ih | sequence_next _ _ ih | alternatives_next _ _ _ ih
  | repetition_next _ _ _ ih => exact ih

/-! ## The moments of a run -/

/-- From one moment to the next, a change is made to the counters in the course of the task,
or something is remarked. -/
def Task.Steps (setting : Setting) (task : Task) (st : ParseState) (cx : Context)
    (now next : Moment) : Prop :=
  (∃ change, Makes setting task st cx change now next) ∨
    next.opened = now.opened ∧ Remarks now.context next.context

/-- One moment after the other, in the course of the task. -/
abbrev Task.Passes (setting : Setting) (task : Task) (st : ParseState) (cx : Context) :
    Moment → Moment → Prop :=
  Relation.ReflTransGen (task.Steps setting st cx)

namespace Task.Passes

open Relation

theorem made (h : Makes setting task st cx change now next) :
    task.Passes setting st cx now next := .single (.inl ⟨change, h⟩)

theorem remark {opened : List Opening} {cx₁ cx₂ : Context} (h : Remarks cx₁ cx₂) :
    task.Passes setting st cx ⟨opened, cx₁⟩ ⟨opened, cx₂⟩ := .single (.inr ⟨rfl, h⟩)

/-- What a part of a task passes the task does. -/
theorem imp (h : task₁.Passes setting st₁ cx₁ now next)
    (hmakes : ∀ {change now next}, Makes setting task₁ st₁ cx₁ change now next →
      Makes setting task st cx change now next) : task.Passes setting st cx now next := by
  refine ReflTransGen.mono (fun now next hstep => ?_) _ _ h
  rcases hstep with ⟨change, hmade⟩ | hremark
  · exact .inl ⟨change, hmakes hmade⟩
  · exact .inr hremark

/-- So it does where the part is inside of something that is open. -/
theorem inside {outer : Opening} (h : task₁.Passes setting st₁ cx₁ now next)
    (hmakes : ∀ {change now next}, Makes setting task₁ st₁ cx₁ change now next →
      Makes setting task st cx change (now.inside outer) (next.inside outer)) :
    task.Passes setting st cx (now.inside outer) (next.inside outer) := by
  refine ReflTransGen.lift (Moment.inside outer) (fun now next hstep => ?_) _ _ h
  rcases hstep with ⟨change, hmade⟩ | ⟨hopened, hremark⟩
  · exact .inl ⟨change, hmakes hmade⟩
  · exact .inr ⟨congrArg (· ++ [outer]) hopened, hremark⟩

theorem first (hprobe : task.isProbe = false)
    (hfirst : task.first? setting.scope st cx = some (task₁, st₁, cx₁))
    (h : task₁.Passes setting st₁ cx₁ now next) : task.Passes setting st cx now next :=
  h.imp fun hmade => .first hprobe hfirst hmade

/-- A lookahead opens a probe and closes it. -/
theorem looking {operand : Rule} {wanted : Bool} {probe : ParseState}
    (hlooks : rule.LooksFor wanted operand)
    (hprobe : Executes setting (.application operand) st cx.openLookahead matched probe cx₁)
    (h : (Task.application operand).Passes setting st cx.openLookahead ⟨[], cx.openLookahead⟩
      ⟨[], cx₁⟩) :
    (Task.body rule).Passes setting st cx ⟨[], cx⟩
      ⟨[], cx₁.closeLookahead.rewound probe.position st.position⟩ := by
  have hopened : (Task.body rule).Passes setting st cx ⟨[], cx⟩
      ⟨[.probe operand], cx.openLookahead⟩ := made (.looked hlooks)
  have hlooked : (Task.body rule).Passes setting st cx ⟨[.probe operand], cx.openLookahead⟩
      ⟨[.probe operand], cx₁⟩ := h.inside fun hmade => .looking hlooks hmade
  exact ((hopened.trans hlooked).trans (made (.unlooked hlooks hprobe))).trans
    (remark (.rewound _ _ _))

end Task.Passes

open Task.Passes in
/-- **An execution passes from its beginning to its end.** -/
theorem Executes.passes (h : Executes setting task st cx matched after cx') :
    task.Passes setting st cx ⟨[], cx⟩ ⟨[], cx'⟩ := by
  induction h with
  | refused henter => exact made (.refused henter)
  | recalled henter hentry =>
    exact ((made (.entered henter)).trans (remark (.record _ _ rfl))).trans
      (made (.recalled henter hentry))
  | evaluated henter hentry hbody ih =>
    have hinside := ih.inside fun hmade => .applying henter hentry hmade
    exact ((made (.entered henter)).trans hinside).trans (made (.left henter hentry hbody))
  | read | sequence_nil | alternatives_nil => exact .refl
  | unread _ _ hmiss => exact remark (.miss hmiss)
  | seq _ ih | choice _ ih | zeroOrMore _ ih | oneOrMore _ ih | opt_taken _ _ ih
  | opt_left _ ih | node_failed _ ih | alternatives_first _ _ ih | alternatives_aborted _ _ ih
  | repetition_ended _ ih => exact ih.first rfl rfl
  | notAhead_failed hprobe hmiss ih =>
    exact (looking .notAhead hprobe ih).trans (remark (.miss hmiss))
  | ahead_failed hprobe hmiss ih => exact (looking .ahead hprobe ih).trans (remark (.miss hmiss))
  | notAhead_matched hprobe ih => exact looking .notAhead hprobe ih
  | ahead_matched hprobe ih => exact looking .ahead hprobe ih
  | node_matched _ _ _ _ ih | repetition_dropped _ _ ih | repetition_kept _ _ _ ih =>
    exact (ih.first rfl rfl).trans (remark (.record _ _ rfl))
  | recursive htarget _ ih =>
    refine (remark (.record _ _ rfl)).trans (ih.first rfl ?_)
    rw [Task.first?, htarget]
    rfl
  | sequence_failed _ ih => exact (ih.first rfl rfl).trans (remark (.rewound _ _ _))
  | sequence_next hhead _ ih ih' =>
    exact (ih.first rfl rfl).trans (ih'.imp fun hmade => .sequence_next hhead hmade)
  | alternatives_next hhead hgoing _ ih ih' =>
    exact (ih.first rfl rfl).trans (ih'.imp fun hmade => .alternatives_next hhead hgoing hmade)
  | repetition_next hhead hlt _ _ ih ih' =>
    exact (ih.first rfl rfl).trans (ih'.imp fun hmade => .repetition_next hhead hlt hmade)

/-! ## Counters in range -/

/-- The counters at a moment. There are as many applications and probes open as they say, no
more of the latter than of the former, and no more of these than the limits admit; fuel is
counted up to the largest 32-bit number, and no more of it is used than there is. -/
structure Moment.InRange (limits : Limits) (m : Moment) : Prop where
  depth_eq : m.context.depth = m.applications
  quiet_eq : m.context.quiet = m.probes
  quiet_le : m.context.quiet ≤ m.context.depth
  depth_le : m.context.depth ≤ limits.recursionLimit.toNat
  fuelUsed_eq : m.context.fuelUsed =
    min (Trace.applications m.context.trace).length (UInt32.size - 1)
  fuelUsed_le : ∀ fuel, limits.execFuel = some fuel → m.context.fuelUsed ≤ fuel.toNat

/-- What is added to and taken from a counter by the change neither leaves the 32-bit numbers
nor goes below zero. -/
def Change.Fits : Change → Context → Context → Prop
  | .enter, cx, cx' => cx'.depth = cx.depth + 1 ∧ cx.depth + 1 < UInt32.size ∧ cx'.quiet = cx.quiet
  | .refuse, cx, cx' => cx'.depth = cx.depth ∧ cx'.quiet = cx.quiet
  | .exit, cx, cx' => 0 < cx.depth ∧ cx'.depth = cx.depth - 1 ∧ cx'.quiet = cx.quiet
  | .look, cx, cx' => cx'.quiet = cx.quiet + 1 ∧ cx.quiet + 1 < UInt32.size ∧ cx'.depth = cx.depth
  | .unlook, cx, cx' => 0 < cx.quiet ∧ cx'.quiet = cx.quiet - 1 ∧ cx'.depth = cx.depth

namespace Moment.InRange

variable {limits : Limits} {m m' : Moment}

theorem start (limits : Limits) (memoize : Bool) :
    (⟨[], .start memoize⟩ : Moment).InRange limits where
  depth_eq := rfl
  quiet_eq := rfl
  quiet_le := Nat.le_refl 0
  depth_le := Nat.zero_le _
  fuelUsed_eq := rfl
  fuelUsed_le _ _ := Nat.zero_le _

/-- The counters are in range where they say what is open, what the log says, and what the
limits admit. -/
theorem of_counted {memoize : Bool} (hcounts : m.CountsFrom (.start memoize))
    (hnests : m.Nests false) (hcounted : m.context.Counted)
    (hadmits : limits.Admits m.context.trace) : m.InRange limits where
  depth_eq := hcounts.depth_eq.trans (Nat.zero_add _)
  quiet_eq := hcounts.quiet_eq.trans (Nat.zero_add _)
  quiet_le := by
    rw [hcounts.depth_eq, hcounts.quiet_eq]
    exact Nat.add_le_add_left hnests 0
  depth_le := by
    rw [hcounted.depth_eq]
    exact Trace.length_opened_le hadmits.recursion List.prefix_rfl
  fuelUsed_eq := hcounted.fuelUsed_eq
  fuelUsed_le fuel hfuel := by
    rw [hcounted.fuelUsed_eq]
    exact Nat.le_trans (Nat.min_le_left _ _) (hadmits.fuel fuel hfuel)

/-- Remarks leave the counters alone. -/
theorem remarked (h : m.InRange limits) (hopened : m'.opened = m.opened)
    (hremarks : Remarks m.context m'.context) : m'.InRange limits where
  depth_eq := by
    rw [hremarks.depth_eq, h.depth_eq, applications, applications, hopened]
  quiet_eq := by
    rw [hremarks.quiet_eq, h.quiet_eq, probes, probes, hopened]
  quiet_le := by
    rw [hremarks.depth_eq, hremarks.quiet_eq]
    exact h.quiet_le
  depth_le := hremarks.depth_eq ▸ h.depth_le
  fuelUsed_eq := by
    rw [hremarks.fuelUsed_eq, hremarks.applications_eq]
    exact h.fuelUsed_eq
  fuelUsed_le := hremarks.fuelUsed_eq ▸ h.fuelUsed_le

theorem depth_lt (h : m.InRange limits) : m.context.depth < UInt32.size :=
  Nat.lt_of_le_of_lt h.depth_le limits.recursionLimit.toNat_lt

theorem quiet_lt (h : m.InRange limits) : m.context.quiet < UInt32.size :=
  Nat.lt_of_le_of_lt h.quiet_le h.depth_lt

/-- A change between moments in range fits, as what is added is counted afterwards and what
is taken away was counted before. -/
theorem fits (h : m.InRange limits) (h' : m'.InRange limits)
    (hopens : change.Opens m.opened m'.opened) : change.Fits m.context m'.context := by
  have hdepth := h.depth_eq
  have hdepth' := h'.depth_eq
  have hquiet := h.quiet_eq
  have hquiet' := h'.quiet_eq
  have hbound := h'.depth_lt
  have hbound' := h'.quiet_lt
  unfold applications at hdepth hdepth'
  unfold probes at hquiet hquiet'
  cases change with
  | enter =>
    obtain ⟨rule, pos, hopened⟩ := hopens
    rw [hopened, List.countP_cons_of_pos rfl] at hdepth'
    rw [hopened, List.countP_cons_of_neg Bool.false_ne_true] at hquiet'
    refine ⟨?_, ?_, ?_⟩ <;> omega
  | refuse =>
    have hopened : m'.opened = m.opened := hopens
    rw [hopened] at hdepth' hquiet'
    exact ⟨hdepth'.trans hdepth.symm, hquiet'.trans hquiet.symm⟩
  | exit =>
    obtain ⟨rule, pos, hopened⟩ := hopens
    rw [hopened, List.countP_cons_of_pos rfl] at hdepth
    rw [hopened, List.countP_cons_of_neg Bool.false_ne_true] at hquiet
    refine ⟨?_, ?_, ?_⟩ <;> omega
  | look =>
    obtain ⟨operand, hopened⟩ := hopens
    rw [hopened, List.countP_cons_of_neg Bool.false_ne_true] at hdepth'
    rw [hopened, List.countP_cons_of_pos rfl] at hquiet'
    refine ⟨?_, ?_, ?_⟩ <;> omega
  | unlook =>
    obtain ⟨operand, hopened⟩ := hopens
    rw [hopened, List.countP_cons_of_neg Bool.false_ne_true] at hdepth
    rw [hopened, List.countP_cons_of_pos rfl] at hquiet
    refine ⟨?_, ?_, ?_⟩ <;> omega

end Moment.InRange

/-! ## Runs of a parser -/

namespace Parser

variable {p : Parser} {scope : Scope} {input : String}

/-- In the course of a run the change is made from `now` to `next`. -/
abbrev Makes (p : Parser) (scope : Scope) (input : String) : Change → Moment → Moment → Prop :=
  Packrat.Makes (p.setting scope) (.application p.root) (.start input) (.start p.memoize)

/-- A run comes to the moment. -/
abbrev Passes (p : Parser) (scope : Scope) (input : String) (m : Moment) : Prop :=
  (Task.application p.root).Passes (p.setting scope) (.start input) (.start p.memoize)
    ⟨[], .start p.memoize⟩ m

/-- The counters are in range before and after each change. -/
theorem inRange_of_makes (h : p.Makes scope input change now next) :
    now.InRange p.limits ∧ next.InRange p.limits := by
  obtain ⟨hcounts, hcounts'⟩ := h.countsFrom
  obtain ⟨hnests, hnests'⟩ := h.nests
  obtain ⟨⟨hcounted, hadmits⟩, hcounted', hadmits'⟩ :=
    h.preserves (Limits.Admits.invariant (p.setting scope)) ⟨.start p.memoize, .nil _⟩
  exact ⟨.of_counted hcounts hnests hcounted hadmits,
    .of_counted hcounts' hnests' hcounted' hadmits'⟩

/-- The counters are in range at every moment that a run comes to. -/
theorem inRange_of_passes {m : Moment} (h : p.Passes scope input m) : m.InRange p.limits := by
  induction h with
  | refl => exact .start p.limits p.memoize
  | tail _ hstep ih =>
    rcases hstep with ⟨change, hmade⟩ | ⟨hopened, hremarks⟩
    · exact (inRange_of_makes hmade).2
    · exact ih.remarked hopened hremarks

/-- **The counters of a run are in range at every moment of it.** They say how many
applications and probes are open, and how many applications were made. There are no more
probes than applications and no more of these than the recursion limit admits, and no more
fuel is used than there is; so nothing is added that does not fit into 32 bits, and nothing
taken away that is not there. A run passes such moments only, from its beginning to its end,
where nothing is open any more, however it ends. -/
theorem run_counters (p : Parser) (scope : Scope) (hresolves : scope.Resolves p.root)
    (input : String) (complete : Bool) :
    (∀ m, p.Passes scope input m → m.InRange p.limits) ∧
      (∀ change now next, p.Makes scope input change now next →
        now.InRange p.limits ∧ next.InRange p.limits ∧ change.Opens now.opened next.opened ∧
          change.Fits now.context next.context) ∧
      ∃ matched st cx,
        apply (p.setting scope) p.limits.recursionLimit.toNat p.root (.start input)
            (.start p.memoize) = .ok (matched, st) cx ∧
          (p.run scope input complete).events = cx.trace ∧ p.Passes scope input ⟨[], cx⟩ ∧
          cx.depth = 0 ∧ cx.quiet = 0 := by
  refine ⟨fun m hpasses => inRange_of_passes hpasses, fun change now next hmakes => ?_, ?_⟩
  · obtain ⟨hnow, hnext⟩ := inRange_of_makes hmakes
    exact ⟨hnow, hnext, hmakes.opens, hnow.fits hnext hmakes.opens⟩
  · obtain ⟨matched, st, cx, happly, hexec⟩ := p.exists_run hresolves input
    have hevents : (p.run scope input complete).events = cx.trace := by
      rw [p.run_eq_of_apply happly]
      rfl
    exact ⟨matched, st, cx, happly, hevents, hexec.passes, hexec.frame.depth_eq,
      hexec.frame.quiet_eq⟩

end Parser

/-! ## A lookahead inside a lookahead -/

namespace Quotation

/-- It stands ahead that no text stands ahead. -/
def aheadNoText : Rule := .ahead 11 noText

theorem closes_aheadNoText : Quotation.scope.Closes (aheadNoText :: noText :: rules) where
  operand_mem := by
    intro rule hrule operand hoperand
    rcases List.mem_cons.1 hrule with rfl | hrule
    · rw [List.mem_singleton.1 hoperand]
      exact List.mem_cons_of_mem _ List.mem_cons_self
    · exact List.mem_cons_of_mem _ (closes_noText.operand_mem rule hrule operand hoperand)
  target_mem := by
    intro id key target hmem htarget
    rcases List.mem_cons.1 hmem with hroot | hmem
    · cases hroot
    · exact List.mem_cons_of_mem _ (closes_noText.target_mem id key target hmem htarget)

theorem resolves_aheadNoText : Quotation.scope.Resolves aheadNoText :=
  closes_aheadNoText.resolves List.mem_cons_self
    (by simp [aheadNoText, noText, rules, text, quoted, dotted, letter, Quotation.scope])

end Quotation

namespace Parser

/-- The limit that a run met. -/
def Report.limit? (report : Report) : Option LimitError :=
  match report.result with
  | .ok (.error (.limit error)) => some error
  | _ => none

theorem Report.result_of_limit? {report : Report} {error : LimitError}
    (h : report.limit? = some error) : report.result = .ok (.error (.limit error)) := by
  unfold limit? at h
  split at h
  · rename_i hresult
    cases h
    exact hresult
  · cases h

/-- Where no more than three applications may be open, the run is aborted inside of two
lookaheads; both are closed again. -/
theorem run_counters_aheadNoText :
    ∃ cx,
      Passes ⟨Quotation.aheadNoText, ⟨none, 3⟩, false⟩ Quotation.scope "«é»" ⟨[], cx⟩ ∧
        cx.fatal = some (.recursion 3) ∧ cx.depth = 0 ∧ cx.quiet = 0 ∧
        (⟨[], cx⟩ : Moment).InRange ⟨none, 3⟩ := by
  obtain ⟨hrange, -, matched, st, cx, happly, -, hpasses, hdepth, hquiet⟩ :=
    run_counters ⟨Quotation.aheadNoText, ⟨none, 3⟩, false⟩ Quotation.scope
      Quotation.resolves_aheadNoText "«é»" false
  have haborted : (Parser.run ⟨Quotation.aheadNoText, ⟨none, 3⟩, false⟩ Quotation.scope "«é»"
      false).limit? = some (.recursion 3) := by decide +kernel
  have hresult := Report.result_of_limit? haborted
  rw [run_eq_of_apply _ happly] at hresult
  exact ⟨cx, hpasses, fatal_of_verdict_limit hresult, hdepth, hquiet, hrange _ hpasses⟩

end Parser

end Packrat
