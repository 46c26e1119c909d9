import Packrat.Proofs.Reading
import Packrat.Proofs.Tracing

/-!
# How much fuel rules ask for

Where outcomes are not remembered, every application is made anew, so the fuel that a parse
takes is a matter of its rules and of the text in front of them. A limit may end a parse in
the middle of any application, and what has been asked for up to there counts as well.

- `Ending`: how an application ends, abandoned ones included.
- `Spends scope rule ahead ending n`: in front of `ahead` the rule may end so after asking for
  `n` applications, itself among them.
- `Spends.generates`: what is matched on the way, the rule generates.
- `Executes.accounted`: what an execution without a table takes is what its rule spends.
- `Parser.run_ne_execFuel`: fuel for all that the root rule may spend does not run out.
-/

namespace Packrat

open Text (utf8Length)

/-! ## What rules spend -/

/-- How an application ends. -/
inductive Ending where
  /-- A limit was met in it. -/
  | abandoned
  | failed
  /-- It matched up to `rest`. -/
  | matched (rest : List Char)

/-- In front of `ahead` the rule may end so, and `n` applications are asked for until then.
The rest of a sequence or of a repetition stands for the same application as all of it. -/
inductive Spends (scope : Scope) : Rule → List Char → Ending → Nat → Prop where
  -- whether there is fuel left is not for the rule to say, so any application may be refused
  | refused {rule : Rule} {ahead : List Char} : Spends scope rule ahead .abandoned 1
  | abandoned {whole operand : Rule} {rest : List Rule} {ahead : List Char} {n : Nat} :
      whole.operands = operand :: rest → Spends scope operand ahead .abandoned n →
      Spends scope whole ahead .abandoned (n + 1)
  | read {rule : Rule} {previous? : Option Char} {ahead read rest : List Char} :
      rule.isPrimitive = true → ahead = read ++ rest →
      rule.reads? previous? ahead = some (utf8Length read) →
      Spends scope rule ahead (.matched rest) 1
  | unread {rule : Rule} {previous? : Option Char} {ahead : List Char} :
      rule.isPrimitive = true → rule.reads? previous? ahead = none →
      Spends scope rule ahead .failed 1
  | seq_nil {id : RuleId} {ahead : List Char} : Spends scope (.seq id []) ahead (.matched ahead) 1
  | seq_failed {id : RuleId} {rule : Rule} {rules : List Rule} {ahead : List Char} {n : Nat} :
      Spends scope rule ahead .failed n →
      Spends scope (.seq id (rule :: rules)) ahead .failed (n + 1)
  | seq_next {id : RuleId} {rule : Rule} {rules : List Rule} {ahead mid : List Char}
      {ending : Ending} {n m : Nat} :
      Spends scope rule ahead (.matched mid) n → Spends scope (.seq id rules) mid ending m →
      Spends scope (.seq id (rule :: rules)) ahead ending (n + m)
  | choice_nil {id : RuleId} {ahead : List Char} : Spends scope (.choice id []) ahead .failed 1
  | choice_first {id : RuleId} {rule : Rule} {rules : List Rule} {ahead rest : List Char}
      {n : Nat} :
      Spends scope rule ahead (.matched rest) n →
      Spends scope (.choice id (rule :: rules)) ahead (.matched rest) (n + 1)
  | choice_next {id : RuleId} {rule : Rule} {rules : List Rule} {ahead : List Char}
      {ending : Ending} {n m : Nat} :
      Spends scope rule ahead .failed n → Spends scope (.choice id rules) ahead ending m →
      Spends scope (.choice id (rule :: rules)) ahead ending (n + m)
  | notAhead_failed {id : RuleId} {operand : Rule} {ahead rest : List Char} {n : Nat} :
      Spends scope operand ahead (.matched rest) n →
      Spends scope (.notAhead id operand) ahead .failed (n + 1)
  | notAhead_matched {id : RuleId} {operand : Rule} {ahead : List Char} {n : Nat} :
      Spends scope operand ahead .failed n →
      Spends scope (.notAhead id operand) ahead (.matched ahead) (n + 1)
  | ahead_failed {id : RuleId} {operand : Rule} {ahead : List Char} {n : Nat} :
      Spends scope operand ahead .failed n →
      Spends scope (.ahead id operand) ahead .failed (n + 1)
  | ahead_matched {id : RuleId} {operand : Rule} {ahead rest : List Char} {n : Nat} :
      Spends scope operand ahead (.matched rest) n →
      Spends scope (.ahead id operand) ahead (.matched ahead) (n + 1)
  | zeroOrMore_ended {id : RuleId} {operand : Rule} {ahead : List Char} {n : Nat} :
      Spends scope operand ahead .failed n →
      Spends scope (.zeroOrMore id operand) ahead (.matched ahead) (n + 1)
  | zeroOrMore_next {id : RuleId} {operand : Rule} {ahead mid : List Char} {ending : Ending}
      {n m : Nat} :
      Spends scope operand ahead (.matched mid) n → mid.length < ahead.length →
      Spends scope (.zeroOrMore id operand) mid ending m →
      Spends scope (.zeroOrMore id operand) ahead ending (n + m)
  | zeroOrMore_stalled {id : RuleId} {operand : Rule} {ahead rest : List Char} {n : Nat} :
      Spends scope operand ahead (.matched rest) n → ¬rest.length < ahead.length →
      Spends scope (.zeroOrMore id operand) ahead (.matched ahead) (n + 1)
  | oneOrMore_failed {id : RuleId} {operand : Rule} {ahead : List Char} {n : Nat} :
      Spends scope operand ahead .failed n →
      Spends scope (.oneOrMore id operand) ahead .failed (n + 1)
  | oneOrMore_next {id : RuleId} {operand : Rule} {ahead mid : List Char} {ending : Ending}
      {n m : Nat} :
      Spends scope operand ahead (.matched mid) n → mid.length < ahead.length →
      Spends scope (.zeroOrMore id operand) mid ending m →
      Spends scope (.oneOrMore id operand) ahead ending (n + m)
  | oneOrMore_stalled {id : RuleId} {operand : Rule} {ahead rest : List Char} {n : Nat} :
      Spends scope operand ahead (.matched rest) n → ¬rest.length < ahead.length →
      Spends scope (.oneOrMore id operand) ahead (.matched rest) (n + 1)
  | opt_taken {id : RuleId} {operand : Rule} {ahead rest : List Char} {n : Nat} :
      Spends scope operand ahead (.matched rest) n →
      Spends scope (.opt id operand) ahead (.matched rest) (n + 1)
  | opt_left {id : RuleId} {operand : Rule} {ahead : List Char} {n : Nat} :
      Spends scope operand ahead .failed n →
      Spends scope (.opt id operand) ahead (.matched ahead) (n + 1)
  | node_failed {id : RuleId} {operand : Rule} {ahead : List Char} {n : Nat} :
      Spends scope operand ahead .failed n → Spends scope (.node id operand) ahead .failed (n + 1)
  | node_matched {id : RuleId} {operand : Rule} {ahead rest : List Char} {n : Nat} :
      Spends scope operand ahead (.matched rest) n →
      Spends scope (.node id operand) ahead (.matched rest) (n + 1)
  | recursive {id : RuleId} {key : String} {target : Rule} {ahead : List Char} {ending : Ending}
      {n : Nat} :
      scope.target id key = some target → Spends scope target ahead ending n →
      Spends scope (.recursive id key) ahead ending (n + 1)

variable {scope : Scope} {rule operand : Rule} {rules : List Rule} {id : RuleId}
  {ahead rest : List Char} {ending : Ending} {n : Nat}

/-- What is matched is in front of the rest, and the rule generates it. -/
theorem Spends.generates (h : Spends scope rule ahead ending n) :
    ∀ {rest}, ending = .matched rest →
      ∃ read, ahead = read ++ rest ∧ Generates scope rule read rest := by
  induction h with
  | read hprimitive heq hread =>
    rintro rest ⟨⟩
    exact ⟨_, heq, .primitive hprimitive (heq ▸ hread)⟩
  | refused | abandoned | unread | seq_failed | choice_nil | notAhead_failed | ahead_failed
  | oneOrMore_failed | node_failed => rintro rest ⟨⟩
  | seq_nil => rintro rest ⟨⟩; exact ⟨[], rfl, .seq_nil⟩
  | notAhead_matched => rintro rest ⟨⟩; exact ⟨[], rfl, .notAhead⟩
  | ahead_matched => rintro rest ⟨⟩; exact ⟨[], rfl, .ahead⟩
  | zeroOrMore_ended | zeroOrMore_stalled => rintro rest ⟨⟩; exact ⟨[], rfl, .zeroOrMore_nil⟩
  | opt_left => rintro rest ⟨⟩; exact ⟨[], rfl, .opt_nil⟩
  | seq_next _ _ ih ih' =>
    intro rest hending
    obtain ⟨read, rfl, hread⟩ := ih rfl
    obtain ⟨more, rfl, hmore⟩ := ih' hending
    exact ⟨read ++ more, (List.append_assoc ..).symm, .seq_cons hread hmore⟩
  | zeroOrMore_next _ _ _ ih ih' =>
    intro rest hending
    obtain ⟨read, rfl, hread⟩ := ih rfl
    obtain ⟨more, rfl, hmore⟩ := ih' hending
    exact ⟨read ++ more, (List.append_assoc ..).symm, .zeroOrMore_next hread hmore⟩
  | oneOrMore_next _ _ _ ih ih' =>
    intro rest hending
    obtain ⟨read, rfl, hread⟩ := ih rfl
    obtain ⟨more, rfl, hmore⟩ := ih' hending
    exact ⟨read ++ more, (List.append_assoc ..).symm, .oneOrMore hread hmore⟩
  | oneOrMore_stalled _ _ ih =>
    rintro rest ⟨⟩
    obtain ⟨read, rfl, hread⟩ := ih rfl
    refine ⟨read, rfl, ?_⟩
    rw [← List.append_nil read]
    exact .oneOrMore hread .zeroOrMore_nil
  | choice_first _ ih =>
    intro rest hending
    obtain ⟨read, rfl, hread⟩ := ih hending
    exact ⟨read, rfl, .choice List.mem_cons_self hread⟩
  | choice_next _ _ _ ih =>
    intro rest hending
    obtain ⟨read, rfl, hread⟩ := ih hending
    obtain ⟨taken, hmem, htaken⟩ := hread.of_choice
    exact ⟨read, rfl, .choice (List.mem_cons_of_mem _ hmem) htaken⟩
  | opt_taken _ ih =>
    intro rest hending
    obtain ⟨read, rfl, hread⟩ := ih hending
    exact ⟨read, rfl, .opt_taken hread⟩
  | node_matched _ ih =>
    intro rest hending
    obtain ⟨read, rfl, hread⟩ := ih hending
    exact ⟨read, rfl, .node hread⟩
  | recursive htarget _ ih =>
    intro rest hending
    obtain ⟨read, rfl, hread⟩ := ih hending
    exact ⟨read, rfl, .recursive htarget hread⟩

theorem Spends.length_le (h : Spends scope rule ahead (.matched rest) n) :
    rest.length ≤ ahead.length := by
  obtain ⟨read, rfl, -⟩ := h.generates rfl
  rw [List.length_append]
  exact Nat.le_add_left ..

/-! ## What executions take -/

namespace ParseState

variable {st other : ParseState}

/-- What remains is a matter of input and position. -/
theorem remainder_eq (hinput : other.input = st.input) (hpos : other.position = st.position) :
    other.remainder = st.remainder := by
  have hsame := other.splits
  rw [hinput, hpos, st.splits] at hsame
  exact (Option.some.inj hsame).symm

theorem remainder_advance (h : st.advance n = .ok other)
    (hrest : Text.dropBytes? n st.remainder = some rest) : other.remainder = rest := by
  obtain ⟨hinput, hpos, -⟩ := seek_eq_ok h
  have hsame := other.splits
  rw [hinput, hpos, Text.dropBytes?_add st.splits hrest] at hsame
  exact (Option.some.inj hsame).symm

/-- A match that has not moved the cursor leaves all that remains. -/
theorem Extends.not_length_lt {tokens : List Token} (h : st.Extends tokens other)
    (hnot : ¬st.position < other.position) : ¬other.remainder.length < st.remainder.length := by
  have hpos : other.position = st.position :=
    Nat.le_antisymm (Nat.le_of_not_lt hnot) h.position_le
  rw [remainder_eq h.input_eq hpos]
  exact Nat.lt_irrefl _

end ParseState

/-- How a task has ended, if it has not been abandoned. -/
def Ending.of (matched : Bool) (after : ParseState) : Ending :=
  if matched then .matched after.remainder else .failed

/-- What the context after a task says of how it ended and what it spent. Before the task
`own` of what it spends have been paid. -/
inductive Accounts (limits : Limits) (own : Nat) (cx : Context) (matched : Bool)
    (after : ParseState) (cx' : Context) : Ending → Nat → Prop where
  | complete {n : Nat} :
      cx'.fatal = none → cx'.fuelUsed + own ≤ cx.fuelUsed + n →
      Accounts limits own cx matched after cx' (.of matched after) n
  | abandoned {error : LimitError} {n : Nat} :
      cx'.fatal = some error →
      (∀ fuel, error = .execFuel fuel →
        limits.execFuel = some fuel ∧ fuel.toNat + own < cx.fuelUsed + n) →
      Accounts limits own cx matched after cx' .abandoned n

/-- What is paid before a task may be counted with what the task spends instead. -/
theorem Accounts.shift {limits : Limits} {own own' m : Nat} {cx cx' cx₁ cx₁' : Context}
    {matched : Bool} {after : ParseState} (h : Accounts limits own cx matched after cx' ending n)
    (hfatal : cx₁'.fatal = cx'.fatal) (hfuel : cx₁'.fuelUsed = cx'.fuelUsed)
    (hpaid : cx.fuelUsed + n + own' ≤ cx₁.fuelUsed + m + own) :
    Accounts limits own' cx₁ matched after cx₁' ending m := by
  cases h with
  | complete hnone hle => exact .complete (hfatal.trans hnone) (by omega)
  | abandoned herror hlt =>
    refine .abandoned (hfatal.trans herror) fun fuel heq => ?_
    obtain ⟨hlimit, hlt⟩ := hlt fuel heq
    exact ⟨hlimit, by omega⟩

namespace Task

/-- Whether the application that a task is a part of has been made before. -/
def own : Task → Nat
  | .application _ => 0
  | _ => 1

/-- What the task took is what its rule spends. -/
def Accounted (task : Task) (setting : Setting) (st : ParseState) (cx : Context) (matched : Bool)
    (after : ParseState) (cx' : Context) : Prop :=
  ∃ ending n, (∀ id, Spends setting.scope (task.asRule id) st.remainder ending n) ∧
    Accounts setting.limits task.own cx matched after cx' ending n

variable {setting : Setting} {task task' : Task} {st st₁ mid after : ParseState}
  {cx cx₁ cx₂ cx' : Context} {matched matched' : Bool}

/-- A task that ends with what it makes of one application. -/
theorem Accounted.of_operand
    (h : (application operand).Accounted setting st₁ cx₁ matched mid cx₂)
    (hst : st₁.remainder = st.remainder) (hcx : cx₁.fuelUsed = cx.fuelUsed)
    (hfatal : cx'.fatal = cx₂.fatal) (hfuel : cx'.fuelUsed = cx₂.fuelUsed) (hown : task.own = 1)
    (hoperands : ∀ id, ∃ rest, (task.asRule id).operands = operand :: rest)
    (hends : cx₂.fatal = none → ∀ id n,
      Spends setting.scope operand st.remainder (.of matched mid) n →
      Spends setting.scope (task.asRule id) st.remainder (.of matched' after) (n + 1)) :
    task.Accounted setting st cx matched' after cx' := by
  obtain ⟨ending, n, hspends, haccounts⟩ := h
  rw [hst] at hspends
  cases haccounts with
  | complete hnone hle =>
    refine ⟨_, n + 1, fun id => hends hnone id n (hspends id), .complete (hfatal.trans hnone) ?_⟩
    rw [hfuel, hown, ← hcx]
    exact Nat.succ_le_succ hle
  | abandoned herror hlt =>
    refine ⟨_, n + 1, fun id => ?_, .abandoned (hfatal.trans herror) fun fuel heq => ?_⟩
    · obtain ⟨rest, hrest⟩ := hoperands id
      exact .abandoned hrest (hspends id)
    · obtain ⟨hlimit, hlt⟩ := hlt fuel heq
      rw [hown, ← hcx]
      exact ⟨hlimit, Nat.succ_lt_succ hlt⟩

/-- A task that goes on as another one behind an application, unless it is abandoned there. -/
theorem Accounted.next
    (h : (application operand).Accounted setting st cx matched mid cx₁)
    (h' : cx₁.fatal = none → task'.Accounted setting st₁ cx₁ matched' after cx')
    (hframe : cx₁.Frame cx') (hown : task.own = 1) (hown' : task'.own = 1)
    (hoperands : ∀ id, ∃ rest, (task.asRule id).operands = operand :: rest)
    (hnext : ∀ id ending n m, Spends setting.scope operand st.remainder (.of matched mid) n →
      Spends setting.scope (task'.asRule id) st₁.remainder ending m →
      Spends setting.scope (task.asRule id) st.remainder ending (n + m)) :
    task.Accounted setting st cx matched' after cx' := by
  obtain ⟨ending, n, hspends, haccounts⟩ := h
  cases haccounts with
  | complete hnone hle =>
    obtain ⟨ending', m, hspends', haccounts'⟩ := h' hnone
    refine ⟨ending', n + m, fun id => hnext id _ n m (hspends id) (hspends' id), ?_⟩
    rw [hown'] at haccounts'
    rw [hown]
    cases haccounts' with
    | complete hnone' hle' => exact .complete hnone' (by omega)
    | abandoned herror hlt =>
      refine .abandoned herror fun fuel heq => ?_
      obtain ⟨hlimit, hlt⟩ := hlt fuel heq
      exact ⟨hlimit, by omega⟩
  | abandoned herror hlt =>
    refine ⟨_, n + 1, fun id => ?_, .abandoned (hframe.fatal_eq _ herror) fun fuel heq => ?_⟩
    · obtain ⟨rest, hrest⟩ := hoperands id
      exact .abandoned hrest (hspends id)
    · obtain ⟨hlimit, hlt⟩ := hlt fuel heq
      rw [hown]
      exact ⟨hlimit, Nat.succ_lt_succ hlt⟩

end Task

variable {setting : Setting} {task : Task} {st after : ParseState} {cx cx' : Context}
  {matched : Bool}

theorem Context.fatal_rewound (source target : Nat) (cx : Context) :
    (cx.rewound source target).fatal = cx.fatal := by
  rcases rewound_eq source target cx with h | h <;> rw [h]
  rfl

theorem Context.fuelUsed_rewound (source target : Nat) (cx : Context) :
    (cx.rewound source target).fuelUsed = cx.fuelUsed := by
  rcases rewound_eq source target cx with h | h <;> rw [h]
  rfl

theorem Context.fatal_miss {pos : Nat} (h : cx.miss scope rule pos = some cx') :
    cx'.fatal = cx.fatal := by
  obtain ⟨events, -, rfl⟩ := miss_eq_some h
  rw [expect_eq]

theorem Context.fuelUsed_miss {pos : Nat} (h : cx.miss scope rule pos = some cx') :
    cx'.fuelUsed = cx.fuelUsed := by
  obtain ⟨events, -, rfl⟩ := miss_eq_some h
  rw [expect_eq]

/-- An application that a limit refuses has been asked for. -/
theorem Accounts.refused {limits : Limits} {pos : Nat}
    (henter : cx.enter limits rule pos = (false, cx')) (hfatal : cx.fatal = none) :
    Accounts limits 0 cx false st cx' .abandoned 1 := by
  rcases Context.enter_eq_false_iff.1 henter with ⟨error, herror, -⟩ | ⟨-, error, hmet, rfl⟩
  · rw [hfatal] at herror
    cases herror
  · refine .abandoned rfl fun fuel heq => ?_
    subst heq
    unfold Context.limitMet? at hmet
    split at hmet
    · rename_i fuel' hlimit
      split at hmet
      · rename_i hle
        cases hmet
        exact ⟨hlimit, Nat.lt_succ_of_le hle⟩
      · unfold Context.limitMet?.recursionMet? at hmet
        split at hmet <;> cases hmet
    · unfold Context.limitMet?.recursionMet? at hmet
      split at hmet <;> cases hmet

/-- Nothing is laid badly where nothing is remembered. -/
theorem Context.MemoLaid.of_eq_none {input : String} (hmemo : cx.memo = none) :
    cx.MemoLaid input := by
  intro table htable
  rw [hmemo] at htable
  cases htable

/-- Where nothing is remembered, nothing is recalled. -/
theorem Context.remembered?_eq_none {pos : Nat} (hmemo : cx.memo = none) :
    cx.remembered? scope rule pos = none := by
  unfold remembered?
  rw [hmemo]
  exact ite_self _

/-- What an operand left over is shorter if it moved the cursor. -/
theorem Spends.length_lt_of_position {mid : ParseState}
    (h : Spends scope rule st.remainder (.matched mid.remainder) n) (hinput : st.input = mid.input)
    (hlt : st.position < mid.position) : mid.remainder.length < st.remainder.length := by
  have hless := ParseState.remainder_lt hinput hlt
  obtain ⟨read, heq, -⟩ := h.generates rfl
  rw [heq, Text.utf8Length_append] at hless
  have hread : read ≠ [] := by
    rintro rfl
    simp at hless
  rw [heq, List.length_append]
  exact Nat.lt_add_of_pos_left (List.length_pos_of_ne_nil hread)

/-- **What an execution takes is what its rule spends**, as long as no outcomes are remembered
and no limit had been met before. -/
theorem Executes.accounted (h : Executes setting task st cx matched after cx')
    (hposed : task.WellPosed) (hmemo : cx.memo = none) (hfatal : cx.fatal = none) :
    task.Accounted setting st cx matched after cx' := by
  -- what is entered while no limit is met is paid for, and after that nothing is entered
  induction h with
  | refused henter => exact ⟨_, 1, fun _ => .refused, .refused henter hfatal⟩
  | recalled henter hentry =>
    obtain ⟨-, -, rfl⟩ := Context.enter_eq_true_iff.1 henter
    have hnone := hentry.symm.trans (Context.remembered?_eq_none hmemo)
    cases hnone
  | evaluated henter _ _ ih =>
    obtain ⟨-, -, rfl⟩ := Context.enter_eq_true_iff.1 henter
    obtain ⟨ending, n, hspends, haccounts⟩ := ih trivial hmemo hfatal
    exact ⟨ending, n, hspends, haccounts.shift Context.fatal_leave Context.fuelUsed_leave
      (by simp only [Task.own]; omega)⟩
  | read hprimitive hread hadvance =>
    rw [ParseState.readsAt?_eq] at hread
    obtain ⟨read, rest, hsplit, rfl⟩ := Rule.exists_append_of_reads? hread
    have hrest := ParseState.remainder_advance hadvance
      (by rw [hsplit, Text.dropBytes?_append])
    subst hrest
    exact ⟨_, 1, fun _ => .read hprimitive hsplit hread, .complete hfatal (Nat.le_refl _)⟩
  | unread hprimitive hread hmiss =>
    rw [ParseState.readsAt?_eq] at hread
    refine ⟨_, 1, fun _ => .unread hprimitive hread,
      .complete ((Context.fatal_miss hmiss).trans hfatal) ?_⟩
    rw [Context.fuelUsed_miss hmiss]
    exact Nat.le_refl _
  | @seq id _ _ _ _ _ _ _ ih | @choice id _ _ _ _ _ _ _ ih =>
    obtain ⟨ending, n, hspends, haccounts⟩ := ih trivial hmemo hfatal
    exact ⟨ending, n, fun _ => hspends id, haccounts⟩
  | @zeroOrMore id _ _ _ _ _ _ hrepeat ih =>
    cases hrepeat.repetition_zero
    obtain ⟨ending, n, hspends, haccounts⟩ := ih (Nat.zero_le 1) hmemo hfatal
    exact ⟨ending, n, fun _ => hspends id, haccounts⟩
  | @oneOrMore id _ _ _ _ _ _ _ ih =>
    obtain ⟨ending, n, hspends, haccounts⟩ := ih (Nat.le_refl 1) hmemo hfatal
    exact ⟨ending, n, fun _ => hspends id, haccounts⟩
  | notAhead_failed _ hmiss ih =>
    exact (ih trivial hmemo hfatal).of_operand rfl rfl
      ((Context.fatal_miss hmiss).trans (Context.fatal_rewound ..))
      ((Context.fuelUsed_miss hmiss).trans (Context.fuelUsed_rewound ..)) rfl
      (fun _ => ⟨[], rfl⟩) fun _ _ _ => .notAhead_failed
  | notAhead_matched _ ih =>
    exact (ih trivial hmemo hfatal).of_operand rfl rfl (Context.fatal_rewound ..)
      (Context.fuelUsed_rewound ..) rfl (fun _ => ⟨[], rfl⟩) fun _ _ _ => .notAhead_matched
  | ahead_failed _ hmiss ih =>
    exact (ih trivial hmemo hfatal).of_operand rfl rfl
      ((Context.fatal_miss hmiss).trans (Context.fatal_rewound ..))
      ((Context.fuelUsed_miss hmiss).trans (Context.fuelUsed_rewound ..)) rfl
      (fun _ => ⟨[], rfl⟩) fun _ _ _ => .ahead_failed
  | ahead_matched _ ih =>
    exact (ih trivial hmemo hfatal).of_operand rfl rfl (Context.fatal_rewound ..)
      (Context.fuelUsed_rewound ..) rfl (fun _ => ⟨[], rfl⟩) fun _ _ _ => .ahead_matched
  | opt_taken _ _ ih =>
    exact (ih trivial hmemo hfatal).of_operand rfl rfl rfl rfl rfl (fun _ => ⟨[], rfl⟩)
      fun _ _ _ => .opt_taken
  | opt_left _ ih =>
    exact (ih trivial hmemo hfatal).of_operand rfl rfl rfl rfl rfl (fun _ => ⟨[], rfl⟩)
      fun _ _ _ => .opt_left
  | node_failed _ ih =>
    exact (ih trivial hmemo hfatal).of_operand rfl rfl rfl rfl rfl (fun _ => ⟨[], rfl⟩)
      fun _ _ _ => .node_failed
  | @node_matched id operand st inner moved cx cx' token hoperand _ _ hseek ih =>
    obtain ⟨tokens, hext⟩ := (hoperand.contract trivial (.of_eq_none hmemo)).2.of_matched rfl
    obtain ⟨hinput, hpos, -⟩ := ParseState.seek_eq_ok hseek
    have hrest : (moved.push token).remainder = inner.remainder :=
      ParseState.remainder_eq (hinput.trans hext.input_eq.symm) hpos
    refine (ih trivial hmemo hfatal).of_operand rfl rfl rfl rfl rfl (fun _ => ⟨[], rfl⟩)
      fun _ _ _ hspends => ?_
    show Spends setting.scope _ _ (.matched _) _
    rw [hrest]
    exact .node_matched hspends
  | recursive htarget _ ih =>
    obtain ⟨ending, n, hspends, haccounts⟩ := ih trivial hmemo hfatal
    exact ⟨ending, n + 1, fun id => .recursive htarget (hspends id),
      haccounts.shift rfl rfl (by simp only [Task.own, Context.fuelUsed_record]; omega)⟩
  | sequence_nil => exact ⟨_, 1, fun _ => .seq_nil, .complete hfatal (Nat.le_refl _)⟩
  | sequence_failed _ ih =>
    exact (ih trivial hmemo hfatal).of_operand rfl rfl (Context.fatal_rewound ..)
      (Context.fuelUsed_rewound ..) rfl (fun _ => ⟨_, rfl⟩) fun _ _ _ => .seq_failed
  | sequence_next hhead hrest ih ih' =>
    exact (ih trivial hmemo hfatal).next (ih' trivial (hhead.frame.memo_eq hmemo)) hrest.frame rfl
      rfl (fun _ => ⟨_, rfl⟩) fun _ _ _ _ => .seq_next
  | alternatives_nil => exact ⟨_, 1, fun _ => .choice_nil, .complete hfatal (Nat.le_refl _)⟩
  | alternatives_first _ _ ih =>
    exact (ih trivial hmemo hfatal).of_operand rfl rfl rfl rfl rfl (fun _ => ⟨_, rfl⟩)
      fun _ _ _ => .choice_first
  | alternatives_aborted _ haborted ih =>
    refine (ih trivial hmemo hfatal).of_operand rfl rfl rfl rfl rfl (fun _ => ⟨_, rfl⟩)
      fun hnone => ?_
    rw [Context.isAborted, hnone] at haborted
    cases haborted
  | alternatives_next hhead _ hrest ih ih' =>
    exact (ih trivial hmemo hfatal).next (ih' trivial (hhead.frame.memo_eq hmemo)) hrest.frame rfl
      rfl (fun _ => ⟨_, rfl⟩) fun _ _ _ _ => .choice_next
  | @repetition_ended _ _ required _ _ _ _ _ ih =>
    cases required with
    | zero =>
      exact (ih trivial hmemo hfatal).of_operand rfl rfl rfl rfl rfl (fun _ => ⟨_, rfl⟩)
        fun _ _ _ => .zeroOrMore_ended
    | succ missing =>
      exact (ih trivial hmemo hfatal).of_operand rfl rfl rfl rfl rfl (fun _ => ⟨_, rfl⟩)
        fun _ _ _ => .oneOrMore_failed
  | @repetition_next _ _ required _ _ _ _ _ _ _ hhead hlt hinput hrest ih ih' =>
    have hnone : required - 1 = 0 := Nat.sub_eq_zero_of_le hposed
    rw [hnone] at ih'
    have hmore := ih' (Nat.zero_le 1) (hhead.frame.memo_eq hmemo)
    cases required with
    | zero =>
      exact (ih trivial hmemo hfatal).next hmore hrest.frame rfl rfl (fun _ => ⟨_, rfl⟩)
        fun _ _ _ _ hspends =>
          .zeroOrMore_next hspends (hspends.length_lt_of_position hinput hlt)
    | succ missing =>
      exact (ih trivial hmemo hfatal).next hmore hrest.frame rfl rfl (fun _ => ⟨_, rfl⟩)
        fun _ _ _ _ hspends =>
          .oneOrMore_next hspends (hspends.length_lt_of_position hinput hlt)
  | repetition_dropped hoperand hnot ih =>
    obtain ⟨tokens, hext⟩ := (hoperand.contract trivial (.of_eq_none hmemo)).2.of_matched rfl
    exact (ih trivial hmemo hfatal).of_operand rfl rfl rfl rfl rfl (fun _ => ⟨_, rfl⟩)
      fun _ _ _ hspends => .zeroOrMore_stalled hspends (hext.not_length_lt hnot)
  | repetition_kept hoperand hnot _ ih =>
    obtain ⟨tokens, hext⟩ := (hoperand.contract trivial (.of_eq_none hmemo)).2.of_matched rfl
    exact (ih trivial hmemo hfatal).of_operand rfl rfl rfl rfl rfl (fun _ => ⟨_, rfl⟩)
      fun _ _ _ hspends => .oneOrMore_stalled hspends (hext.not_length_lt hnot)

/-- **Fuel for all that the root rule may spend does not run out**, whatever the recursion
limit is. -/
theorem Parser.run_ne_execFuel {root : Rule} {limits : Limits} {input : String} {complete : Bool}
    {bound : Nat} {error : UInt32} (hresolves : scope.Resolves root)
    (hbound : ∀ {ending n}, Spends scope root input.toList ending n → n ≤ bound)
    (hfuel : ∀ fuel, limits.execFuel = some fuel → bound ≤ fuel.toNat) :
    (Parser.run ⟨root, limits, false⟩ scope input complete).result ≠
      .ok (.error (.limit (.execFuel error))) := by
  intro hresult
  obtain ⟨matched, st, cx, happly, hexec⟩ :=
    Parser.exists_run ⟨root, limits, false⟩ hresolves input
  rw [Parser.run_eq_of_apply _ happly] at hresult
  have hfatal := fatal_of_verdict_limit hresult
  obtain ⟨ending, n, hspends, haccounts⟩ := hexec.accounted trivial rfl rfl
  have hle : n ≤ bound := hbound (hspends 0)
  cases haccounts with
  | complete hnone =>
    rw [hfatal] at hnone
    cases hnone
  | abandoned herror hlt =>
    rw [hfatal] at herror
    cases herror
    obtain ⟨hlimit, hlt⟩ := hlt error rfl
    have hleft : bound ≤ error.toNat := hfuel error hlimit
    have hstart : (Context.start false).fuelUsed = 0 := rfl
    simp only [Task.own, hstart] at hlt
    omega

end Packrat
