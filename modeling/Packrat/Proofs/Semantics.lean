import Packrat.Proofs.Execution

/-!
# What rules mean

Two relations between a rule, an offset and an outcome, with no engine in them.

- `Derives`: the meaning of parsing expressions as it stands in textbooks. A
  repetition goes on until its operand fails, so it means nothing where the
  operand matches without reading.
- `Evaluates`: the meaning that the engine computes. It also says what is wanted
  on the way, and with `stalls` it gives a repetition an outcome where it stalls.
- `Evaluates.det`: a rule has one outcome at an offset, and wants the same.
- `derives_iff`: where nothing stalls, both mean the same.
-/

namespace Packrat

/-- How a rule comes out at an offset: it fails, or it matches up to some offset
and gives tokens. -/
abbrev Outcome := Option (Nat × List Token)

/-- The outcome of a match that gave `tokens` and went on to `outcome`. -/
def Outcome.after (tokens : List Token) (outcome : Outcome) : Outcome :=
  outcome.map fun (stop, rest) => (stop, tokens ++ rest)

/-- The token of a node. A node without a name has a token nevertheless. -/
def Scope.nodeToken (scope : Scope) (input : String) (id : RuleId) (pos stop : Nat)
    (children : List Token) : Token :=
  ⟨(scope.name id).getD Apply.unnamedNode, input, ⟨pos, stop⟩, children⟩

/-! ## Derivations -/

/-- The meaning of rules as parsing expressions. The rest of a sequence or choice
is a sequence or choice of its own. -/
inductive Derives (scope : Scope) (input : String) : Rule → Nat → Outcome → Prop where
  | read {rule : Rule} {pos n : Nat} :
      rule.isPrimitive = true → rule.readsAt? input pos = some n →
      Derives scope input rule pos (some (pos + n, []))
  | unread {rule : Rule} {pos : Nat} :
      rule.isPrimitive = true → rule.readsAt? input pos = none →
      Derives scope input rule pos none
  | seq_nil {id : RuleId} {pos : Nat} : Derives scope input (.seq id []) pos (some (pos, []))
  | seq_failed {id : RuleId} {rule : Rule} {rest : List Rule} {pos : Nat} :
      Derives scope input rule pos none →
      Derives scope input (.seq id (rule :: rest)) pos none
  | seq_next {id : RuleId} {rule : Rule} {rest : List Rule} {pos mid : Nat}
      {tokens : List Token} {outcome : Outcome} :
      Derives scope input rule pos (some (mid, tokens)) →
      Derives scope input (.seq id rest) mid outcome →
      Derives scope input (.seq id (rule :: rest)) pos (outcome.after tokens)
  | choice_nil {id : RuleId} {pos : Nat} : Derives scope input (.choice id []) pos none
  | choice_first {id : RuleId} {rule : Rule} {rest : List Rule} {pos stop : Nat}
      {tokens : List Token} :
      Derives scope input rule pos (some (stop, tokens)) →
      Derives scope input (.choice id (rule :: rest)) pos (some (stop, tokens))
  | choice_next {id : RuleId} {rule : Rule} {rest : List Rule} {pos : Nat}
      {outcome : Outcome} :
      Derives scope input rule pos none →
      Derives scope input (.choice id rest) pos outcome →
      Derives scope input (.choice id (rule :: rest)) pos outcome
  -- of a lookahead only the outcome counts, its tokens are dropped
  | notAhead_failed {id : RuleId} {operand : Rule} {pos stop : Nat} {tokens : List Token} :
      Derives scope input operand pos (some (stop, tokens)) →
      Derives scope input (.notAhead id operand) pos none
  | notAhead_matched {id : RuleId} {operand : Rule} {pos : Nat} :
      Derives scope input operand pos none →
      Derives scope input (.notAhead id operand) pos (some (pos, []))
  | ahead_failed {id : RuleId} {operand : Rule} {pos : Nat} :
      Derives scope input operand pos none →
      Derives scope input (.ahead id operand) pos none
  | ahead_matched {id : RuleId} {operand : Rule} {pos stop : Nat} {tokens : List Token} :
      Derives scope input operand pos (some (stop, tokens)) →
      Derives scope input (.ahead id operand) pos (some (pos, []))
  | zeroOrMore_ended {id : RuleId} {operand : Rule} {pos : Nat} :
      Derives scope input operand pos none →
      Derives scope input (.zeroOrMore id operand) pos (some (pos, []))
  -- `mid` may be `pos`; then the question comes up again, and no derivation ends it
  | zeroOrMore_next {id : RuleId} {operand : Rule} {pos mid : Nat} {tokens : List Token}
      {outcome : Outcome} :
      Derives scope input operand pos (some (mid, tokens)) →
      Derives scope input (.zeroOrMore id operand) mid outcome →
      Derives scope input (.zeroOrMore id operand) pos (outcome.after tokens)
  | oneOrMore_failed {id : RuleId} {operand : Rule} {pos : Nat} :
      Derives scope input operand pos none →
      Derives scope input (.oneOrMore id operand) pos none
  | oneOrMore_next {id : RuleId} {operand : Rule} {pos mid : Nat} {tokens : List Token}
      {outcome : Outcome} :
      Derives scope input operand pos (some (mid, tokens)) →
      Derives scope input (.zeroOrMore id operand) mid outcome →
      Derives scope input (.oneOrMore id operand) pos (outcome.after tokens)
  | opt_taken {id : RuleId} {operand : Rule} {pos stop : Nat} {tokens : List Token} :
      Derives scope input operand pos (some (stop, tokens)) →
      Derives scope input (.opt id operand) pos (some (stop, tokens))
  | opt_left {id : RuleId} {operand : Rule} {pos : Nat} :
      Derives scope input operand pos none →
      Derives scope input (.opt id operand) pos (some (pos, []))
  | node_failed {id : RuleId} {operand : Rule} {pos : Nat} :
      Derives scope input operand pos none →
      Derives scope input (.node id operand) pos none
  | node_matched {id : RuleId} {operand : Rule} {pos stop : Nat} {tokens : List Token} :
      Derives scope input operand pos (some (stop, tokens)) →
      Derives scope input (.node id operand) pos
        (some (stop, [scope.nodeToken input id pos stop tokens]))
  | recursive {id : RuleId} {key : String} {target : Rule} {pos : Nat} {outcome : Outcome} :
      scope.target id key = some target →
      Derives scope input target pos outcome →
      Derives scope input (.recursive id key) pos outcome

/-! ## Evaluation -/

/-- The meaning of rules, with what is wanted on the way to the outcome. Only
with `stalls` has a repetition an outcome where its operand matches and reads
nothing: it ends there, and keeps the match if it has no other. -/
inductive Evaluates (scope : Scope) (input : String) (stalls : Prop) :
    Rule → Nat → Outcome → List Want → Prop where
  | read {rule : Rule} {pos n : Nat} :
      rule.isPrimitive = true → rule.readsAt? input pos = some n →
      Evaluates scope input stalls rule pos (some (pos + n, [])) []
  | unread {rule : Rule} {pos : Nat} :
      rule.isPrimitive = true → rule.readsAt? input pos = none →
      Evaluates scope input stalls rule pos none [(pos, rule.describe scope)]
  | seq_nil {id : RuleId} {pos : Nat} :
      Evaluates scope input stalls (.seq id []) pos (some (pos, [])) []
  | seq_failed {id : RuleId} {rule : Rule} {rest : List Rule} {pos : Nat} {wants : List Want} :
      Evaluates scope input stalls rule pos none wants →
      Evaluates scope input stalls (.seq id (rule :: rest)) pos none wants
  | seq_next {id : RuleId} {rule : Rule} {rest : List Rule} {pos mid : Nat}
      {tokens : List Token} {outcome : Outcome} {wants wants' : List Want} :
      Evaluates scope input stalls rule pos (some (mid, tokens)) wants →
      Evaluates scope input stalls (.seq id rest) mid outcome wants' →
      Evaluates scope input stalls (.seq id (rule :: rest)) pos (outcome.after tokens)
        (wants ++ wants')
  | choice_nil {id : RuleId} {pos : Nat} :
      Evaluates scope input stalls (.choice id []) pos none []
  | choice_first {id : RuleId} {rule : Rule} {rest : List Rule} {pos stop : Nat}
      {tokens : List Token} {wants : List Want} :
      Evaluates scope input stalls rule pos (some (stop, tokens)) wants →
      Evaluates scope input stalls (.choice id (rule :: rest)) pos (some (stop, tokens)) wants
  | choice_next {id : RuleId} {rule : Rule} {rest : List Rule} {pos : Nat}
      {outcome : Outcome} {wants wants' : List Want} :
      Evaluates scope input stalls rule pos none wants →
      Evaluates scope input stalls (.choice id rest) pos outcome wants' →
      Evaluates scope input stalls (.choice id (rule :: rest)) pos outcome (wants ++ wants')
  -- what is wanted inside a lookahead is not wanted outside; if it fails, the whole
  -- lookahead is what was wanted
  | notAhead_failed {id : RuleId} {operand : Rule} {pos stop : Nat} {tokens : List Token}
      {wants : List Want} :
      Evaluates scope input stalls operand pos (some (stop, tokens)) wants →
      Evaluates scope input stalls (.notAhead id operand) pos none
        [(pos, (Rule.notAhead id operand).describe scope)]
  | notAhead_matched {id : RuleId} {operand : Rule} {pos : Nat} {wants : List Want} :
      Evaluates scope input stalls operand pos none wants →
      Evaluates scope input stalls (.notAhead id operand) pos (some (pos, [])) []
  | ahead_failed {id : RuleId} {operand : Rule} {pos : Nat} {wants : List Want} :
      Evaluates scope input stalls operand pos none wants →
      Evaluates scope input stalls (.ahead id operand) pos none
        [(pos, (Rule.ahead id operand).describe scope)]
  | ahead_matched {id : RuleId} {operand : Rule} {pos stop : Nat} {tokens : List Token}
      {wants : List Want} :
      Evaluates scope input stalls operand pos (some (stop, tokens)) wants →
      Evaluates scope input stalls (.ahead id operand) pos (some (pos, [])) []
  | zeroOrMore_ended {id : RuleId} {operand : Rule} {pos : Nat} {wants : List Want} :
      Evaluates scope input stalls operand pos none wants →
      Evaluates scope input stalls (.zeroOrMore id operand) pos (some (pos, [])) wants
  | zeroOrMore_next {id : RuleId} {operand : Rule} {pos mid : Nat} {tokens : List Token}
      {outcome : Outcome} {wants wants' : List Want} :
      Evaluates scope input stalls operand pos (some (mid, tokens)) wants → pos < mid →
      Evaluates scope input stalls (.zeroOrMore id operand) mid outcome wants' →
      Evaluates scope input stalls (.zeroOrMore id operand) pos (outcome.after tokens)
        (wants ++ wants')
  -- a match that reads nothing is dropped where none is missing
  | zeroOrMore_stalled {id : RuleId} {operand : Rule} {pos stop : Nat} {tokens : List Token}
      {wants : List Want} :
      stalls → Evaluates scope input stalls operand pos (some (stop, tokens)) wants →
      ¬pos < stop →
      Evaluates scope input stalls (.zeroOrMore id operand) pos (some (pos, [])) wants
  | oneOrMore_failed {id : RuleId} {operand : Rule} {pos : Nat} {wants : List Want} :
      Evaluates scope input stalls operand pos none wants →
      Evaluates scope input stalls (.oneOrMore id operand) pos none wants
  | oneOrMore_next {id : RuleId} {operand : Rule} {pos mid : Nat} {tokens : List Token}
      {outcome : Outcome} {wants wants' : List Want} :
      Evaluates scope input stalls operand pos (some (mid, tokens)) wants → pos < mid →
      Evaluates scope input stalls (.zeroOrMore id operand) mid outcome wants' →
      Evaluates scope input stalls (.oneOrMore id operand) pos (outcome.after tokens)
        (wants ++ wants')
  -- and kept, with its tokens, where it is the one that is required
  | oneOrMore_stalled {id : RuleId} {operand : Rule} {pos stop : Nat} {tokens : List Token}
      {wants : List Want} :
      stalls → Evaluates scope input stalls operand pos (some (stop, tokens)) wants →
      ¬pos < stop →
      Evaluates scope input stalls (.oneOrMore id operand) pos (some (stop, tokens)) wants
  | opt_taken {id : RuleId} {operand : Rule} {pos stop : Nat} {tokens : List Token}
      {wants : List Want} :
      Evaluates scope input stalls operand pos (some (stop, tokens)) wants →
      Evaluates scope input stalls (.opt id operand) pos (some (stop, tokens)) wants
  | opt_left {id : RuleId} {operand : Rule} {pos : Nat} {wants : List Want} :
      Evaluates scope input stalls operand pos none wants →
      Evaluates scope input stalls (.opt id operand) pos (some (pos, [])) wants
  | node_failed {id : RuleId} {operand : Rule} {pos : Nat} {wants : List Want} :
      Evaluates scope input stalls operand pos none wants →
      Evaluates scope input stalls (.node id operand) pos none wants
  | node_matched {id : RuleId} {operand : Rule} {pos stop : Nat} {tokens : List Token}
      {wants : List Want} :
      Evaluates scope input stalls operand pos (some (stop, tokens)) wants →
      Evaluates scope input stalls (.node id operand) pos
        (some (stop, [scope.nodeToken input id pos stop tokens])) wants
  | recursive {id : RuleId} {key : String} {target : Rule} {pos : Nat} {outcome : Outcome}
      {wants : List Want} :
      scope.target id key = some target →
      Evaluates scope input stalls target pos outcome wants →
      Evaluates scope input stalls (.recursive id key) pos outcome wants

/-! ## One outcome -/

variable {scope : Scope} {input : String} {stalls : Prop} {rule : Rule} {pos : Nat}
  {outcome outcome' : Outcome} {wants wants' : List Want}

theorem Outcome.after_eq_some {tokens rest : List Token} {stop : Nat}
    (h : outcome.after tokens = some (stop, rest)) :
    ∃ more, outcome = some (stop, more) ∧ rest = tokens ++ more := by
  obtain ⟨⟨stop', more⟩, rfl, heq⟩ := Option.map_eq_some_iff.1 h
  cases heq
  exact ⟨more, rfl, rfl⟩

namespace Evaluates

/-- **Rules are functions**: the outcome at an offset is determined, and so is what
is wanted on the way. -/
theorem det (h : Evaluates scope input stalls rule pos outcome wants)
    (h' : Evaluates scope input stalls rule pos outcome' wants') :
    outcome = outcome' ∧ wants = wants' := by
  -- the second evaluation begins as the first: with the same operand, by induction
  -- with the same outcome, and that outcome selects the constructor
  induction h generalizing outcome' wants' with
  | read hprimitive hread | unread hprimitive hread =>
    cases h' with
    | read _ hread' | unread _ hread' =>
      rw [hread] at hread'
      cases hread' <;> exact ⟨rfl, rfl⟩
    | _ => cases hprimitive
  | seq_nil | choice_nil =>
    cases h' with
    | read hprimitive | unread hprimitive => cases hprimitive
    | _ => exact ⟨rfl, rfl⟩
  | seq_failed _ ih =>
    cases h' with
    | read hprimitive | unread hprimitive => cases hprimitive
    | seq_next hhead => cases (ih hhead).1
    | seq_failed hhead =>
      obtain ⟨heq, rfl⟩ := ih hhead
      cases heq
      exact ⟨rfl, rfl⟩
  | seq_next _ _ ih ih' =>
    cases h' with
    | read hprimitive | unread hprimitive => cases hprimitive
    | seq_failed hhead => cases (ih hhead).1
    | seq_next hhead hrest =>
      obtain ⟨heq, rfl⟩ := ih hhead
      cases heq
      obtain ⟨rfl, rfl⟩ := ih' hrest
      exact ⟨rfl, rfl⟩
  | choice_first _ ih =>
    cases h' with
    | read hprimitive | unread hprimitive => cases hprimitive
    | choice_next hhead => cases (ih hhead).1
    | choice_first hhead =>
      obtain ⟨heq, rfl⟩ := ih hhead
      cases heq
      exact ⟨rfl, rfl⟩
  | choice_next _ _ ih ih' =>
    cases h' with
    | read hprimitive | unread hprimitive => cases hprimitive
    | choice_first hhead => cases (ih hhead).1
    | choice_next hhead hrest =>
      obtain ⟨heq, rfl⟩ := ih hhead
      cases heq
      obtain ⟨rfl, rfl⟩ := ih' hrest
      exact ⟨rfl, rfl⟩
  | notAhead_failed _ ih | notAhead_matched _ ih =>
    cases h' with
    | read hprimitive | unread hprimitive => cases hprimitive
    | notAhead_failed hhead | notAhead_matched hhead =>
      obtain ⟨heq, rfl⟩ := ih hhead
      cases heq <;> exact ⟨rfl, rfl⟩
  | ahead_failed _ ih | ahead_matched _ ih =>
    cases h' with
    | read hprimitive | unread hprimitive => cases hprimitive
    | ahead_failed hhead | ahead_matched hhead =>
      obtain ⟨heq, rfl⟩ := ih hhead
      cases heq <;> exact ⟨rfl, rfl⟩
  | zeroOrMore_ended _ ih =>
    cases h' with
    | read hprimitive | unread hprimitive => cases hprimitive
    | zeroOrMore_ended hhead => exact ⟨rfl, (ih hhead).2⟩
    | zeroOrMore_next hhead | zeroOrMore_stalled _ hhead => cases (ih hhead).1
  | zeroOrMore_next _ hlt _ ih ih' =>
    cases h' with
    | read hprimitive | unread hprimitive => cases hprimitive
    | zeroOrMore_ended hhead => cases (ih hhead).1
    | zeroOrMore_stalled _ hhead hnot =>
      cases (ih hhead).1
      exact absurd hlt hnot
    | zeroOrMore_next hhead _ hrest =>
      obtain ⟨heq, rfl⟩ := ih hhead
      cases heq
      obtain ⟨rfl, rfl⟩ := ih' hrest
      exact ⟨rfl, rfl⟩
  | zeroOrMore_stalled _ _ hnot ih =>
    cases h' with
    | read hprimitive | unread hprimitive => cases hprimitive
    | zeroOrMore_ended hhead => cases (ih hhead).1
    | zeroOrMore_next hhead hlt =>
      cases (ih hhead).1
      exact absurd hlt hnot
    | zeroOrMore_stalled _ hhead =>
      obtain ⟨heq, rfl⟩ := ih hhead
      cases heq
      exact ⟨rfl, rfl⟩
  | oneOrMore_failed _ ih =>
    cases h' with
    | read hprimitive | unread hprimitive => cases hprimitive
    | oneOrMore_failed hhead => exact ⟨rfl, (ih hhead).2⟩
    | oneOrMore_next hhead | oneOrMore_stalled _ hhead => cases (ih hhead).1
  | oneOrMore_next _ hlt _ ih ih' =>
    cases h' with
    | read hprimitive | unread hprimitive => cases hprimitive
    | oneOrMore_failed hhead => cases (ih hhead).1
    | oneOrMore_stalled _ hhead hnot =>
      cases (ih hhead).1
      exact absurd hlt hnot
    | oneOrMore_next hhead _ hrest =>
      obtain ⟨heq, rfl⟩ := ih hhead
      cases heq
      obtain ⟨rfl, rfl⟩ := ih' hrest
      exact ⟨rfl, rfl⟩
  | oneOrMore_stalled _ _ hnot ih =>
    cases h' with
    | read hprimitive | unread hprimitive => cases hprimitive
    | oneOrMore_failed hhead => cases (ih hhead).1
    | oneOrMore_next hhead hlt =>
      cases (ih hhead).1
      exact absurd hlt hnot
    | oneOrMore_stalled _ hhead =>
      obtain ⟨heq, rfl⟩ := ih hhead
      cases heq
      exact ⟨rfl, rfl⟩
  | opt_taken _ ih | opt_left _ ih =>
    cases h' with
    | read hprimitive | unread hprimitive => cases hprimitive
    | opt_taken hhead | opt_left hhead =>
      obtain ⟨heq, rfl⟩ := ih hhead
      cases heq <;> exact ⟨rfl, rfl⟩
  | node_failed _ ih | node_matched _ ih =>
    cases h' with
    | read hprimitive | unread hprimitive => cases hprimitive
    | node_failed hhead | node_matched hhead =>
      obtain ⟨heq, rfl⟩ := ih hhead
      cases heq <;> exact ⟨rfl, rfl⟩
  | recursive htarget _ ih =>
    cases h' with
    | read hprimitive | unread hprimitive => cases hprimitive
    | recursive htarget' h' =>
      rw [htarget] at htarget'
      cases htarget'
      exact ih h'

/-- A match never ends in front of where it began. -/
theorem le (h : Evaluates scope input stalls rule pos outcome wants) :
    ∀ {stop tokens}, outcome = some (stop, tokens) → pos ≤ stop := by
  induction h with
  | read => rintro _ _ ⟨⟩; exact Nat.le_add_right _ _
  | seq_next _ _ ih ih' | zeroOrMore_next _ _ _ ih ih' | oneOrMore_next _ _ _ ih ih' =>
    intro stop tokens h
    obtain ⟨more, hmore, -⟩ := Outcome.after_eq_some h
    exact Nat.le_trans (ih rfl) (ih' hmore)
  | choice_first _ ih | opt_taken _ ih | oneOrMore_stalled _ _ _ ih | choice_next _ _ _ ih
  | recursive _ _ ih => exact ih
  | node_matched _ ih => rintro _ _ ⟨⟩; exact ih rfl
  | unread | seq_failed | choice_nil | notAhead_failed | ahead_failed | oneOrMore_failed
  | node_failed => rintro _ _ ⟨⟩
  | seq_nil | notAhead_matched | ahead_matched | zeroOrMore_ended | zeroOrMore_stalled
  | opt_left => rintro _ _ ⟨⟩; exact Nat.le_refl _

/-- What has an outcome keeps it where more repetitions have one. -/
theorem mono {stalls' : Prop} (hstalls : stalls → stalls')
    (h : Evaluates scope input stalls rule pos outcome wants) :
    Evaluates scope input stalls' rule pos outcome wants := by
  induction h with
  | read hprimitive hread => exact .read hprimitive hread
  | unread hprimitive hread => exact .unread hprimitive hread
  | seq_nil => exact .seq_nil
  | seq_failed _ ih => exact .seq_failed ih
  | seq_next _ _ ih ih' => exact .seq_next ih ih'
  | choice_nil => exact .choice_nil
  | choice_first _ ih => exact .choice_first ih
  | choice_next _ _ ih ih' => exact .choice_next ih ih'
  | notAhead_failed _ ih => exact .notAhead_failed ih
  | notAhead_matched _ ih => exact .notAhead_matched ih
  | ahead_failed _ ih => exact .ahead_failed ih
  | ahead_matched _ ih => exact .ahead_matched ih
  | zeroOrMore_ended _ ih => exact .zeroOrMore_ended ih
  | zeroOrMore_next _ hlt _ ih ih' => exact .zeroOrMore_next ih hlt ih'
  | zeroOrMore_stalled h _ hnot ih => exact .zeroOrMore_stalled (hstalls h) ih hnot
  | oneOrMore_failed _ ih => exact .oneOrMore_failed ih
  | oneOrMore_next _ hlt _ ih ih' => exact .oneOrMore_next ih hlt ih'
  | oneOrMore_stalled h _ hnot ih => exact .oneOrMore_stalled (hstalls h) ih hnot
  | opt_taken _ ih => exact .opt_taken ih
  | opt_left _ ih => exact .opt_left ih
  | node_failed _ ih => exact .node_failed ih
  | node_matched _ ih => exact .node_matched ih
  | recursive htarget _ ih => exact .recursive htarget ih

/-! ## Where nothing stalls -/

/-- What has an outcome without stalling has it as a parsing expression. -/
theorem derives (h : Evaluates scope input False rule pos outcome wants) :
    Derives scope input rule pos outcome := by
  induction h with
  | read hprimitive hread => exact .read hprimitive hread
  | unread hprimitive hread => exact .unread hprimitive hread
  | seq_nil => exact .seq_nil
  | seq_failed _ ih => exact .seq_failed ih
  | seq_next _ _ ih ih' => exact .seq_next ih ih'
  | choice_nil => exact .choice_nil
  | choice_first _ ih => exact .choice_first ih
  | choice_next _ _ ih ih' => exact .choice_next ih ih'
  | notAhead_failed _ ih => exact .notAhead_failed ih
  | notAhead_matched _ ih => exact .notAhead_matched ih
  | ahead_failed _ ih => exact .ahead_failed ih
  | ahead_matched _ ih => exact .ahead_matched ih
  | zeroOrMore_ended _ ih => exact .zeroOrMore_ended ih
  | zeroOrMore_next _ _ _ ih ih' => exact .zeroOrMore_next ih ih'
  | zeroOrMore_stalled h | oneOrMore_stalled h => exact h.elim
  | oneOrMore_failed _ ih => exact .oneOrMore_failed ih
  | oneOrMore_next _ _ _ ih ih' => exact .oneOrMore_next ih ih'
  | opt_taken _ ih => exact .opt_taken ih
  | opt_left _ ih => exact .opt_left ih
  | node_failed _ ih => exact .node_failed ih
  | node_matched _ ih => exact .node_matched ih
  | recursive htarget _ ih => exact .recursive htarget ih

/-- A repetition that would have to go on where its operand reads nothing has no
outcome: it would come back to the same question. -/
theorem lt_of_zeroOrMore {id : RuleId} {operand : Rule} {mid : Nat} {tokens : List Token}
    (hhead : Evaluates scope input False operand pos (some (mid, tokens)) wants)
    (hrest : Evaluates scope input False (.zeroOrMore id operand) mid outcome wants') :
    pos < mid := by
  rcases Nat.lt_or_eq_of_le (hhead.le rfl) with hlt | rfl
  · exact hlt
  · cases hrest with
    | read hprimitive | unread hprimitive => cases hprimitive
    | zeroOrMore_ended hhead' => cases (hhead.det hhead').1
    | zeroOrMore_next hhead' hlt =>
      -- the operand would have to read something here after all
      cases (hhead.det hhead').1
      exact hlt
    | zeroOrMore_stalled h => exact h.elim

end Evaluates

/-- A derivation never stalls. -/
theorem Derives.evaluates (h : Derives scope input rule pos outcome) :
    ∃ wants, Evaluates scope input False rule pos outcome wants := by
  induction h with
  | read hprimitive hread => exact ⟨_, .read hprimitive hread⟩
  | unread hprimitive hread => exact ⟨_, .unread hprimitive hread⟩
  | seq_nil => exact ⟨_, .seq_nil⟩
  | choice_nil => exact ⟨_, .choice_nil⟩
  | seq_failed _ ih =>
    obtain ⟨_, ih⟩ := ih
    exact ⟨_, .seq_failed ih⟩
  | seq_next _ _ ih ih' =>
    obtain ⟨_, ih⟩ := ih
    obtain ⟨_, ih'⟩ := ih'
    exact ⟨_, .seq_next ih ih'⟩
  | choice_first _ ih =>
    obtain ⟨_, ih⟩ := ih
    exact ⟨_, .choice_first ih⟩
  | choice_next _ _ ih ih' =>
    obtain ⟨_, ih⟩ := ih
    obtain ⟨_, ih'⟩ := ih'
    exact ⟨_, .choice_next ih ih'⟩
  | notAhead_failed _ ih =>
    obtain ⟨_, ih⟩ := ih
    exact ⟨_, .notAhead_failed ih⟩
  | notAhead_matched _ ih =>
    obtain ⟨_, ih⟩ := ih
    exact ⟨_, .notAhead_matched ih⟩
  | ahead_failed _ ih =>
    obtain ⟨_, ih⟩ := ih
    exact ⟨_, .ahead_failed ih⟩
  | ahead_matched _ ih =>
    obtain ⟨_, ih⟩ := ih
    exact ⟨_, .ahead_matched ih⟩
  | zeroOrMore_ended _ ih =>
    obtain ⟨_, ih⟩ := ih
    exact ⟨_, .zeroOrMore_ended ih⟩
  | zeroOrMore_next _ _ ih ih' =>
    obtain ⟨_, ih⟩ := ih
    obtain ⟨_, ih'⟩ := ih'
    exact ⟨_, .zeroOrMore_next ih (ih.lt_of_zeroOrMore ih') ih'⟩
  | oneOrMore_failed _ ih =>
    obtain ⟨_, ih⟩ := ih
    exact ⟨_, .oneOrMore_failed ih⟩
  | oneOrMore_next _ _ ih ih' =>
    obtain ⟨_, ih⟩ := ih
    obtain ⟨_, ih'⟩ := ih'
    exact ⟨_, .oneOrMore_next ih (ih.lt_of_zeroOrMore ih') ih'⟩
  | opt_taken _ ih =>
    obtain ⟨_, ih⟩ := ih
    exact ⟨_, .opt_taken ih⟩
  | opt_left _ ih =>
    obtain ⟨_, ih⟩ := ih
    exact ⟨_, .opt_left ih⟩
  | node_failed _ ih =>
    obtain ⟨_, ih⟩ := ih
    exact ⟨_, .node_failed ih⟩
  | node_matched _ ih =>
    obtain ⟨_, ih⟩ := ih
    exact ⟨_, .node_matched ih⟩
  | recursive htarget _ ih =>
    obtain ⟨_, ih⟩ := ih
    exact ⟨_, .recursive htarget ih⟩

/-- **Where nothing stalls, both relations mean the same.** -/
theorem derives_iff :
    Derives scope input rule pos outcome ↔
      ∃ wants, Evaluates scope input False rule pos outcome wants :=
  ⟨Derives.evaluates, fun ⟨_, h⟩ => h.derives⟩

end Packrat
