import Packrat.Parse.Apply
import Packrat.Proofs.Expectation
import Packrat.Proofs.Layout

/-!
# Executions

The engine as an inductive relation: one rule for each thing that it can do.
What holds of every run is then proven by induction over the relation, one case
a rule, instead of by unfolding the engine.

- `Task`: what the engine is in the middle of, down to the rest of a sequence, a
  choice or a repetition.
- `Executes setting task st cx matched after cx'`: the task, begun in state `st`
  and context `cx`, ends with the outcome `matched` in state `after` and
  context `cx'`.

That the relation is what `apply` computes is `apply_eq_ok_iff`.
-/

namespace Packrat

/-! ## Primitives -/

namespace Rule

/-- The rules that read input themselves. -/
def isPrimitive : Rule → Bool
  | .char .. | .literal .. | .regex .. | .endOfInput _ => true
  | _ => false

/-- The bytes that a primitive reads in front of `rest`, where it matches.
`previous?` is the character before `rest`. -/
def reads? (previous? : Option Char) (rest : List Char) : Rule → Option Nat
  | .char _ accepted =>
    match rest with
    | c :: _ => if accepted.accepts c then some c.utf8Size else none
    | [] => none
  | .literal _ text => if text.toList.isPrefixOf rest then some text.utf8ByteSize else none
  | .regex _ expression => expression.matchLength? previous? rest
  | .endOfInput _ => if rest.isEmpty then some 0 else none
  | _ => none

/-- The bytes that a primitive reads at byte offset `pos` of `input`. -/
def readsAt? (input : String) (pos : Nat) (rule : Rule) : Option Nat :=
  (Text.dropBytes? pos input.toList).bind fun rest => rule.reads? (Text.before? pos input) rest

/-- A primitive reads whole characters. -/
theorem exists_append_of_reads? {previous? : Option Char} {rest : List Char} {rule : Rule}
    {n : Nat} (h : rule.reads? previous? rest = some n) :
    ∃ read after, rest = read ++ after ∧ Text.utf8Length read = n := by
  unfold reads? at h
  split at h
  case h_1 =>
    split at h
    · split at h
      · cases h
        exact ⟨[_], _, rfl, by simp⟩
      · cases h
    · cases h
  case h_2 =>
    split at h
    · rename_i hstarts
      obtain ⟨after, rfl⟩ := List.isPrefixOf_iff_prefix.1 hstarts
      cases h
      exact ⟨_, after, rfl, Text.utf8Length_toList _⟩
    · cases h
  case h_3 => exact Regex.exists_append_of_matchLength? _ h
  case h_4 =>
    split at h
    · cases h
      exact ⟨[], rest, rfl, rfl⟩
    · cases h
  case h_5 => cases h

/-- A primitive stops at a character boundary. -/
theorem isBoundary_of_readsAt? {input : String} {pos n : Nat} {rule : Rule}
    (h : rule.readsAt? input pos = some n) : Text.isBoundary (pos + n) input = true := by
  obtain ⟨rest, hrest, hread⟩ := Option.bind_eq_some_iff.1 h
  obtain ⟨read, after, rfl, hlen⟩ := exists_append_of_reads? hread
  have hdrop : Text.dropBytes? n (read ++ after) = some after := by
    rw [← hlen, Text.dropBytes?_append]
  exact Text.isBoundary_iff_dropBytes?.2 ⟨after, Text.dropBytes?_add hrest hdrop⟩

end Rule

theorem ParseState.readsAt?_eq (st : ParseState) (rule : Rule) :
    rule.readsAt? st.input st.position = rule.reads? st.previous? st.remainder := by
  rw [Rule.readsAt?, st.splits]
  rfl

/-- A cursor at the end has nothing in front of it. -/
theorem ParseState.isAtEnd_eq (st : ParseState) : st.isAtEnd = st.remainder.isEmpty := by
  have hlen := st.position_add_remainder
  cases hrest : st.remainder with
  | nil =>
    rw [hrest] at hlen
    simpa [isAtEnd] using hlen
  | cons c cs =>
    have hc := c.utf8Size_pos
    rw [hrest, Text.utf8Length_cons] at hlen
    have hne : st.position ≠ st.input.utf8ByteSize := by omega
    simpa [isAtEnd] using hne

/-! ## What the engine does to its context -/

namespace Context

/-- The context after a cursor went back from `source` to `target`. -/
def rewound (source target : Nat) (cx : Context) : Context :=
  if source != target then cx.record (.backtrack source target) else cx

/-- The context after the targets of recursive rules were asked for; `none` if
one of them stands for no rule. -/
def consult (scope : Scope) : List (RuleId × String) → Context → Option Context
  | [], cx => some cx
  | (id, key) :: rest, cx =>
    match scope.target id key with
    | some target => consult scope rest (cx.record (.resolved id target))
    | none => none

/-- The context after `rule` failed at `pos` on its own account; `none` if it
cannot be put into words. -/
def miss (scope : Scope) (rule : Rule) (pos : Nat) (cx : Context) : Option Context :=
  if cx.isOpenTo pos then
    (cx.consult scope (rule.consulted scope)).map (·.expect pos (rule.describe scope))
  else some cx

/-- The context after an application whose outcome was not remembered before. -/
def leave (scope : Scope) (rule : Rule) (st : ParseState) (matched : Bool) (after : ParseState)
    (cx : Context) : Context :=
  (cx.remember scope rule st.position (Apply.outcome st.emitted.size matched after)).exit rule
    st.position (if matched then some after.position else none)

/-- The context after an application whose outcome was remembered. -/
def leaveRecalled (rule : Rule) (st : ParseState) (entry : MemoEntry) (cx : Context) : Context :=
  (cx.record (.memoHit rule st.position entry.stop?)).exit rule st.position entry.stop?

end Context

/-- What taking over a remembered outcome gives. -/
inductive Replays (st : ParseState) : MemoEntry → Bool → ParseState → Prop where
  | failed : Replays st .failed false st
  | matched {stop : Nat} {tokens : List Token} {moved : ParseState} :
      st.seek stop = .ok moved → Replays st (.matched stop tokens) true (Apply.pushAll moved tokens)

/-! ## The relation -/

/-- What the engine is in the middle of. -/
inductive Task where
  /-- The application of a rule. -/
  | application (rule : Rule)
  /-- What a rule is made of. -/
  | body (rule : Rule)
  /-- What is left of a sequence that began at `origin`. -/
  | sequence (origin : ParseState) (rules : List Rule)
  /-- What is left of a choice. -/
  | alternatives (rules : List Rule)
  /-- What is left of the repetition `rule`, with `required` matches missing. -/
  | repetition (rule operand : Rule) (required : Nat)

/-- The task, begun in `st` and `cx`, ends with `matched` in `after` and `cx'`. -/
inductive Executes (setting : Setting) :
    Task → ParseState → Context → Bool → ParseState → Context → Prop where
  | refused {rule : Rule} {st : ParseState} {cx cx' : Context} :
      cx.enter setting.limits rule st.position = (false, cx') →
      Executes setting (.application rule) st cx false st cx'
  | recalled {rule : Rule} {st after : ParseState} {cx cx₁ : Context} {entry : MemoEntry}
      {matched : Bool} :
      cx.enter setting.limits rule st.position = (true, cx₁) →
      cx₁.remembered? setting.scope rule st.position = some entry →
      Replays st entry matched after →
      Executes setting (.application rule) st cx matched after
        (cx₁.leaveRecalled rule st entry)
  | evaluated {rule : Rule} {st after : ParseState} {cx cx₁ cx₂ : Context} {matched : Bool} :
      cx.enter setting.limits rule st.position = (true, cx₁) →
      cx₁.remembered? setting.scope rule st.position = none →
      Executes setting (.body rule) st cx₁ matched after cx₂ →
      Executes setting (.application rule) st cx matched after
        (cx₂.leave setting.scope rule st matched after)
  | read {rule : Rule} {st after : ParseState} {cx : Context} {n : Nat} :
      rule.isPrimitive = true → rule.readsAt? st.input st.position = some n →
      st.advance n = .ok after →
      Executes setting (.body rule) st cx true after cx
  | unread {rule : Rule} {st : ParseState} {cx cx' : Context} :
      rule.isPrimitive = true → rule.readsAt? st.input st.position = none →
      cx.miss setting.scope rule st.position = some cx' →
      Executes setting (.body rule) st cx false st cx'
  | seq {id : RuleId} {rules : List Rule} {st after : ParseState} {cx cx' : Context}
      {matched : Bool} :
      Executes setting (.sequence st rules) st cx matched after cx' →
      Executes setting (.body (.seq id rules)) st cx matched after cx'
  | choice {id : RuleId} {rules : List Rule} {st after : ParseState} {cx cx' : Context}
      {matched : Bool} :
      Executes setting (.alternatives rules) st cx matched after cx' →
      Executes setting (.body (.choice id rules)) st cx matched after cx'
  -- the probe is a copy that is thrown away, the cursor has not moved
  | notAhead_failed {id : RuleId} {operand : Rule} {st probe : ParseState}
      {cx cx₁ cx' : Context} :
      Executes setting (.application operand) st cx.openLookahead true probe cx₁ →
      (cx₁.closeLookahead.rewound probe.position st.position).miss setting.scope
        (.notAhead id operand) st.position = some cx' →
      Executes setting (.body (.notAhead id operand)) st cx false st cx'
  | notAhead_matched {id : RuleId} {operand : Rule} {st probe : ParseState}
      {cx cx₁ : Context} :
      Executes setting (.application operand) st cx.openLookahead false probe cx₁ →
      Executes setting (.body (.notAhead id operand)) st cx true st
        (cx₁.closeLookahead.rewound probe.position st.position)
  | ahead_failed {id : RuleId} {operand : Rule} {st probe : ParseState}
      {cx cx₁ cx' : Context} :
      Executes setting (.application operand) st cx.openLookahead false probe cx₁ →
      (cx₁.closeLookahead.rewound probe.position st.position).miss setting.scope
        (.ahead id operand) st.position = some cx' →
      Executes setting (.body (.ahead id operand)) st cx false st cx'
  | ahead_matched {id : RuleId} {operand : Rule} {st probe : ParseState}
      {cx cx₁ : Context} :
      Executes setting (.application operand) st cx.openLookahead true probe cx₁ →
      Executes setting (.body (.ahead id operand)) st cx true st
        (cx₁.closeLookahead.rewound probe.position st.position)
  | zeroOrMore {id : RuleId} {operand : Rule} {st after : ParseState} {cx cx' : Context}
      {matched : Bool} :
      Executes setting (.repetition (.zeroOrMore id operand) operand 0) st cx matched after cx' →
      Executes setting (.body (.zeroOrMore id operand)) st cx true after cx'
  | oneOrMore {id : RuleId} {operand : Rule} {st after : ParseState} {cx cx' : Context}
      {matched : Bool} :
      Executes setting (.repetition (.oneOrMore id operand) operand 1) st cx matched after cx' →
      Executes setting (.body (.oneOrMore id operand)) st cx matched after cx'
  | opt_taken {id : RuleId} {operand : Rule} {st attempt : ParseState} {cx cx' : Context} :
      Executes setting (.application operand) st cx true attempt cx' →
      st.input = attempt.input →
      Executes setting (.body (.opt id operand)) st cx true attempt cx'
  | opt_left {id : RuleId} {operand : Rule} {st attempt : ParseState} {cx cx' : Context} :
      Executes setting (.application operand) st cx false attempt cx' →
      Executes setting (.body (.opt id operand)) st cx true st cx'
  -- the operand of a node emits into a log of its own
  | node_failed {id : RuleId} {operand : Rule} {st inner : ParseState} {cx cx' : Context} :
      Executes setting (.application operand) st.scope cx false inner cx' →
      Executes setting (.body (.node id operand)) st cx false st cx'
  | node_matched {id : RuleId} {operand : Rule} {st inner moved : ParseState}
      {cx cx' : Context} {token : Token} :
      Executes setting (.application operand) st.scope cx true inner cx' →
      st.position ≤ inner.position →
      Token.make ((setting.scope.name id).getD Apply.unnamedNode) st.input
        ⟨st.position, inner.position⟩ inner.emitted.toList = .ok token →
      st.seek inner.position = .ok moved →
      Executes setting (.body (.node id operand)) st cx true (moved.push token)
        (cx'.record (.token token))
  | recursive {id : RuleId} {key : String} {target : Rule} {st after : ParseState}
      {cx cx' : Context} {matched : Bool} :
      setting.scope.target id key = some target →
      Executes setting (.application target) st (cx.record (.resolved id target)) matched after
        cx' →
      Executes setting (.body (.recursive id key)) st cx matched after cx'
  -- `attempt` is how far the sequence has come, `origin` where it goes back to
  | sequence_nil {origin attempt : ParseState} {cx : Context} :
      origin.input = attempt.input →
      Executes setting (.sequence origin []) attempt cx true attempt cx
  | sequence_failed {origin attempt next : ParseState} {rule : Rule} {rest : List Rule}
      {cx cx' : Context} :
      Executes setting (.application rule) attempt cx false next cx' →
      Executes setting (.sequence origin (rule :: rest)) attempt cx false origin
        (cx'.rewound next.position origin.position)
  | sequence_next {origin attempt next after : ParseState} {rule : Rule} {rest : List Rule}
      {cx cx₁ cx' : Context} {matched : Bool} :
      Executes setting (.application rule) attempt cx true next cx₁ →
      Executes setting (.sequence origin rest) next cx₁ matched after cx' →
      Executes setting (.sequence origin (rule :: rest)) attempt cx matched after cx'
  | alternatives_nil {st : ParseState} {cx : Context} :
      Executes setting (.alternatives []) st cx false st cx
  | alternatives_first {st attempt : ParseState} {rule : Rule} {rest : List Rule}
      {cx cx' : Context} :
      Executes setting (.application rule) st cx true attempt cx' →
      st.input = attempt.input →
      Executes setting (.alternatives (rule :: rest)) st cx true attempt cx'
  -- after an abort no alternative would be tried in earnest
  | alternatives_aborted {st attempt : ParseState} {rule : Rule} {rest : List Rule}
      {cx cx' : Context} :
      Executes setting (.application rule) st cx false attempt cx' → cx'.isAborted = true →
      Executes setting (.alternatives (rule :: rest)) st cx false st cx'
  | alternatives_next {st attempt after : ParseState} {rule : Rule} {rest : List Rule}
      {cx cx₁ cx' : Context} {matched : Bool} :
      Executes setting (.application rule) st cx false attempt cx₁ → cx₁.isAborted = false →
      Executes setting (.alternatives rest) st cx₁ matched after cx' →
      Executes setting (.alternatives (rule :: rest)) st cx matched after cx'
  | repetition_ended {rule operand : Rule} {required : Nat} {st attempt : ParseState}
      {cx cx' : Context} :
      Executes setting (.application operand) st cx false attempt cx' →
      Executes setting (.repetition rule operand required) st cx (required == 0) st cx'
  | repetition_next {rule operand : Rule} {required : Nat} {st attempt after : ParseState}
      {cx cx₁ cx' : Context} {matched : Bool} :
      Executes setting (.application operand) st cx true attempt cx₁ →
      st.position < attempt.position → st.input = attempt.input →
      Executes setting (.repetition rule operand (required - 1)) attempt cx₁ matched after cx' →
      Executes setting (.repetition rule operand required) st cx matched after cx'
  -- a match that reads nothing ends the loop; it is kept if a match is missing
  | repetition_dropped {rule operand : Rule} {st attempt : ParseState} {cx cx' : Context} :
      Executes setting (.application operand) st cx true attempt cx' →
      ¬st.position < attempt.position →
      Executes setting (.repetition rule operand 0) st cx true st
        (cx'.record (.stalled rule st.position))
  | repetition_kept {rule operand : Rule} {missing : Nat} {st attempt : ParseState}
      {cx cx' : Context} :
      Executes setting (.application operand) st cx true attempt cx' →
      ¬st.position < attempt.position → st.input = attempt.input →
      Executes setting (.repetition rule operand (missing + 1)) st cx true attempt
        (cx'.record (.stalled rule attempt.position))

end Packrat
