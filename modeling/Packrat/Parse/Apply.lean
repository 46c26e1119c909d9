import Packrat.Parse.Context

/-!
# Applying rules

`apply setting room rule state` tries to match `rule` at the cursor of `state`.
On success the state has advanced and new tokens may have been appended to its
log; on failure it is as it was. Whatever may have to be undone is done on a
copy of the state, and the copy is assigned back once it has succeeded.

`room` is how many applications may still be opened inside this one; every
application opens its operands with one less. It only serves to define `apply`
by recursion: the limit that a parse can meet is the one of its context.

The combinators are functions on a `Matcher`, the application of sub-rules.
-/

namespace Packrat

/-- A step of a parse: it may change the context, and it stops at a broken
precondition. -/
abbrev Run := EStateM Breach Context

/-- A way to apply rules: whether the rule matched, and the state after it. -/
abbrev Matcher := Rule → ParseState → Run (Bool × ParseState)

namespace Apply

/-- A checked operation as a step. -/
def check {α : Type} : Except Breach α → Run α
  | .ok a => pure a
  | .error breach => throw breach

/-- Logs an event. -/
def record (event : Event) : Run Unit := modify (·.record event)

/-! ## References and failures -/

/-- The rule that a recursive rule stands for. -/
def resolve (setting : Setting) (id : RuleId) (key : String) : Run Rule :=
  match setting.scope.target id key with
  | some target => do
    record (.resolved id target)
    return target
  | none => throw (.unresolved key)

/-- Finds the targets of several recursive rules. -/
def resolveAll (setting : Setting) : List (RuleId × String) → Run Unit
  | [] => return
  | (id, key) :: rest => do
    let _ ← resolve setting id key
    resolveAll setting rest

/-- Fails at the cursor, which records what `rule` wanted there. A rule is put
into words only if they are going to be kept. -/
def fail (setting : Setting) (rule : Rule) (st : ParseState) : Run (Bool × ParseState) := do
  if (← get).isOpenTo st.position then
    resolveAll setting (rule.consulted setting.scope)
    modify (·.expect st.position (rule.describe setting.scope))
  return (false, st)

/-! ## Combinators -/

/-- Applies rules one after another to `attempt`, a copy of `st`. -/
def applySeq (apply : Matcher) (st : ParseState) :
    List Rule → ParseState → Run (Bool × ParseState)
  | [], attempt => return (true, ← check (st.assign attempt))
  | rule :: rest, attempt => do
    let (matched, attempt) ← apply rule attempt
    if matched then applySeq apply st rest attempt
    else
      if attempt.position != st.position then
        record (.backtrack attempt.position st.position)
      return (false, st)

/-- Applies rules to copies of `st` until one matches. -/
def applyChoice (apply : Matcher) (st : ParseState) : List Rule → Run (Bool × ParseState)
  | [] => return (false, st)
  | rule :: rest => do
    let (matched, attempt) ← apply rule st
    if matched then return (true, ← check (st.assign attempt))
    -- an abandoned parse tries no further alternative
    if (← get).isAborted then return (false, st)
    applyChoice apply st rest

/-- Whether `rule` matches at the cursor. Only the outcome escapes: nothing that
is wanted on the way is recorded. -/
def lookahead (apply : Matcher) (rule : Rule) (st : ParseState) : Run Bool := do
  modify (·.openLookahead)
  let (matched, probe) ← apply rule st
  modify (·.closeLookahead)
  if probe.position != st.position then
    record (.backtrack probe.position st.position)
  return matched

/-- Applies `operand` as often as it matches, for the repetition `rule`. An
iteration that consumes nothing ends the loop; it is kept only as one of the
`required` matches still missing. -/
def applyRepeat (apply : Matcher) (rule operand : Rule) (required : Nat) (st : ParseState) :
    Run (Bool × ParseState) := do
  let (matched, attempt) ← apply operand st
  if !matched then return (required == 0, st)
  if _hpos : st.position < attempt.position then
    match h : st.assign attempt with
    | .ok next => applyRepeat apply rule operand (required - 1) next
    | .error breach => throw breach
  else
    -- an empty match adds nothing to a repetition that has matched enough
    let st ← if required == 0 then pure st else check (st.assign attempt)
    record (.stalled rule st.position)
    return (true, st)
termination_by Text.utf8Length st.remainder
decreasing_by
  obtain ⟨hinput, rfl⟩ := ParseState.assign_eq_ok_iff.1 h
  exact ParseState.remainder_lt hinput _hpos

/-- The name of a token whose node has none. -/
def unnamedNode : String := "Node"

/-- Applies `operand` with an empty log, and captures what it matched as one
token of the node `rule`. -/
def applyNode (setting : Setting) (apply : Matcher) (rule operand : Rule) (st : ParseState) :
    Run (Bool × ParseState) := do
  let (matched, inner) ← apply operand st.scope
  if !matched then return (false, st)
  let name := (setting.scope.name rule.id).getD unnamedNode
  let span ← check (Span.make st.position inner.position)
  let token ← check (Token.make name st.input span inner.emitted.toList)
  record (.token token)
  return (true, (← check (st.seek span.stop)).push token)

/-- Applies what the rule is made of, with `apply` for its operands. -/
def applyBody (setting : Setting) (apply : Matcher) (rule : Rule) (st : ParseState) :
    Run (Bool × ParseState) :=
  match rule with
  | .char _ accepted =>
    match st.remainder with
    | c :: _ =>
      if accepted.accepts c then return (true, ← check (st.advance c.utf8Size))
      else fail setting rule st
    | [] => fail setting rule st
  | .literal _ text => do
    if text.toList.isPrefixOf st.remainder then
      return (true, ← check (st.advance text.utf8ByteSize))
    else fail setting rule st
  | .regex _ expression => do
    match expression.matchLength? st.previous? st.remainder with
    | some length => return (true, ← check (st.advance length))
    | none => fail setting rule st
  | .endOfInput _ => if st.isAtEnd then return (true, st) else fail setting rule st
  | .seq _ rules => applySeq apply st rules st
  | .choice _ rules => applyChoice apply st rules
  | .notAhead _ operand => do
    if ← lookahead apply operand st then fail setting rule st else return (true, st)
  | .ahead _ operand => do
    if ← lookahead apply operand st then return (true, st) else fail setting rule st
  | .zeroOrMore _ operand => do
    return (true, (← applyRepeat apply rule operand 0 st).2)
  | .oneOrMore _ operand => applyRepeat apply rule operand 1 st
  | .opt _ operand => do
    let (matched, attempt) ← apply operand st
    if matched then return (true, ← check (st.assign attempt)) else return (true, st)
  | .node _ operand => applyNode setting apply rule operand st
  | .recursive id key => do apply (← resolve setting id key) st

/-! ## Application -/

/-- Emits tokens in order. -/
def pushAll (st : ParseState) (tokens : List Token) : ParseState := tokens.foldl .push st

/-- Takes over a remembered outcome. -/
def replay (entry : MemoEntry) (st : ParseState) : Run (Bool × ParseState) :=
  match entry with
  | .failed => return (false, st)
  | .matched stop tokens => return (true, pushAll (← check (st.seek stop)) tokens)

/-- The outcome of an application that began with `mark` tokens. -/
def outcome (mark : Nat) (matched : Bool) (st : ParseState) : MemoEntry :=
  if matched then .matched st.position (st.emitted.since mark) else .failed

/-- Applies the rule by `body` unless its outcome here is remembered. -/
def applyOnce (setting : Setting) (body : Run (Bool × ParseState)) (rule : Rule)
    (st : ParseState) : Run (Bool × ParseState) := do
  match (← get).remembered? setting.scope rule st.position with
  | some entry =>
    record (.memoHit rule st.position entry.stop?)
    replay entry st
  | none =>
    let (matched, after) ← body
    modify (·.remember setting.scope rule st.position
      (outcome st.emitted.size matched after))
    return (matched, after)

end Apply

open Apply in
/-- Applies `rule` at the cursor of `st`. -/
def apply (setting : Setting) (room : Nat) (rule : Rule) (st : ParseState) :
    Run (Bool × ParseState) := do
  if ← modifyGet (·.enter setting.limits rule st.position) then
    match room with
    -- never reached: `enter` refuses once as many applications are open as may be
    | 0 => return (false, st)
    | room + 1 =>
      let (matched, after) ←
        applyOnce setting (applyBody setting (apply setting room) rule st) rule st
      modify (·.exit rule st.position (if matched then some after.position else none))
      return (matched, after)
  else return (false, st)

end Packrat
