import Packrat.Parse.Event
import Packrat.Parse.Failure
import Packrat.Parse.State
import Packrat.Rule.Display
import Std.Data.HashMap

/-!
# Bookkeeping of a parse

Rules never change while a parse runs. What does change is the `Context`: fuel
and depth, the furthest failure, the remembered outcomes and the event log.

- `Context.enter` charges for an application and refuses it once a limit is met.
- `Context.expect` records what was wanted at the furthest failure.
- `Context.remembered?` and `Context.remember` read and write the memo table. Only
  named rules outside lookahead take part, so that replaying an outcome hides
  no expectation that applying the rule would have recorded.
-/

namespace Packrat

/-- The remembered outcome of a rule at a position. -/
inductive MemoEntry where
  | failed
  /-- The rule matched up to `stop` and emitted `tokens`. -/
  | matched (stop : Nat) (tokens : List Token)

/-- Where the remembered match ends, if it is one. -/
def MemoEntry.stop? : MemoEntry → Option Nat
  | .failed => none
  | .matched stop _ => some stop

/-- Remembered outcomes by rule and position. -/
abbrev MemoTable := Std.HashMap (RuleId × Nat) MemoEntry

/-- What is fixed during a parse. -/
structure Setting where
  scope : Scope
  limits : Limits

/-- What changes during a parse. -/
structure Context where
  /-- The applications started, up to the largest 32-bit number. -/
  fuelUsed : Nat
  /-- The applications that are open. -/
  depth : Nat
  /-- The lookaheads that are open. -/
  quiet : Nat
  /-- The limit that was met, if any. -/
  fatal : Option LimitError
  /-- The largest offset of a recorded failure. -/
  furthest : Nat
  /-- What was wanted at the furthest offset. -/
  expected : List String
  /-- The remembered outcomes, if outcomes are remembered. -/
  memo : Option MemoTable
  /-- What happened, the last event first. -/
  log : List Event

namespace Context

/-- The context of a parse that has not started. -/
def start (memoize : Bool) : Context where
  fuelUsed := 0
  depth := 0
  quiet := 0
  fatal := none
  furthest := 0
  expected := []
  memo := if memoize then some ∅ else none
  log := []

/-- The context after `event`. -/
def record (cx : Context) (event : Event) : Context := { cx with log := event :: cx.log }

/-! ## Limits -/

/-- The largest number of applications that is counted. -/
def maxFuelUsed : Nat := UInt32.size - 1

/-- The limit that one more application would break. Fuel is looked at first. -/
def limitMet? (limits : Limits) (cx : Context) : Option LimitError :=
  match limits.execFuel with
  | some fuel =>
    if fuel.toNat ≤ cx.fuelUsed then some (.execFuel fuel) else recursionMet?
  | none => recursionMet?
where
  recursionMet? : Option LimitError :=
    if limits.recursionLimit.toNat ≤ cx.depth then some (.recursion limits.recursionLimit)
    else none

/-- Starts an application of `rule` at `pos`. It is refused once a limit has
been met; the application then fails without matching. -/
def enter (limits : Limits) (rule : Rule) (pos : Nat) (cx : Context) : Bool × Context :=
  match cx.fatal with
  | some _ => (false, cx)
  | none =>
    match cx.limitMet? limits with
    | some error => (false, { cx with fatal := some error })
    | none =>
      (true, { cx with
        fuelUsed := min (cx.fuelUsed + 1) maxFuelUsed
        depth := cx.depth + 1
        log := .enter rule pos :: cx.log })

/-- Ends an application of `rule` at `pos`. -/
def exit (rule : Rule) (pos : Nat) (stop : Option Nat) (cx : Context) : Context :=
  { cx with depth := cx.depth - 1, log := .exit rule pos stop :: cx.log }

/-- Whether the parse has been abandoned. -/
def isAborted (cx : Context) : Bool := cx.fatal.isSome

/-! ## Lookahead -/

/-- Opens a lookahead. -/
def openLookahead (cx : Context) : Context := { cx with quiet := cx.quiet + 1 }

/-- Closes a lookahead. -/
def closeLookahead (cx : Context) : Context := { cx with quiet := cx.quiet - 1 }

/-! ## Expectations -/

/-- How many expectations are kept for one offset. -/
def maxExpected : Nat := 16

/-- Whether a failure at `pos` counts: no lookahead is open and nothing failed
further ahead. -/
def heeds (cx : Context) (pos : Nat) : Bool := cx.quiet == 0 && decide (cx.furthest ≤ pos)

/-- Makes `pos` the furthest offset, forgetting what was wanted before it. -/
def reach (cx : Context) (pos : Nat) : Context :=
  if cx.furthest < pos then { cx with furthest := pos, expected := [] } else cx

/-- Whether a failure at `pos` would be recorded: it counts, and there is room
for another expectation. -/
def isOpenTo (cx : Context) (pos : Nat) : Bool :=
  cx.heeds pos && decide ((cx.reach pos).expected.length < maxExpected)

/-- Adds an expectation, unless it is there already. -/
def want (cx : Context) (description : String) : Context :=
  if cx.expected.contains description then cx
  else { cx with expected := cx.expected ++ [description] }

/-- Records that something described by `description` was wanted at `pos`. -/
def expect (cx : Context) (pos : Nat) (description : String) : Context :=
  if cx.isOpenTo pos then (cx.reach pos).want description else cx

/-- The failure recorded so far. -/
def failure (cx : Context) : Failure := ⟨cx.furthest, cx.expected⟩

/-! ## Remembered outcomes -/

/-- Whether outcomes of `rule` are remembered at this point. -/
def memoizes (scope : Scope) (rule : Rule) (cx : Context) : Bool :=
  (scope.name rule.id).isSome && cx.quiet == 0

/-- The remembered outcome of `rule` at `pos`. -/
def remembered? (scope : Scope) (rule : Rule) (pos : Nat) (cx : Context) : Option MemoEntry :=
  if cx.memoizes scope rule then cx.memo.bind (·[(rule.id, pos)]?) else none

/-- Remembers the outcome of `rule` at `pos`, unless the parse was abandoned. -/
def remember (scope : Scope) (rule : Rule) (pos : Nat) (entry : MemoEntry) (cx : Context) :
    Context :=
  if cx.memoizes scope rule && !cx.isAborted then
    { cx with memo := cx.memo.map (·.insert (rule.id, pos) entry) }
  else cx

end Context

end Packrat
