import Packrat.Rule.Basic
import Packrat.Token.Basic

/-!
# Events of a parse

A parse keeps a log of what it did. The first six kinds of event are what a
trace shows. The last one is not shown: it says that a recursive rule was asked
for the rule that it stands for, which a scope fixes on first use.
-/

namespace Packrat

/-- A step of a parse. -/
inductive Event where
  /-- `rule` is about to be applied at `pos`. -/
  | enter (rule : Rule) (pos : Nat)
  /-- The application of `rule` at `pos` is over; `stop` is where its match
  ends, if it matched. -/
  | exit (rule : Rule) (pos : Nat) (stop : Option Nat)
  /-- A node captured `token`. -/
  | token (token : Token)
  /-- A sequence or lookahead rewinds the cursor. -/
  | backtrack (source target : Nat)
  /-- The outcome of `rule` at `pos` was remembered. -/
  | memoHit (rule : Rule) (pos : Nat) (stop : Option Nat)
  /-- The repetition `rule` ends at `pos` because its operand consumed nothing. -/
  | stalled (rule : Rule) (pos : Nat)
  /-- The recursive rule `id` was found to stand for `target`. -/
  | resolved (id : RuleId) (target : Rule)

end Packrat
