import Packrat.Regex.Pattern

/-!
# Programs for matching

A `Program` is a pattern laid out as instructions, each of which knows where to
go on. Its instructions are entered in an order of preference, so the first way
through that reaches the end is the match that the pattern prefers.

A pattern is laid out backwards: `Pattern.layOut` takes the place where to go on
after the pattern and gives the place where it starts.
-/

namespace Packrat

namespace Regex

open Unicode (CodeSet)

/-- A step of a program. Places are positions in its list of instructions. -/
inductive Instruction where
  /-- The end: what was read so far matches. -/
  | done
  /-- Reads a member of `members` and goes on at `next`. -/
  | read (members : CodeSet) (next : Nat)
  /-- Goes on at `next` if the condition holds. -/
  | look (look : Look) (next : Nat)
  /-- Goes on at `first`, and at `second` if that leads nowhere. -/
  | fork (first second : Nat)
deriving Inhabited

/-- A pattern laid out as instructions. -/
structure Program where
  instructions : Array Instruction
  start : Nat

/-- A layout in progress. -/
abbrev Layout := StateM (Array Instruction)

namespace Layout

/-- Adds an instruction and gives its place. -/
def add (instruction : Instruction) : Layout Nat :=
  modifyGet fun code => (code.size, code.push instruction)

/-- Puts `instruction` at a place that was added before. -/
def put (place : Nat) (instruction : Instruction) : Layout Unit :=
  modify fun code => code.setIfInBounds place instruction

/-- A fork between going on with a repetition and leaving it. -/
def fork (greedy : Bool) (again leave : Nat) : Instruction :=
  if greedy then .fork again leave else .fork leave again

/-- Applies `step` `count` times, from `next`. -/
def times (step : Nat → Layout Nat) : (count : Nat) → (next : Nat) → Layout Nat
  | 0, next => return next
  | count + 1, next => do times step count (← step next)

/-- Lays out one or more turns of `body`: a turn, then a fork between the next
turn and `next`. -/
def loop (body : Nat → Layout Nat) (greedy : Bool) (next : Nat) : Layout Nat := do
  -- a place for the fork, which is known only when the turn has been laid out
  let again ← add .done
  let start ← body again
  put again (fork greedy start next)
  return start

end Layout

/-- Lays out a pattern in front of `next`. Any number of turns is laid out as
none, or one or more, so that a turn that reads nothing is left in the right
order of preference. -/
def Pattern.layOut : Pattern → (next : Nat) → Layout Nat
  | .empty, next => return next
  | .oneOf members, next => Layout.add (.read members next)
  | .look l, next => Layout.add (.look l next)
  | .sequence first second, next => do first.layOut (← second.layOut next)
  | .choice first second, next => do
    let second ← second.layOut next
    let first ← first.layOut next
    Layout.add (.fork first second)
  | .repetition operand least none greedy, next => do
    let last ← Layout.loop operand.layOut greedy next
    match least with
    | 0 => Layout.add (Layout.fork greedy last next)
    | least + 1 => Layout.times operand.layOut least last
  | .repetition operand least (some most) greedy, next => do
    let optional (rest : Nat) : Layout Nat := do
      Layout.add (Layout.fork greedy (← operand.layOut rest) next)
    Layout.times operand.layOut least (← Layout.times optional (most - least) next)

/-- The program of a pattern. -/
def Pattern.program (pattern : Pattern) : Program :=
  let (start, code) := (pattern.layOut 0).run #[.done]
  ⟨code, start⟩

end Regex

end Packrat
