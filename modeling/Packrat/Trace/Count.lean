import Packrat.Parse.Event

/-!
# Counting events

How often each kind of event happens in a parse, and how many applications were
open at a time at most.
-/

namespace Packrat

namespace Trace

/-- The numbers of events of each kind. -/
structure Counts where
  enters : Nat
  exits : Nat
  tokens : Nat
  backtracks : Nat
  memoHits : Nat
  stalls : Nat
  /-- The largest number of open applications. -/
  maxDepth : Nat
deriving DecidableEq, Repr

namespace Counts

/-- The counts of a log without events. -/
def zero : Counts := ⟨0, 0, 0, 0, 0, 0, 0⟩

/-- The counts with one event more. The applications open after it are the
enters without an exit. -/
def add (n : Counts) : Event → Counts
  | .enter .. =>
    { n with enters := n.enters + 1, maxDepth := max n.maxDepth (n.enters + 1 - n.exits) }
  | .exit .. => { n with exits := n.exits + 1 }
  | .token _ => { n with tokens := n.tokens + 1 }
  | .backtrack .. => { n with backtracks := n.backtracks + 1 }
  | .memoHit .. => { n with memoHits := n.memoHits + 1 }
  | .stalled .. => { n with stalls := n.stalls + 1 }
  | .resolved .. => n

/-- The counts of a log, the first event first. -/
def ofEvents (events : List Event) : Counts := events.foldl add zero

end Counts

end Trace

end Packrat
