import Packrat.Text.Inspect

/-!
# Limits of a parse

Execution fuel bounds the number of rule applications of a whole parse, and the
recursion limit how many of them may be open at a time. A parse that meets a
limit is abandoned with a `LimitError`.
-/

namespace Packrat

/-- The bounds of one parse. -/
structure Limits where
  /-- How many rules may be applied; `none` for any number. -/
  execFuel : Option UInt32
  /-- How many applications may be open at a time. -/
  recursionLimit : UInt32
deriving DecidableEq, Repr

namespace Limits

/-- Any number of applications, 1024 of them open at a time. -/
def standard : Limits := ⟨none, 1024⟩

instance : Inhabited Limits := ⟨standard⟩

/-- Bounds the number of applications. -/
def withExecFuel (l : Limits) (fuel : UInt32) : Limits := { l with execFuel := some fuel }

/-- Lifts the bound on the number of applications. -/
def withoutExecFuel (l : Limits) : Limits := { l with execFuel := none }

/-- Bounds the number of open applications. -/
def withRecursionLimit (l : Limits) (limit : UInt32) : Limits :=
  { l with recursionLimit := limit }

/-- The record of the bounds. -/
def inspect (l : Limits) : Text.Inspect :=
  .record "FuelLimits" [
    ("exec_fuel", .option (l.execFuel.map fun fuel => .number fuel.toNat)),
    ("recursion_limit", .number l.recursionLimit.toNat)]

end Limits

/-- The limit that a parse was abandoned for. -/
inductive LimitError where
  | execFuel (limit : UInt32)
  | recursion (limit : UInt32)
deriving DecidableEq, Repr

/-- What an abandoned parse says. -/
def LimitError.message : LimitError → String
  | .execFuel limit =>
    "parse execution limit exceeded (" ++ toString limit.toNat ++ " rule applications)"
  | .recursion limit =>
    "parse recursion limit exceeded (depth " ++ toString limit.toNat ++ ")"

end Packrat
