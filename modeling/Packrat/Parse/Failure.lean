import Packrat.Json
import Packrat.Parse.Limits

/-!
# Failed parses

A `Failure` says where the input stopped making sense: the furthest offset at
which anything was tried, and what was wanted there. A `ParseError` is one of
the four ways in which a parse ends without a token.
-/

namespace Packrat

/-- Where a parse got stuck. -/
structure Failure where
  /-- The largest offset at which a primitive or lookahead failed. -/
  furthest : Nat
  /-- What was wanted there, in the order in which it was first tried. -/
  expected : List String
deriving DecidableEq, Repr

namespace Failure

/-- The failure in words. -/
def display (f : Failure) : String :=
  let place := " at byte " ++ toString f.furthest
  match f.expected.reverse with
  | [] => "unexpected input" ++ place
  | [only] => "expected " ++ only ++ place
  | last :: front =>
    "expected " ++ ", ".intercalate front.reverse ++ " or " ++ last ++ place

/-- The failure as a JSON document. -/
def document (f : Failure) : Json :=
  .object [("furthest", .number f.furthest),
    ("expected", .array (f.expected.map .string))]

end Failure

/-- Why a parse gave no token. -/
inductive ParseError where
  /-- The root rule did not match. -/
  | noMatch (failure : Failure)
  /-- The root rule matched, but input remains after `consumed` bytes. -/
  | incomplete (consumed : Nat) (failure : Failure)
  /-- A limit was met. -/
  | limit (error : LimitError)
deriving DecidableEq, Repr

namespace ParseError

/-- Where the parse got stuck, if it ran to its end. -/
def failure? : ParseError → Option Failure
  | .noMatch failure | .incomplete _ failure => some failure
  | .limit _ => none

/-- The furthest offset, if the parse ran to its end. -/
def furthest? (e : ParseError) : Option Nat := e.failure?.map (·.furthest)

/-- The error in words. -/
def message : ParseError → String
  | .noMatch failure => "no match: " ++ failure.display
  | .incomplete consumed failure =>
    "input not fully consumed after byte " ++ toString consumed ++ ": " ++ failure.display
  | .limit error => error.message

end ParseError

end Packrat
