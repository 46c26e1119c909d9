import Packrat.Grammar.Basic
import Packrat.Grammar.Lexical

/-!
# JSON values

The grammar of JSON documents, in which strings may also stand in single quotes.
Every kind of value is a token of its own; `Value` is a plain choice and leaves
none. Without blanks around it, a document gives the token of its value;
otherwise the root is a `Json` token around it.
-/

namespace Packrat

namespace JsonValue

open Builder Lexical

/-- The rules of the grammar. -/
structure Rules where
  json : Rule
  value : Rule
  object : Rule
  pair : Rule
  array : Rule
  string : Rule
  float : Rule
  integer : Rule
  trueWord : Rule
  falseWord : Rule
  nullWord : Rule

/-- Builds the rules. A float stands before an integer, which refuses digits
with a point after them but not with an exponent. -/
def rules : Builder Rules := do
  let string ← node (← choice [← quotedString '"', ← quotedString '\x27'])
  let float ← node (← seq [← opt (← ch '-'), ← Lexical.float])
  let integer ← node (← seq [← opt (← ch '-'), ← Lexical.integer])
  let trueWord ← node (← word "true")
  let falseWord ← node (← word "false")
  let nullWord ← node (← word "null")
  let pair ← node (← seq [← lexeme string, ← symbol ":", ← recursive "Value"])
  let object ← node (← seq [← symbol "\x7b", ← list (← lexeme pair) (← symbol ","),
    ← literal "\x7d"])
  let array ← node (← seq [← symbol "[", ← list (← lexeme (← recursive "Value")) (← symbol ","),
    ← literal "]"])
  let value ← choice [object, array, string, float, integer, trueWord, falseWord, nullWord]
  let json ← seq [← blanks, value, ← blanks, ← endOfInput]
  return ⟨json, value, object, pair, array, string, float, integer, trueWord, falseWord,
    nullWord⟩

/-- The registrations of the grammar. -/
def Rules.draft (r : Rules) : Draft where
  name := "json"
  rules := [("Json", r.json), ("Value", r.value), ("Object", r.object), ("Pair", r.pair),
    ("Array", r.array), ("String", r.string), ("Float", r.float), ("Integer", r.integer),
    ("True", r.trueWord), ("False", r.falseWord), ("Null", r.nullWord)]
  root := none

end JsonValue

end Packrat
