import Packrat.Rule.Build
import Packrat.Unicode.Character

/-!
# Lexical building blocks

Rules for blanks, numbers, words, strings and comments. Each function builds new
rules without names.

Blanks follow one convention: a rule for a lexeme also consumes the blanks after
it (`lexeme`, `symbol`, `keyword`). A grammar then skips blanks in front of its
first lexeme only.
-/

namespace Packrat

namespace Lexical

open Builder

/-! ## Characters -/

/-- A decimal digit. -/
def digit : Builder Rule := range '0' '9'

/-- Whether `c` is an ASCII hexadecimal digit. -/
def isHexDigit (c : Char) : Bool :=
  c.isDigit || ('a' ≤ c && c ≤ 'f') || ('A' ≤ c && c ≤ 'F')

/-- A hexadecimal digit. -/
def hexDigit : Builder Rule := satisfy "hex digit" isHexDigit

/-- An alphabetic character of any script. -/
def letter : Builder Rule := satisfy "letter" Unicode.isAlphabetic

/-- An alphabetic character or a number of any script. -/
def alphanumeric : Builder Rule := satisfy "alphanumeric" Unicode.isAlphanumeric

/-- A plus or minus sign. -/
def sign : Builder Rule := oneOf "+-"

/-! ## Blanks -/

/-- Any number of spaces, tabs, carriage returns and newlines. -/
def blanks : Builder Rule := do zeroOrMore (← oneOf " \t\r\n")

/-- The rule and the blanks after it. -/
def lexeme (rule : Rule) : Builder Rule := do seq [rule, ← blanks]

/-- The literal `text` and the blanks after it. -/
def symbol (text : String) : Builder Rule := do lexeme (← literal text)

/-! ## Numbers -/

/-- One or more digits. -/
def digits : Builder Rule := do oneOrMore (← digit)

/-- Digits without a point after them. -/
def integer : Builder Rule := do seq [← digits, ← notAhead (← ch '.')]

/-- The letter of an exponent, an optional sign, and digits. -/
def exponent : Builder Rule := do seq [← oneOf "eE", ← opt (← sign), ← digits]

/-- Digits with a fraction, an exponent, or both. -/
def float : Builder Rule := do
  let whole ← digits
  let fraction ← seq [← ch '.', ← digits, ← opt (← exponent)]
  seq [whole, ← choice [fraction, ← exponent]]

/-! ## Words -/

/-- A letter or underscore, then letters, numbers, underscores and points. -/
def identifier : Builder Rule := do
  let head ← choice [← letter, ← ch '_']
  seq [head, ← zeroOrMore (← choice [← alphanumeric, ← oneOf "_."])]

/-- The literal `text` without a letter or number after it. -/
def word (text : String) : Builder Rule := do
  seq [← literal text, ← notAhead (← alphanumeric)]

/-- A word and the blanks after it. -/
def keyword (text : String) : Builder Rule := do lexeme (← word text)

/-! ## Strings -/

/-- A backslash and the character that it escapes, or the letter `u` and four
hexadecimal digits. -/
def escape : Builder Rule := do
  let backslash ← ch '\\'
  let simple ← oneOf "\"'\\/bfnrt"
  let code ← seq [← ch 'u', ← hexDigit, ← hexDigit, ← hexDigit, ← hexDigit]
  seq [backslash, ← choice [simple, code]]

/-- Text between two `quote` characters, with escapes inside. -/
def quotedString (quote : Char) : Builder Rule := do
  let plain ← noneOf (String.ofList [quote, '\\'])
  let opening ← ch quote
  let body ← zeroOrMore (← choice [← escape, plain])
  seq [opening, body, ← ch quote]

/-! ## Comments -/

/-- `opening` and all that follows it on the line. -/
def lineComment (opening : String) : Builder Rule := do
  let mark ← literal opening
  seq [mark, ← zeroOrMore (← seq [← notAhead (← ch '\n'), ← any])]

/-- `opening` up to the first `closing`. -/
def blockComment (opening closing : String) : Builder Rule := do
  let mark ← literal opening
  let body ← zeroOrMore (← seq [← notAhead (← literal closing), ← any])
  seq [mark, body, ← literal closing]

/-- Blanks and comments in any order. -/
def blanksAndComments : Builder Rule := do
  let blank ← oneOrMore (← oneOf " \t\r\n")
  zeroOrMore (← choice [blank, ← lineComment "//", ← blockComment "/*" "*/"])

/-! ## Lists -/

/-- Any number of items with a separator between each two. -/
def list (item separator : Rule) : Builder Rule := do
  opt (← seq [item, ← zeroOrMore (← seq [separator, item])])

end Lexical

end Packrat
