import Packrat.Text.Hex
import Packrat.Unicode.Character

/-!
# Quoted literals

Text as a literal that shows every character: what would be invisible, or would
melt into the character before it, is written by its code point. A string
literal stands in double quotes and a character literal in single quotes; each
escapes its own quote only.
-/

namespace Packrat

namespace Text

/-- The form of `c` in a literal whose quote is `quote`. -/
def quotedChar (quote c : Char) : List Char :=
  if c = '\x00' then ['\\', '0']
  else if c = '\t' then ['\\', 't']
  else if c = '\r' then ['\\', 'r']
  else if c = '\n' then ['\\', 'n']
  else if c = '\\' then ['\\', '\\']
  else if c = quote then ['\\', c]
  else if Unicode.isJoining c || !Unicode.isPrintable c then
    ['\\', 'u', '\x7b'] ++ hex c.toNat ++ ['\x7d']
  else [c]

/-- `s` as a string literal. -/
def quoted (s : String) : String :=
  String.ofList (['"'] ++ s.toList.flatMap (quotedChar '"') ++ ['"'])

/-- `c` as a character literal. -/
def quotedCharacter (c : Char) : String :=
  String.ofList (['\x27'] ++ quotedChar '\x27' c ++ ['\x27'])

end Text

end Packrat
