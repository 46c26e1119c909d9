import Packrat.Text.Hex
import Packrat.Unicode.Character

/-!
# Escaped text

- `escapeQuoted`: text for between double quotes. Quotes, backslashes and
  control characters are written with a backslash, so the result stays on one
  line and its end can be found.
- `escapeMarkup`: text for the content of an XML element.
-/

namespace Packrat

namespace Text

/-- The form of one character between double quotes. -/
def escapeQuotedChar (c : Char) : List Char :=
  if c = '"' then ['\\', '"']
  else if c = '\\' then ['\\', '\\']
  else if c = '\n' then ['\\', 'n']
  else if c = '\r' then ['\\', 'r']
  else if c = '\t' then ['\\', 't']
  else if Unicode.isControl c then ['\\', 'u'] ++ hex4 c.toNat
  else [c]

/-- `s` for between double quotes. -/
def escapeQuoted (s : String) : String :=
  String.ofList (s.toList.flatMap escapeQuotedChar)

/-- The form of one character in XML content. -/
def escapeMarkupChar (c : Char) : List Char :=
  if c = '&' then ['&', 'a', 'm', 'p', ';']
  else if c = '<' then ['&', 'l', 't', ';']
  else if c = '>' then ['&', 'g', 't', ';']
  else if c = '"' then ['&', 'q', 'u', 'o', 't', ';']
  else [c]

/-- `s` as XML content. -/
def escapeMarkup (s : String) : String :=
  String.ofList (s.toList.flatMap escapeMarkupChar)

end Text

end Packrat
