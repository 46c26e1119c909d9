import Packrat.Unicode.Addition
import Packrat.Unicode.BinaryProperty
import Packrat.Unicode.Category

/-!
# Classes of characters

The classes that rules and printers ask for. They know the characters of the
property tables and those of `Addition`. ASCII characters are decided without a
table.
-/

namespace Packrat

namespace Unicode

/-- Letters, and marks and numbers used like letters. -/
def letters : CodeSet := BinaryProperty.alphabetic.union Addition.alphabetic

/-- The numbers of all three kinds. -/
def numbers : CodeSet :=
  (Category.anyOf [.decimalNumber, .letterNumber, .otherNumber]).union Addition.numbers

/-- The characters with a visible form: all but controls, format characters,
separators, private use, code points that are not assigned, and what is not shown
when unsupported. -/
def visible : CodeSet :=
  let hidden := [Category.control, .format, .privateUse, .lineSeparator,
    .paragraphSeparator, .spaceSeparator]
  let shown := Category.anyOf (Category.all.filter (!hidden.contains ·))
  (shown.union Addition.visible).diff BinaryProperty.defaultIgnorableCodePoint

/-- The voicing marks of half-width katakana. They extend a grapheme, but take a
place of their own. -/
def halfwidthVoicingMarks : CodeSet := .range '\uFF9E' '\uFF9F'

/-- The characters that are drawn as part of the one before them. -/
def joining : CodeSet :=
  (BinaryProperty.graphemeExtend.union Addition.graphemeExtend).diff halfwidthVoicingMarks

/-- Whether `c` is a letter, or a mark or number used like one. -/
def isAlphabetic (c : Char) : Bool :=
  if c.toNat < 0x80 then c.isAlpha else letters.contains c

/-- Digits and other numbers. -/
def isNumeric (c : Char) : Bool :=
  if c.toNat < 0x80 then c.isDigit else numbers.contains c

/-- Alphabetic characters and numbers. -/
def isAlphanumeric (c : Char) : Bool := isAlphabetic c || isNumeric c

/-- The control characters: below the space, and from U+007F to U+009F. -/
def isControl (c : Char) : Bool :=
  c.toNat < 0x20 || (0x7F ≤ c.toNat && c.toNat < 0xA0)

/-- Blanks. -/
def isWhiteSpace (c : Char) : Bool :=
  if c.toNat < 0x80 then c == ' ' || (9 ≤ c.toNat && c.toNat ≤ 13)
  else BinaryProperty.whiteSpace.contains c

/-- Characters that are drawn as part of the one before them. -/
def isJoining (c : Char) : Bool := 0x80 ≤ c.toNat && joining.contains c

/-- Characters that show: the space and all characters with a visible form. -/
def isPrintable (c : Char) : Bool :=
  if c.toNat < 0x80 then 0x20 ≤ c.toNat && c.toNat < 0x7F else visible.contains c

end Unicode

end Packrat
