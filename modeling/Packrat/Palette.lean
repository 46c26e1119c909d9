/-!
# Terminal colours

A `Palette` holds the escape codes that an outline or a trace writes around its
parts: names in blue, matched text in green, failures in red, offsets dimmed.
In `Palette.plain` every code is empty, so a writer uses the codes without
asking whether colour is wanted.
-/

namespace Packrat

/-- The escape codes written around the parts of a line. -/
structure Palette where
  blue : String
  green : String
  red : String
  dim : String
  reset : String
deriving DecidableEq, Repr

namespace Palette

/-- The sixteen-colour terminal codes. -/
def ansi : Palette where
  blue := "\x1b[34m"
  green := "\x1b[32m"
  red := "\x1b[31m"
  dim := "\x1b[2m"
  reset := "\x1b[0m"

/-- No codes at all, so that output is plain text. -/
def plain : Palette := ⟨"", "", "", "", ""⟩

/-- Codes or plain text, as wanted. -/
def ofEnabled (enabled : Bool) : Palette := if enabled then ansi else plain

/-- Whether the palette writes any codes. -/
def isEnabled (p : Palette) : Bool := !p.blue.isEmpty

/-- `text` between `color` and a reset; `text` itself when there is no colour. -/
def paint (p : Palette) (color text : String) : String :=
  if color.isEmpty then text else color ++ text ++ p.reset

end Palette

end Packrat
