import Packrat.Report.SourceLine
import Packrat.Unicode.Character

/-!
# Annotated source

A `Snippet` shows the part of a source text that a message is about: the line,
carets under the part, and a label after them. A part that runs over a line end
is drawn with a bar on the left from its first to its last line.

```text
error: parse failed
 --> input.txt:1:3
  |
1 | abc
  |   ^ expected 'x' at byte 2
```
-/

namespace Packrat

/-- A message about a range of a source text. -/
structure Snippet where
  title : String
  label : String
  source : String
  /-- The range, as byte offsets. -/
  start : Nat
  stop : Nat
  /-- The name of the file that the text is from. -/
  path : Option String

namespace Snippet

/-- The codes around the parts of a drawing. -/
structure Ink where
  /-- Around the gutter: line numbers, bars and the arrow. -/
  gutter : String → String
  /-- Around carets and labels. -/
  mark : String → String
  /-- Around the title. -/
  title : String → String

/-- No codes. -/
def plainInk : Ink := ⟨id, id, id⟩

/-- Blue for the gutter, red for marks, all bold. -/
def colorInk : Ink where
  gutter text := "\x1b[1m\x1b[94m" ++ text ++ "\x1b[0m"
  mark text := "\x1b[1m\x1b[91m" ++ text ++ "\x1b[0m"
  title text := "\x1b[1m" ++ text ++ "\x1b[0m"

/-- `n` copies of `c`. -/
def run (n : Nat) (c : Char) : String := String.ofList (List.replicate n c)

/-- A blank and `text`, or nothing when there is no text. -/
def spaced (text : String) : String := if text.isEmpty then "" else " " ++ text

/-- The row of a source line, with `margin` before its text. A number that is
longer than `width` uses up the blank after it. -/
def sourceRow (ink : Ink) (width : Nat) (margin : String) (line : SourceLine) : String :=
  let number := toString line.number
  ink.gutter number ++ run (width + 1 - number.length) ' ' ++ ink.gutter "|"
    ++ spaced (margin ++ String.ofList line.shownText)

/-- A row without a source line. -/
def gutterRow (ink : Ink) (width : Nat) (content : String) : String :=
  run (width + 1) ' ' ++ ink.gutter "|" ++ spaced content

/-- The rows of a range inside one line. -/
def singleRows (s : Snippet) (ink : Ink) (width : Nat) (start stop : Location) :
    List String :=
  let carets := run (max 1 (stop.columns - start.columns)) '^'
  [sourceRow ink width "" start.line,
   gutterRow ink width (run start.columns ' ' ++ ink.mark carets ++ " " ++ ink.mark s.label)]

/-- Whether only blanks stand before a place, in as many characters of its line
as there are columns before it. -/
def isIndentation (place : Location) : Bool :=
  (place.line.shownText.take place.columns).all Unicode.isWhiteSpace

/-- The rows of a range that starts at the end of one line and ends at the start
of the next. The bar starts beside the first line when only blanks stand before
the range, and below it otherwise. -/
def crossingRows (s : Snippet) (ink : Ink) (width : Nat) (start stop : Location) :
    List String :=
  let beside (mark : String) (line : SourceLine) : String :=
    sourceRow ink width (if line.shownText.isEmpty then mark else mark ++ " ") line
  let opening :=
    if isIndentation start then [beside "/" start.line]
    else
      [sourceRow ink width "  " start.line,
       gutterRow ink width (" " ++ run (start.columns + 1) '_' ++ "^")]
  opening ++ [beside "|" stop.line, gutterRow ink width ("|_^ " ++ s.label)]

/-- The drawing. -/
def render (s : Snippet) (ink : Ink) : String :=
  let lines := SourceLine.ofText s.source.toList
  match SourceLine.at? lines s.start, SourceLine.at? lines s.stop with
  | some first, some last =>
    let start := first.locate s.start
    let stop := last.locate s.stop
    -- the line that the range ends at may have a longer number
    let width := (toString start.line.number).length
    let title := ink.mark "error" ++ ink.title (": " ++ s.title)
    let place := match s.path with
      | some path =>
        [run width ' ' ++ ink.gutter "--> " ++ path ++ ":" ++ toString start.line.number
          ++ ":" ++ toString (start.chars + 1)]
      | none => []
    let body :=
      if start.line.number = stop.line.number then s.singleRows ink width start stop
      else s.crossingRows ink width start stop
    "\n".intercalate ([title] ++ place ++ [gutterRow ink width ""] ++ body)
  | _, _ => ""

end Snippet

end Packrat
