import Packrat.Text.Offset
import Packrat.Unicode.Width

/-!
# Lines of a source text

- `SourceLine.ofText`: the lines of a text, in order. A line ends at a newline; a
  carriage return before it belongs to the line end. A newline at the end of the
  text starts no further line, but a text without characters has one line.
- `SourceLine.at?`: the line of an offset, and `SourceLine.locate` its place
  there in characters and in terminal columns.
- `SourceLine.shownText`: the text of a line as a terminal can show it.
-/

namespace Packrat

/-- A line of a text. -/
structure SourceLine where
  /-- The number of the line, from 1. -/
  number : Nat
  /-- The line without its end. -/
  text : List Char
  /-- The offset at which the line starts. -/
  start : Nat
  /-- The offset after the end of the line. -/
  stop : Nat
deriving Repr

/-- A place in a text. -/
structure Location where
  line : SourceLine
  /-- The characters before the place, one more when it is past the text of its
  line. -/
  chars : Nat
  /-- The terminal columns before the place. -/
  columns : Nat
deriving Repr

namespace SourceLine

/-- The line whose characters, the last one first, are `reversed`, and which a
newline follows. -/
def ended (number start : Nat) (reversed : List Char) : SourceLine :=
  let stop := start + Text.utf8Length reversed + 1
  match reversed with
  | '\r' :: rest => ⟨number, rest.reverse, start, stop⟩
  | _ => ⟨number, reversed.reverse, start, stop⟩

/-- The lines of the rest of a text, where `reversed` are the characters of the
current line so far, the last one first. -/
def scan (number start : Nat) (reversed : List Char) : List Char → List SourceLine
  | [] =>
    if reversed.isEmpty then []
    else [⟨number, reversed.reverse, start, start + Text.utf8Length reversed⟩]
  | '\n' :: rest =>
    let line := ended number start reversed
    line :: scan (number + 1) line.stop [] rest
  | c :: rest => scan number start (c :: reversed) rest

/-- The lines of a text. There is at least one. -/
def ofText (source : List Char) : List SourceLine :=
  match scan 1 0 [] source with
  | [] => [⟨1, [], 0, 0⟩]
  | lines => lines

/-- The line that holds the offset; the last one, if none does. -/
def at? (lines : List SourceLine) (offset : Nat) : Option SourceLine :=
  (lines.find? fun line => line.start ≤ offset && offset < line.stop).or lines.getLast?

/-- The columns of a tab. -/
def tabColumns : Nat := 4

/-- A character as it is shown: a tab as spaces, a control character other than
a newline as its picture. Characters that would change the direction of the text
are replaced, and joiners are dropped. -/
def shown (c : Char) : List Char :=
  let n := c.toNat
  if c = '\n' then [c]
  else if c = '\t' then List.replicate tabColumns ' '
  else if n < 0x20 then [Char.ofNat (0x2400 + n)]
  else if n = 0x7F then ['␡']
  -- the joiner of emoji sequences
  else if n = 0x200D then []
  -- embeddings, overrides and isolates
  else if (0x202A ≤ n && n ≤ 0x202E) || (0x2066 ≤ n && n ≤ 0x2069) then ['\ufffd']
  else [c]

/-- The text of the line as it is shown. -/
def shownText (line : SourceLine) : List Char := line.text.flatMap shown

/-- The terminal columns that a character is shown in. A control character
without a picture takes one. -/
def columnsOf (c : Char) : Nat :=
  (shown c).foldl (fun n c => n + (Unicode.columns? c).getD 1) 0

/-- The terminal columns that several characters are shown in. -/
def columnsOfAll (cs : List Char) : Nat := cs.foldl (fun n c => n + columnsOf c) 0

/-- The characters of `cs` before the byte offset `n`, a cut character left
out. -/
def upTo : Nat → List Char → List Char
  | _, [] => []
  | n, c :: cs => if c.utf8Size ≤ n then c :: upTo (n - c.utf8Size) cs else []

/-- The place of an offset in its line. -/
def locate (line : SourceLine) (offset : Nat) : Location :=
  let before := upTo (offset - line.start) line.text
  -- the line end counts as one character, whatever it consists of
  let past := if Text.utf8Length line.text < offset - line.start then 1 else 0
  ⟨line, before.length + past, columnsOfAll before⟩

end SourceLine

end Packrat
