import Packrat.Breach
import Packrat.Parse.Failure
import Packrat.Report.Snippet
import Packrat.Span

/-!
# Drawing a failed parse

A parse that got stuck is drawn on its input, with the character at the furthest
offset marked. A parse that met a limit has no place to point at and is told in
one line.
-/

namespace Packrat

namespace ParseError

/-- The title of a drawing of the error. -/
def title : ParseError → String
  | .incomplete .. => "input not fully consumed"
  | _ => "parse failed"

/-- The range of the character at `offset`; at or after the end of the text, the
empty range there. -/
def markedRange (source : String) (offset : Nat) : Except Breach Span :=
  let start := min offset source.utf8ByteSize
  match Text.dropBytes? start source.toList with
  | some (c :: _) => .ok ⟨start, start + c.utf8Size⟩
  | some [] => .ok ⟨start, start⟩
  | none => .error (.splitText start)

/-- The error drawn on the text that was parsed. -/
def render (e : ParseError) (source : String) (path : Option String) (colored : Bool) :
    Except Breach String :=
  match e.failure? with
  | none => .ok ("error: " ++ e.message)
  | some failure => do
    let range ← markedRange source failure.furthest
    let snippet : Snippet :=
      ⟨e.title, failure.display, source, range.start, range.stop, path⟩
    return snippet.render (if colored then Snippet.colorInk else Snippet.plainInk)

end ParseError

end Packrat
