import Packrat.Json
import Packrat.Palette
import Packrat.Text.Escape
import Packrat.Text.Inspect
import Packrat.Token.Basic

/-!
# Token trees as text

- `Token.outline`: one line per token, indented by depth, a leaf followed by its
  quoted text. `Token.dump` is the outline without colour.
- `Token.toXml`: one element per token, leaf text as content. A leaf without
  text closes itself.
- `Token.toJson`: an object with the name, the span as a pair of offsets, and
  the text of a leaf or the children of a composite.
- `Token.inspect`: the record of the same parts.
-/

namespace Packrat

namespace Token

/-! ## Outline -/

mutual

/-- The lines of the outline of `t`, `depth` levels down. -/
def outlineLines (palette : Palette) (depth : Nat) : Token → List String
  | ⟨name, source, span, children⟩ =>
    let head := String.join (List.replicate depth "  ")
      ++ palette.blue ++ name ++ palette.reset
    match children with
    | [] =>
      [head ++ " " ++ palette.green ++ "\""
        ++ Text.escapeQuoted (text ⟨name, source, span, []⟩) ++ "\"" ++ palette.reset]
    | child :: rest =>
      head :: (outlineLines palette (depth + 1) child
        ++ outlineLinesAll palette (depth + 1) rest)

/-- The lines of the outlines of several tokens. -/
def outlineLinesAll (palette : Palette) (depth : Nat) : List Token → List String
  | [] => []
  | t :: ts => outlineLines palette depth t ++ outlineLinesAll palette depth ts

end

/-- One line per token, in the colours of `palette`. -/
def outline (palette : Palette) (t : Token) : String :=
  "\n".intercalate (outlineLines palette 0 t)

/-- The outline without colour. -/
def dump (t : Token) : String := outline .plain t

/-! ## XML -/

mutual

/-- One element per token. -/
def toXml : Token → String
  | ⟨name, source, span, children⟩ =>
    match children with
    | [] =>
      if span.isEmpty then "<" ++ name ++ "/>"
      else
        "<" ++ name ++ ">" ++ Text.escapeMarkup (text ⟨name, source, span, []⟩)
          ++ "</" ++ name ++ ">"
    | child :: rest =>
      "<" ++ name ++ ">" ++ (toXml child ++ toXmlAll rest) ++ "</" ++ name ++ ">"

/-- The elements of several tokens. -/
def toXmlAll : List Token → String
  | [] => ""
  | t :: ts => toXml t ++ toXmlAll ts

end

/-! ## JSON -/

mutual

/-- The JSON document of a token. -/
def document : Token → Json
  | ⟨name, source, span, children⟩ =>
    let head := [("name", Json.string name),
      ("span", Json.array [.number span.start, .number span.stop])]
    match children with
    | [] => .object (head ++ [("text", .string (text ⟨name, source, span, []⟩))])
    | child :: rest =>
      .object (head ++ [("children", .array (document child :: documents rest))])

/-- The JSON documents of several tokens. -/
def documents : List Token → List Json
  | [] => []
  | t :: ts => document t :: documents ts

end

/-- The token as JSON text, indented or without blanks. -/
def toJson (indented : Bool) (t : Token) : String :=
  if indented then t.document.pretty else t.document.compact

/-! ## Records -/

end Token

/-- The record of a span's ends. -/
def Span.inspect (s : Span) : Text.Inspect :=
  .record "Span" [("start", .number s.start), ("end", .number s.stop)]

namespace Token

mutual

/-- The record of a token's parts. -/
def inspect : Token → Text.Inspect
  | ⟨name, source, span, children⟩ =>
    let head := [("name", Text.Inspect.string name), ("span", span.inspect)]
    match children with
    | [] => .record "Token" (head ++ [("text", .string (text ⟨name, source, span, []⟩))])
    | child :: rest =>
      .record "Token" (head ++ [("children", .list (inspect child :: inspectAll rest))])

/-- The records of several tokens. -/
def inspectAll : List Token → List Text.Inspect
  | [] => []
  | t :: ts => inspect t :: inspectAll ts

end

end Token

/-- The record of a palette's codes. -/
def Palette.inspect (p : Palette) : Text.Inspect :=
  .record "Colors" [("blue", .string p.blue), ("green", .string p.green),
    ("red", .string p.red), ("dim", .string p.dim), ("reset", .string p.reset)]

end Packrat
