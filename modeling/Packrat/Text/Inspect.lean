import Packrat.Text.Quoted

/-!
# Structured values as text

An `Inspect` is the shape of a value to be shown: an atom, a record with named
fields, a wrapped value, a list or a map. `Inspect.compact` writes it on one
line and `Inspect.pretty` with one part a line, each level indented by four
spaces and each part followed by a comma.
-/

namespace Packrat

namespace Text

/-- The shape of a value to be shown. -/
inductive Inspect where
  /-- Text that is written as it is. -/
  | atom (text : String)
  /-- A record with a name and fields. -/
  | record (name : String) (fields : List (String × Inspect))
  /-- One value under a name. -/
  | wrapped (name : String) (value : Inspect)
  | list (items : List Inspect)
  | map (entries : List (String × Inspect))

namespace Inspect

/-- A string, shown as a literal. -/
def string (s : String) : Inspect := .atom (quoted s)

/-- A number, shown in decimal. -/
def number (n : Nat) : Inspect := .atom (toString n)

/-- A truth value. -/
def bool (b : Bool) : Inspect := .atom (if b then "true" else "false")

/-- An optional value. -/
def option (value : Option Inspect) : Inspect :=
  match value with
  | none => .atom "None"
  | some v => .wrapped "Some" v

/-! ## On one line -/

mutual

/-- The value on one line. -/
def compact : Inspect → String
  | .atom text => text
  | .record name [] => name
  | .record name fields =>
    name ++ " \x7b " ++ ", ".intercalate (compactFields fields) ++ " \x7d"
  | .wrapped name value => name ++ "(" ++ compact value ++ ")"
  | .list items => "[" ++ ", ".intercalate (compactItems items) ++ "]"
  | .map entries => "\x7b" ++ ", ".intercalate (compactFields entries) ++ "\x7d"

/-- Each value on one line. -/
def compactItems : List Inspect → List String
  | [] => []
  | value :: rest => compact value :: compactItems rest

/-- Each named value on one line. -/
def compactFields : List (String × Inspect) → List String
  | [] => []
  | (name, value) :: rest => (name ++ ": " ++ compact value) :: compactFields rest

end

/-! ## On several lines -/

/-- `body` between two brackets, or the brackets alone when it is empty. -/
def enclose (opening : String) (margin : String) (body : List String)
    (closing : String) : String :=
  if body.isEmpty then opening ++ closing
  else opening ++ "\n" ++ String.join body ++ margin ++ closing

mutual

/-- The value with one part a line. `margin` is the indentation of the line
that it starts on. -/
def prettyAt (margin : String) : Inspect → String
  | .atom text => text
  | .record name [] => name
  | .record name fields =>
    enclose (name ++ " \x7b") margin (prettyFields (margin ++ "    ") fields) "\x7d"
  | .wrapped name value =>
    enclose (name ++ "(") margin
      [margin ++ "    " ++ prettyAt (margin ++ "    ") value ++ ",\n"] ")"
  | .list items => enclose "[" margin (prettyItems (margin ++ "    ") items) "]"
  | .map entries =>
    enclose "\x7b" margin (prettyFields (margin ++ "    ") entries) "\x7d"

/-- Each value as a line of its own, or several. -/
def prettyItems (margin : String) : List Inspect → List String
  | [] => []
  | value :: rest => (margin ++ prettyAt margin value ++ ",\n") :: prettyItems margin rest

/-- Each named value as a line of its own, or several. -/
def prettyFields (margin : String) : List (String × Inspect) → List String
  | [] => []
  | (name, value) :: rest =>
    (margin ++ name ++ ": " ++ prettyAt margin value ++ ",\n") :: prettyFields margin rest

end

/-- The value with one part a line. -/
def pretty (value : Inspect) : String := prettyAt "" value

end Inspect

end Text

end Packrat
