import Packrat.Text.Hex

/-!
# JSON documents

`Json` is the type of the documents that results are exported as: numbers are
counts and offsets, so they are natural numbers. `Json.compact` writes a
document without blanks, and `Json.pretty` one value a line with two spaces a
level. Both write a string by `quote`, which escapes quotes, backslashes and
the characters below the space and leaves all others as they are.
-/

namespace Packrat

/-- A JSON document of natural numbers, strings, arrays and objects. -/
inductive Json where
  | number (n : Nat)
  | string (s : String)
  | array (items : List Json)
  | object (fields : List (String × Json))

namespace Json

/-- The form of one character in a string. -/
def escapeChar (c : Char) : List Char :=
  if c = '"' then ['\\', '"']
  else if c = '\\' then ['\\', '\\']
  else if c = '\x08' then ['\\', 'b']
  else if c = '\t' then ['\\', 't']
  else if c = '\n' then ['\\', 'n']
  else if c = '\x0c' then ['\\', 'f']
  else if c = '\r' then ['\\', 'r']
  else if c.toNat < 0x20 then ['\\', 'u'] ++ Text.hex4 c.toNat
  else [c]

/-- `s` as a JSON string, with its quotes. -/
def quote (s : String) : String :=
  String.ofList (['"'] ++ s.toList.flatMap escapeChar ++ ['"'])

/-! ## Without blanks -/

mutual

/-- The document without blanks. -/
def compact : Json → String
  | .number n => toString n
  | .string s => quote s
  | .array items => "[" ++ ",".intercalate (compactItems items) ++ "]"
  | .object fields => "\x7b" ++ ",".intercalate (compactFields fields) ++ "\x7d"

/-- Each document without blanks. -/
def compactItems : List Json → List String
  | [] => []
  | item :: rest => compact item :: compactItems rest

/-- Each field without blanks. -/
def compactFields : List (String × Json) → List String
  | [] => []
  | (key, value) :: rest => (quote key ++ ":" ++ compact value) :: compactFields rest

end

/-! ## Indented -/

/-- The parts of an array or object, one a line, between its brackets. -/
def enclose (opening margin : String) (parts : List String) (closing : String) : String :=
  if parts.isEmpty then opening ++ closing
  else
    opening ++ "\n" ++ ",\n".intercalate (parts.map (margin ++ "  " ++ ·))
      ++ "\n" ++ margin ++ closing

mutual

/-- The document one value a line. `margin` is the indentation of the line that
it starts on. -/
def prettyAt (margin : String) : Json → String
  | .number n => toString n
  | .string s => quote s
  | .array items => enclose "[" margin (prettyItems (margin ++ "  ") items) "]"
  | .object fields => enclose "\x7b" margin (prettyFields (margin ++ "  ") fields) "\x7d"

/-- Each document, one value a line. -/
def prettyItems (margin : String) : List Json → List String
  | [] => []
  | item :: rest => prettyAt margin item :: prettyItems margin rest

/-- Each field, one value a line. -/
def prettyFields (margin : String) : List (String × Json) → List String
  | [] => []
  | (key, value) :: rest =>
    (quote key ++ ": " ++ prettyAt margin value) :: prettyFields margin rest

end

/-- The document one value a line. -/
def pretty (document : Json) : String := prettyAt "" document

end Json

end Packrat
