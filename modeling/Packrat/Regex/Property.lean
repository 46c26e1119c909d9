import Packrat.Unicode.Age
import Packrat.Unicode.BinaryProperty
import Packrat.Unicode.Category
import Packrat.Unicode.Script
import Packrat.Unicode.Segmentation

/-!
# Character properties by name

`\p` names a set of characters by a property: `\p{Alphabetic}`, `\p{Lu}`,
`\p{Greek}`, `\p{scx=Grek}`. Names are compared in a normal form that leaves out
case, blanks, hyphens and underscores.
-/

namespace Packrat

namespace Regex

open Unicode

namespace Property

/-- The normal form of a name: its ASCII characters in lower case, without
blanks, hyphens and underscores, and without a leading `is`. The name `isc` is
kept whole, because `c` alone is a category. -/
def normalize (name : List Char) : String :=
  let squeeze (cs : List Char) : String :=
    .ofList ((cs.filter fun c =>
      c.toNat < 0x80 && c != ' ' && c != '_' && c != '-').map Char.toLower)
  match name with
  | i :: s :: rest =>
    if i.toLower == 'i' && s.toLower == 's' then
      let name := squeeze rest
      if name == "c" then "isc" else name
    else squeeze name
  | _ => squeeze name

/-- The set that `name` names in `sets`. -/
def lookup? (sets : List (List String × CodeSet)) (name : String) : Option CodeSet :=
  (sets.find? fun (names, _) => names.contains name).map (·.2)

/-! ## General categories -/

/-- The code points that have a category other than unassigned. -/
def assigned : CodeSet := Category.anyOf Category.all

/-- The long names of the categories, beside their abbreviations. -/
def categoryNames : Category → List String
  | .control => ["control", "cntrl"]
  | .format => ["format"]
  | .privateUse => ["privateuse"]
  | .lowercaseLetter => ["lowercaseletter"]
  | .modifierLetter => ["modifierletter"]
  | .otherLetter => ["otherletter"]
  | .titlecaseLetter => ["titlecaseletter"]
  | .uppercaseLetter => ["uppercaseletter"]
  | .spacingMark => ["spacingmark"]
  | .enclosingMark => ["enclosingmark"]
  | .nonspacingMark => ["nonspacingmark"]
  | .decimalNumber => ["decimalnumber", "digit"]
  | .letterNumber => ["letternumber"]
  | .otherNumber => ["othernumber"]
  | .connectorPunctuation => ["connectorpunctuation"]
  | .dashPunctuation => ["dashpunctuation"]
  | .closePunctuation => ["closepunctuation"]
  | .finalPunctuation => ["finalpunctuation"]
  | .initialPunctuation => ["initialpunctuation"]
  | .otherPunctuation => ["otherpunctuation"]
  | .openPunctuation => ["openpunctuation"]
  | .currencySymbol => ["currencysymbol"]
  | .modifierSymbol => ["modifiersymbol"]
  | .mathSymbol => ["mathsymbol"]
  | .otherSymbol => ["othersymbol"]
  | .lineSeparator => ["lineseparator"]
  | .paragraphSeparator => ["paragraphseparator"]
  | .spaceSeparator => ["spaceseparator"]

/-- The set of a general category or of a group of them, by a normal name. -/
def category? (name : String) : Option CodeSet :=
  match name with
  | "any" => some .all
  | "ascii" => some (.ofRanges [(0, 0x7F)])
  | "assigned" => some assigned
  | "cn" | "unassigned" => some assigned.compl
  | "c" | "other" =>
    some ((Category.anyOf [.control, .format, .privateUse]).union assigned.compl)
  | "l" | "letter" =>
    some (Category.anyOf
      [.lowercaseLetter, .modifierLetter, .otherLetter, .titlecaseLetter, .uppercaseLetter])
  | "lc" | "casedletter" =>
    some (Category.anyOf [.lowercaseLetter, .titlecaseLetter, .uppercaseLetter])
  | "m" | "mark" | "combiningmark" =>
    some (Category.anyOf [.spacingMark, .enclosingMark, .nonspacingMark])
  | "n" | "number" => some (Category.anyOf [.decimalNumber, .letterNumber, .otherNumber])
  | "p" | "punctuation" | "punct" =>
    some (Category.anyOf
      [.connectorPunctuation, .dashPunctuation, .closePunctuation, .finalPunctuation,
       .initialPunctuation, .otherPunctuation, .openPunctuation])
  | "s" | "symbol" =>
    some (Category.anyOf [.currencySymbol, .modifierSymbol, .mathSymbol, .otherSymbol])
  | "z" | "separator" =>
    some (Category.anyOf [.lineSeparator, .paragraphSeparator, .spaceSeparator])
  | _ =>
    (Category.all.find? fun category =>
      normalize category.abbreviation.toList == name
        || (categoryNames category).contains name).map Category.members

/-! ## Scripts and ages -/

/-- The characters of a script. -/
def script? (name : String) : Option CodeSet := lookup? Unicode.Script.named name

/-- The characters that a script is used with. -/
def scriptExtensions? (name : String) : Option CodeSet :=
  (lookup? Unicode.Script.extensions name).orElse fun _ => script? name

/-- The code points that were assigned in the version `name` or before it. -/
def age? (name : String) : Option CodeSet :=
  let older := Unicode.Age.named.takeWhile fun (names, _) => !names.contains name
  match Unicode.Age.named.drop older.length with
  | [] => none
  | (_, newest) :: _ =>
    some (.ofRanges ((older.map (·.2) ++ [newest]).flatMap (·.ranges.toList)))

/-! ## Queries -/

/-- The set of a property that is named without a value: a binary property, a
general category or a script. The names `cf`, `sc` and `lc` are categories,
though they also abbreviate properties that need a value. -/
def named? (name : List Char) : Option CodeSet :=
  let name := normalize name
  let binary := if ["cf", "sc", "lc"].contains name then none
    else lookup? BinaryProperty.named name
  binary.orElse fun _ => (category? name).orElse fun _ => script? name

/-- The set of the characters whose property `name` has the value `value`. -/
def valued? (name value : List Char) : Option CodeSet :=
  let value := normalize value
  match normalize name with
  | "gc" | "generalcategory" => category? value
  | "sc" | "script" => script? value
  | "scx" | "scriptextensions" => scriptExtensions? value
  | "age" => age? value
  | "gcb" | "graphemeclusterbreak" => lookup? Unicode.Segmentation.graphemeBreaks value
  | "wb" | "wordbreak" => lookup? Unicode.Segmentation.wordBreaks value
  | "sb" | "sentencebreak" => lookup? Unicode.Segmentation.sentenceBreaks value
  | _ => none

/-- Cuts `text` in front of the first place where `mark` stands, and after it. -/
def cutAt? (mark : List Char) : List Char → Option (List Char × List Char)
  | [] => none
  | c :: text =>
    if mark.isPrefixOf (c :: text) then some ([], (c :: text).drop mark.length)
    else (cutAt? mark text).map fun (before, after) => (c :: before, after)

/-- What the text between the braces of `\p{…}` asks for: the members of a
property, or with `true` the characters that are not members. The name of a
property and its value are parted by `!=`, which asks for all other values, or by
a colon or an equals sign. -/
def ofText? (text : List Char) : Option (CodeSet × Bool) :=
  match cutAt? ['!', '='] text with
  | some (name, value) => (valued? name value).map (·, true)
  | none =>
    match (cutAt? [':'] text).or (cutAt? ['='] text) with
    | some (name, value) => (valued? name value).map (·, false)
    | none => (named? text).map (·, false)

end Property

end Regex

end Packrat
