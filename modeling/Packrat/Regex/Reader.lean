import Packrat.Regex.Expression
import Packrat.Regex.Property
import Packrat.Text.Hex
import Packrat.Unicode.Character

/-!
# Reading patterns

`Expression.read?` reads a pattern into an `Expression`, or refuses it.

A `Reader` takes characters off the front of a `Cursor` and may fail. Loops take
a bound: each turn consumes a character, so the number of characters that are
left is bound enough.
-/

namespace Packrat

namespace Regex

open Unicode (CodeSet isWhiteSpace)

/-- Where the reading of a pattern stands. -/
structure Cursor where
  /-- The pattern from here on. -/
  rest : List Char
  /-- Whether blanks and comments mean nothing here. -/
  ignoreBlanks : Bool := false
  /-- The names that groups have so far. -/
  groupNames : List (List Char) := []

/-- Reads a part of a pattern. -/
abbrev Reader := StateT Cursor Option

namespace Reader

/-! ## Characters -/

/-- The pattern from here on. -/
def rest : Reader (List Char) := return (← get).rest

/-- Goes on with `rest`. -/
def goTo (rest : List Char) : Reader Unit := modify ({ · with rest })

/-- Takes the next character. Fails at the end. -/
def next : Reader Char := do
  match ← rest with
  | [] => failure
  | c :: more => goTo more; return c

/-- Takes the next character, which has to be `c`. -/
def expect (c : Char) : Reader Unit := do
  if (← next) != c then failure

/-- `text` without the blanks and comments at its front. A comment runs from a
`#` to the end of the line, and `inComment` tells that `text` starts in one. -/
def dropBlanks (inComment : Bool) : List Char → List Char
  | [] => []
  | c :: text =>
    if inComment then dropBlanks (c != '\n') text
    else if isWhiteSpace c then dropBlanks false text
    else if c == '#' then dropBlanks true text
    else c :: text

/-- Skips blanks and comments where they mean nothing. -/
def skipBlanks : Reader Unit := do
  if (← get).ignoreBlanks then goTo (dropBlanks false (← rest))

/-- Takes up to `bound` characters for which `test` holds. Skips blanks after
each. -/
def takeWhile (test : Char → Bool) : (bound : Nat) → Reader (List Char)
  | 0 => return []
  | bound + 1 => do
    match ← rest with
    | [] => return []
    | c :: more =>
      if test c then
        goTo more
        skipBlanks
        return c :: (← takeWhile test bound)
      else return []

/-- Takes the characters at the front for which `test` holds. -/
def takeAll (test : Char → Bool) : Reader (List Char) := do
  takeWhile test (← rest).length

/-! ## Numbers -/

/-- The scalar value that hexadecimal `digits` give. -/
def scalar? (digits : List Char) : Option Char :=
  let n := digits.foldl (fun n c => 16 * n + (Text.hexDigit? c).getD 0) 0
  if h : n.isValidChar then some (Char.ofNatAux n h) else none

/-- Reads a number without sign of at most 32 bits. -/
def decimal : Reader Nat := do
  goTo ((← rest).dropWhile isWhiteSpace)
  let digits ← takeAll Char.isDigit
  let _ ← takeAll isWhiteSpace
  if digits.isEmpty then failure
  let n := digits.foldl (fun n c => 10 * n + (c.toNat - '0'.toNat)) 0
  if n < UInt32.size then return n else failure

/-- Takes `count` hexadecimal digits. Skips blanks after each. -/
def hexDigits : (count : Nat) → Reader (List Char)
  | 0 => return []
  | count + 1 => do
    let c ← next
    if (Text.hexDigit? c).isNone then failure
    skipBlanks
    return c :: (← hexDigits count)

/-- Reads what follows `\x`, `\u` or `\U`: `count` digits, or any number of
digits in braces. -/
def hexLiteral (count : Nat) : Reader Literal := do
  skipBlanks
  match ← rest with
  | '\x7b' :: more =>
    goTo more
    skipBlanks
    let digits ← takeAll fun c => (Text.hexDigit? c).isSome
    expect '\x7d'
    if digits.isEmpty then failure
    return ⟨← scalar? digits, false⟩
  | _ =>
    let digits ← hexDigits count
    return ⟨← scalar? digits, count == 2⟩

/-! ## Escapes -/

/-- Reads what follows `\p` or `\P`: one letter, or text in braces. -/
def property (negated : Bool) : Reader SetExpression := do
  skipBlanks
  match ← next with
  | '\x7b' =>
    skipBlanks
    let text ← takeAll (· != '\x7d')
    expect '\x7d'
    let (members, excluded) ← Property.ofText? text
    return .property members (negated != excluded)
  | '\\' => failure
  | letter => return .property (← Property.named? [letter]) negated

/-- Reads the braces that may follow `\b`. A brace in front of anything but a
letter or a hyphen is left alone, because it counts repetitions. -/
def wordEdge : Reader WordEdge := do
  let isNamePart (c : Char) : Bool := c.isAlpha || c == '-'
  let start ← get
  match start.rest with
  | '\x7b' :: more =>
    goTo more
    skipBlanks
    match ← rest with
    | [] => failure
    | c :: _ =>
      if isNamePart c then
        let name ← takeAll isNamePart
        expect '\x7d'
        match String.ofList name with
        | "start" => return .start
        | "end" => return .finish
        | "start-half" => return .startHalf
        | "end-half" => return .finishHalf
        | _ => failure
      else
        set start
        return .boundary
  | _ => return .boundary

/-- Whether a backslash in front of `c` only takes a special meaning away. -/
def isEscapable (c : Char) : Bool :=
  c.toNat < 0x80 && !c.isAlphanum && c != '<' && c != '>'

/-- Reads what follows a backslash. -/
def escape : Reader Expression := do
  let literal (c : Char) : Reader Expression := return .literal ⟨c, false⟩
  let shorthand (s : Shorthand) (negated : Bool) : Reader Expression :=
    return .oneOf (.shorthand s negated)
  let anchor (a : Anchor) : Reader Expression := return .anchor a
  match ← next with
  | 'x' => return .literal (← hexLiteral 2)
  | 'u' => return .literal (← hexLiteral 4)
  | 'U' => return .literal (← hexLiteral 8)
  | 'p' => return .oneOf (← property false)
  | 'P' => return .oneOf (← property true)
  | 'd' => shorthand .digit false
  | 'D' => shorthand .digit true
  | 's' => shorthand .space false
  | 'S' => shorthand .space true
  | 'w' => shorthand .word false
  | 'W' => shorthand .word true
  | 'a' => literal '\x07'
  | 'f' => literal '\x0c'
  | 'n' => literal '\n'
  | 'r' => literal '\r'
  | 't' => literal '\t'
  | 'v' => literal '\x0b'
  | 'A' => anchor .textStart
  | 'z' => anchor .textEnd
  | 'b' => return .anchor (.word (← wordEdge))
  | 'B' => anchor (.word .noBoundary)
  | '<' => anchor (.word .start)
  | '>' => anchor (.word .finish)
  | c => if isEscapable c then literal c else failure

/-! ## Sets in brackets -/

/-- The set of the characters from `lo` to `hi`, for each pair. -/
def charRanges (pairs : List (Char × Char)) : CodeSet :=
  .ofRanges (pairs.map fun (lo, hi) => (lo.toNat, hi.toNat))

/-- The sets of ASCII characters that have a name of their own in brackets. -/
def posixSet? : String → Option CodeSet
  | "alnum" => charRanges [('0', '9'), ('A', 'Z'), ('a', 'z')]
  | "alpha" => charRanges [('A', 'Z'), ('a', 'z')]
  | "ascii" => charRanges [('\x00', '\x7f')]
  | "blank" => charRanges [('\t', '\t'), (' ', ' ')]
  | "cntrl" => charRanges [('\x00', '\x1f'), ('\x7f', '\x7f')]
  | "digit" => charRanges [('0', '9')]
  | "graph" => charRanges [('!', '~')]
  | "lower" => charRanges [('a', 'z')]
  | "print" => charRanges [(' ', '~')]
  | "punct" => charRanges [('!', '/'), (':', '@'), ('[', '\x60'), ('\x7b', '~')]
  | "space" => charRanges [('\t', '\r'), (' ', ' ')]
  | "upper" => charRanges [('A', 'Z')]
  | "word" => charRanges [('0', '9'), ('A', 'Z'), ('_', '_'), ('a', 'z')]
  | "xdigit" => charRanges [('0', '9'), ('A', 'F'), ('a', 'f')]
  | _ => none

/-- Reads `:name:]` or `:^name:]` off the front of a text that follows an opening
bracket. With any other text, the bracket opens a nested set. -/
def posix? : List Char → Option (SetExpression × List Char)
  | ':' :: '^' :: text => named true text
  | ':' :: text => named false text
  | _ => none
where
  named (negated : Bool) (text : List Char) : Option (SetExpression × List Char) :=
    match text.dropWhile (· != ':') with
    | ':' :: ']' :: rest =>
      (posixSet? (.ofList (text.takeWhile (· != ':')))).map fun members =>
        (.posix members negated, rest)
    | _ => none

/-- Reads what follows an opening bracket: whether the set is negated, and the
hyphens or the closing bracket that stand for themselves there. -/
def bracketOpening : Reader (Bool × List SetExpression) := do
  skipBlanks
  let negated ← match ← rest with
    | '^' :: more => do
      goTo more
      skipBlanks
      pure true
    | _ => pure false
  let hyphens ← takeAll (· == '-')
  match hyphens, ← rest with
  | [], ']' :: more =>
    goTo more
    skipBlanks
    return (negated, [.literal ⟨']', false⟩])
  | _, _ => return (negated, hyphens.map fun c => .literal ⟨c, false⟩)

/-- Reads one character of a set, or one escape. -/
def setItem : Reader Expression := do
  match ← next with
  | '\\' => escape
  | c => return .literal ⟨c, false⟩

/-- The first character of `text` that is neither a blank nor the sign of the
first comment. -/
def firstVisible? (text : List Char) : Option Char :=
  match text.dropWhile isWhiteSpace with
  | '#' :: more => (more.dropWhile isWhiteSpace).head?
  | more => more.head?

/-- Reads one item of a set: a range, or a single character or escape. A hyphen
makes a range unless the bracket closes after it or another hyphen follows. -/
def setRange : Reader SetExpression := do
  let first ← setItem
  skipBlanks
  let single : Reader SetExpression :=
    match first with
    | .literal l => return .literal l
    | .oneOf s => return s
    | _ => failure
  match ← rest with
  | [] => failure
  | '-' :: more =>
    let following := if (← get).ignoreBlanks then firstVisible? more else more.head?
    if following == some ']' || following == some '-' then single
    else
      goTo more
      skipBlanks
      match first, ← setItem with
      | .literal lo, .literal hi => if lo.char ≤ hi.char then return .range lo hi else failure
      | _, _ => failure
  | _ => single

/-- Joins the items of the last operand, the last one first, to the operands on
their left. -/
def joinOperand (left? : Option (SetOperator × SetExpression)) (items : List SetExpression) :
    SetExpression :=
  let right := SetExpression.ofItems items.reverse
  match left? with
  | none => right
  | some (operator, left) => .binary operator left right

/-- Reads the items of a set up to its closing bracket. `left?` is what stands
left of the last operator, and `items` are the items since then, the last one
first. -/
def setItems : (bound : Nat) → (left? : Option (SetOperator × SetExpression)) →
    (items : List SetExpression) → Reader SetExpression
  | 0, _, _ => failure
  | bound + 1, left?, items => do
    skipBlanks
    match ← rest with
    | '[' :: more =>
      match posix? more with
      | some (item, more) =>
        goTo more
        setItems bound left? (item :: items)
      | none =>
        goTo more
        let (negated, leading) ← bracketOpening
        let inner ← setItems bound none leading.reverse
        setItems bound left? (.bracketed negated inner :: items)
    | ']' :: more =>
      goTo more
      return joinOperand left? items
    | '&' :: '&' :: more =>
      goTo more
      setItems bound (some (.intersection, joinOperand left? items)) []
    | '-' :: '-' :: more =>
      goTo more
      setItems bound (some (.difference, joinOperand left? items)) []
    | '~' :: '~' :: more =>
      goTo more
      setItems bound (some (.symmetricDifference, joinOperand left? items)) []
    | _ => setItems bound left? ((← setRange) :: items)

/-- Reads a set in brackets, after the opening bracket. -/
def bracketed : Reader SetExpression := do
  let bound := (← rest).length
  let (negated, leading) ← bracketOpening
  return .bracketed negated (← setItems bound none leading.reverse)

/-! ## Repetitions -/

/-- Whether a question mark follows, which makes a repetition lazy. -/
def lazyMark : Reader Bool := do
  match ← rest with
  | '?' :: more => goTo more; return true
  | _ => return false

/-- Repeats the last of `items`, which come the last one first. There has to be
one, and a switch cannot be repeated. -/
def repeatLast (items : List Expression) (least : Nat) (most? : Option Nat) (greedy : Bool) :
    Reader (List Expression) :=
  match items with
  | [] | .switch _ :: _ => failure
  | operand :: others => return .repetition operand least most? greedy :: others

/-- Reads the counts of a repetition, after the opening brace. -/
def counts : Reader (Nat × Option Nat) := do
  skipBlanks
  let least ← decimal
  match ← next with
  | '\x7d' => return (least, some least)
  | ',' =>
    skipBlanks
    match ← rest with
    | '\x7d' :: more =>
      goTo more
      return (least, none)
    | _ =>
      let most ← decimal
      expect '\x7d'
      if most < least then failure
      return (least, some most)
  | _ => failure

/-! ## Groups -/

/-- What an opening parenthesis starts. -/
inductive Opening where
  /-- A switch, which ends with its parenthesis. -/
  | switch (changes : FlagChanges)
  /-- A group, whose expression follows. -/
  | group (changes : FlagChanges)

/-- Reads the name of a group up to the closing angle bracket. A name is new in
its pattern and starts with a letter or an underscore. -/
def groupName : Reader Unit := do
  let text ← rest
  let name := text.takeWhile (· != '>')
  goTo (text.drop name.length)
  expect '>'
  let isFirst (c : Char) : Bool := c == '_' || Unicode.isAlphabetic c
  let isLater (c : Char) : Bool :=
    c == '_' || c == '.' || c == '[' || c == ']' || Unicode.isAlphanumeric c
  match name with
  | [] => failure
  | c :: more =>
    if !isFirst c || !more.all isLater then failure
    if (← get).groupNames.contains name then failure
    modify fun cursor => { cursor with groupNames := name :: cursor.groupNames }

/-- Reads the flags that follow `(?`, up to a closing parenthesis or a colon. -/
def flags : Reader Opening := do
  let text ← rest
  let letters := text.takeWhile fun c => c != ':' && c != ')'
  goTo (text.drop letters.length)
  let changes ← FlagChanges.ofLetters? letters
  match ← next with
  | ':' => return .group changes
  | _ => if changes.isEmpty then failure else return .switch changes

/-- Reads what follows an opening parenthesis. -/
def opening : Reader Opening := do
  skipBlanks
  match ← rest with
  | '?' :: 'P' :: '<' :: more | '?' :: '<' :: more =>
    goTo more
    groupName
    return .group []
  | '?' :: more =>
    goTo more
    flags
  | _ => return .group []

/-- Lets `changes` decide whether blanks mean something from here on. -/
def obey (changes : FlagChanges) : Reader Unit :=
  modify fun cursor =>
    { cursor with ignoreBlanks := (changes.find? .ignoreBlanks).getD cursor.ignoreBlanks }

/-! ## Expressions -/

/-- Reads an expression up to a closing parenthesis, which it leaves, or up to
the end. `branches` are the branches before this one and `items` the items of
this one, both the last one first. -/
def expression : (bound : Nat) → (branches items : List Expression) → Reader Expression
  | 0, _, _ => failure
  | bound + 1, branches, items => do
    skipBlanks
    match ← rest with
    | [] | ')' :: _ =>
      return Expression.ofBranches (Expression.ofItems items.reverse :: branches).reverse
    | '|' :: more =>
      goTo more
      expression bound (Expression.ofItems items.reverse :: branches) []
    | '(' :: more =>
      goTo more
      match ← opening with
      | .switch changes =>
        obey changes
        expression bound branches (.switch changes :: items)
      | .group changes =>
        let outer := (← get).ignoreBlanks
        obey changes
        let inner ← expression bound [] []
        expect ')'
        -- what a group switches holds up to its parenthesis
        modify ({ · with ignoreBlanks := outer })
        expression bound branches (.group changes inner :: items)
    | '[' :: more =>
      goTo more
      expression bound branches (.oneOf (← bracketed) :: items)
    | '?' :: more =>
      goTo more
      expression bound branches (← repeatLast items 0 (some 1) !(← lazyMark))
    | '*' :: more =>
      goTo more
      expression bound branches (← repeatLast items 0 none !(← lazyMark))
    | '+' :: more =>
      goTo more
      expression bound branches (← repeatLast items 1 none !(← lazyMark))
    | '\x7b' :: more =>
      goTo more
      let (least, most?) ← counts
      skipBlanks
      expression bound branches (← repeatLast items least most? !(← lazyMark))
    | '\\' :: more =>
      goTo more
      expression bound branches ((← escape) :: items)
    | '.' :: more =>
      goTo more
      expression bound branches (.dot :: items)
    | '^' :: more =>
      goTo more
      expression bound branches (.anchor .lineStart :: items)
    | '$' :: more =>
      goTo more
      expression bound branches (.anchor .lineEnd :: items)
    | c :: more =>
      goTo more
      expression bound branches (.literal ⟨c, false⟩ :: items)

end Reader

/-- Reads a whole pattern. -/
def Expression.read? (pattern : String) : Option Expression := do
  let text := pattern.toList
  let (expression, cursor) ← (Reader.expression (text.length + 1) [] []).run { rest := text }
  if cursor.rest.isEmpty && expression.nesting ≤ nestingLimit then some expression else none

end Regex

end Packrat
