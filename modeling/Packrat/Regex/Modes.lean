/-!
# Modes of a regular expression

The same expression can mean different things: letters may stand for both of
their cases, a dot may or may not stand for a line feed. Which of these
readings holds is the `Modes` at that place of the pattern, and a pattern
changes them with `Flag`s, as in `(?i-u)`.
-/

namespace Packrat

namespace Regex

/-- A reading that a pattern can switch on or off. -/
inductive Flag where
  /-- `i`: letters match in either case. -/
  | ignoreCase
  /-- `m`: `^` and `$` match at the ends of lines. -/
  | multiLine
  /-- `s`: the dot matches line feeds too. -/
  | dotAll
  /-- `U`: repetitions are lazy, and greedy with a question mark. -/
  | swapGreed
  /-- `u`: classes and word edges are those of Unicode. -/
  | unicode
  /-- `R`: a carriage return and a line feed end a line together. -/
  | crlf
  /-- `x`: blanks and comments in the pattern mean nothing. -/
  | ignoreBlanks
deriving DecidableEq, Repr

/-- The flag that `letter` stands for. -/
def Flag.ofLetter? : Char → Option Flag
  | 'i' => some .ignoreCase
  | 'm' => some .multiLine
  | 's' => some .dotAll
  | 'U' => some .swapGreed
  | 'u' => some .unicode
  | 'R' => some .crlf
  | 'x' => some .ignoreBlanks
  | _ => none

/-- Flags in the order written, each with whether it is switched on. -/
abbrev FlagChanges := List (Flag × Bool)

namespace FlagChanges

/-- Reads flag letters. Those after the hyphen are switched off. -/
def ofLettersFrom (on : Bool) : List Char → Option FlagChanges
  | [] => some []
  | '-' :: letters =>
    if on && !letters.isEmpty then ofLettersFrom false letters else none
  | letter :: letters => do
    let flag ← Flag.ofLetter? letter
    let changes ← ofLettersFrom on letters
    if changes.any (·.1 == flag) then none else some ((flag, on) :: changes)

/-- Reads what stands between `(?` and `:` or `)`. No flag may occur twice, and
a hyphen may occur once, before at least one flag. -/
def ofLetters? (letters : List Char) : Option FlagChanges := ofLettersFrom true letters

/-- What the changes make of `flag`, unless they leave it as it is. -/
def find? (changes : FlagChanges) (flag : Flag) : Option Bool :=
  (List.find? (·.1 == flag) changes).map (·.2)

end FlagChanges

/-- The readings that hold at one place of a pattern. -/
structure Modes where
  ignoreCase : Bool := false
  multiLine : Bool := false
  dotAll : Bool := false
  swapGreed : Bool := false
  unicode : Bool := true
  crlf : Bool := false
deriving DecidableEq, Repr, Inhabited

namespace Modes

/-- The readings after `changes`. Blanks matter to the reader of the pattern
alone, so `ignoreBlanks` changes nothing here. -/
def update (modes : Modes) (changes : FlagChanges) : Modes where
  ignoreCase := (changes.find? .ignoreCase).getD modes.ignoreCase
  multiLine := (changes.find? .multiLine).getD modes.multiLine
  dotAll := (changes.find? .dotAll).getD modes.dotAll
  swapGreed := (changes.find? .swapGreed).getD modes.swapGreed
  unicode := (changes.find? .unicode).getD modes.unicode
  crlf := (changes.find? .crlf).getD modes.crlf

end Modes

end Regex

end Packrat
