import Packrat.Unicode.CodeSet

/-!
# Added characters

The tables of properties that patterns ask for hold the characters of version
16.0 of the standard. Here are those that version 17.0 added, by the classes that
rules and printers ask for.
-/

namespace Packrat

namespace Unicode

namespace Addition

/-- Letters, and marks and numbers used like letters. -/
def alphabetic : CodeSet := .decode
  "88f 0 3cd 0 80 0 9af2 1 3 0 2 0 1d 0 614f 19 56c 2 33 1 c65 7 249 2b 50c5 18 3 18 11f 4
    1802 7 50a 15 62 72 58ce 1e 2 15 9 1 d03b 5 1763 b 5503 10c9"

/-- Numbers of all three kinds. -/
def numbers : CodeSet := .decode
  "11de0 9 520b 2"

/-- Characters that extend a grapheme. -/
def graphemeExtend : CodeSet := .decode
  "1acf e 3 b f40f 1 c65 0 2 2 2 0 cb7d 0 3 0 8 1 6 0"

/-- Characters with a visible form. -/
def visible : CodeSet := .decode
  "88f 0 3cd 0 80 0 df3 e 3 b 5d6 0 ad5 0 7c38 1 3 0 2 0 1d 0 53d2 f 1be 1 37 6 b72 19 56c 2
    9 8 22 1 c65 7 249 2b 5 9 50b7 18 3 18 11f 4 1802 7 50a 15 62 72 3f08 2 1be 16 10 10 17d0
    1e 2 15 9 1 fd9 0 9f 3 156 8 17c 3 33 0 4 0 3a 0 5 0 1d 0 5 0 10b 0 bb40 5 1763 b 5503
    10c9"

end Addition

end Unicode

end Packrat
