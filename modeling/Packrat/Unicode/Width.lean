import Packrat.Unicode.CodeSet

/-!
# Display width

How many terminal columns a character takes: none for characters that only
modify their neighbours, two for wide characters of East Asian scripts and for
emoji, one for nearly all others. Control characters have no width of their own.
-/

namespace Packrat

namespace Unicode

namespace Width

/-- Characters that take no column: ignorable ones, those that extend a grapheme,
vowels and final consonants of Hangul syllables, and signs that are drawn around
or above the characters after them. The half-width voicing marks, the filler of a
leading consonant and the joiner U+2D7F do take columns. -/
def zero : CodeSet := .decode
  "ad 0 253 6f 114 6 108 2c 2 0 2 1 2 1 2 1 3d 0 b a 2 0 2f 14 11 0 66 6 3 5 3 1 2 3 22 0 2 0
    1f 1a 5c a 3b 8 a 0 19 3 2 8 2 2 2 4 2c 2 35 1 6 8 2b 38 38 0 2 0 5 7 5 0 4 6 b 1 1e 0 3b
    0 2 0 3 3 9 0 a 0 b 1 1b 0 3 1 3a 0 5 1 5 1 3 2 4 0 1f 1 4 0 c 1 3a 0 5 4 2 1 5 0 15 1 17
    5 2 0 3b 0 2 1 2 3 9 0 6 4 b 1 1f 0 3c 0 2 0 d 0 a 0 29 0 4 0 38 0 2 2 6 2 2 3 8 1 c 1 1e
    0 3b 0 3 1 2 0 4 2 2 3 8 1 c 1 1d 1 3a 1 2 0 3 3 9 1 9 0 b 1 1e 0 49 0 5 0 3 2 2 0 9 0 52
    0 3 6 d 7 63 0 3 8 c 6 4a 1 1c 0 2 0 2 0 38 d 2 4 2 1 6 a 2 23 a 0 67 3 2 5 2 1 3 1 1a 1 5
    2 11 3 e 0 3 1 7 0 10 0 c3 9f 15e 2 3b3 3 1d 2 1e 1 1f 1 41 1 2 6 9 0 3 a a 0 2e 4 76 1 23
    0 77 2 5 1 a 0 7 2 dc 1 3 0 3b 0 2 6 2 0 2 0 3 7 7 9 3 0 31 2d 3 b 15 3 31 9 5 2 27 8 d 1
    21 3 3 5 39 0 2 1 4 0 2 4 39 7 3 1 99 2 2 c 2 6 5 0 7 0 4 1 c7 3f 20c 4 1b 4 32 f 61 20
    bff 2 ef 1f 22b 5 6a 1 ca 0 750b 3 2 9 21 1 51 1 111 0 4 0 5 0 1a 1 6 0 98 1 1b 11 9 0 5 0
    27 7 1a a 2 0 2d 2 31 0 3 3 3 1 3 0 25 0 44 5 3 1 3 1 d 0 9 0 30 0 34 0 2 2 3 1 6 1 2 0 2b
    1 9 0 ef 0 3 0 5 0 2bc3 16 5 30 2323 0 2e2 f 11 f d0 0 a1 0 50 8 205 0 e3 0 96 4 687 2 2 1
    6 3 29 2 5 0 a6 1 23e 3 42 4 13e 1 4e 5 47 a 32 3 7c 0 37 e 2a 0 3 1 b 2 32 3 3 1 8 0 3e 2
    25 4 2 7 3f 0 d 1 35 8 2 0 2 1 6 3 3 0 60 2 3 3 7 0 3 0 9e 0 4 7 16 1 3a 1 2 0 2 0 d 0 a 0
    f 6 4 4 44 0 3 5 2 0 3 0 2 2 5 4 f 1 56 7 3 2 2 0 18 0 52 0 3 5 2 0 3 0 2 1 2 1 ec 0 3 3 7
    1 2 1 1c 1 56 7 3 0 2 1 6b 0 2 0 3 7 66 0 2 0 3 3 2 4 104 8 2 1 f6 0 b 4 2 0 2 0 91 3 3 1
    5 0 21 9 29 5 2 4 9 0 a 5 3 2 29 12 2 1 c7 0 2 2 2 0 ca 6 2 5 2 0 53 15 3 6 2 1 2 1 7b 5 4
    0 2 1 2 8 49 1 4 0 2 0 15c 1 c 2 34 4 6 2 18 0 14e6 0 7 e 2cc9 b 4 2 9c1 4 3c 6 419 0 40 3
    52 0 c 1 4cac 1 2 3 125d 2d 3 16 21f 4 4 15 3 6 1f 3 95 2 7bc 36 5 31 9 0 f 0 17 4 2 e 551
    6 2 10 3 6 2 1 2 4 65 0 a1 6 178 0 3e 3 1fd 3 ff 1 f4 0 3 0 8 1 6 0 1db 6 6e 6 c16b6 fff"

/-- Characters that take two columns: wide and full-width ones, and the vowel
U+17A4, which stands for two letters. -/
def wide : CodeSet := .decode
  "1100 5f 645 0 b76 1 e 1 bf 3 4 0 3 0 20a 1 16 1 1b 7 11 b 2c 0 b 5 4 0 e 0 9 1 12 1 6 1 9
    0 6 0 16 0 8 1 2 0 5 0 3 0 8 0 5 1 1d 0 24 0 2 0 5 2 2 0 3e 2 19 0 f 0 35c 1 34 0 5 0 32b
    19 2 58 d d5 1b 39 7 e 3 55 5 64 6 2a 2 32 2 29 2 55 a 2f 2 27 9 723c 4 36 49a 1c 284 2ba3
    215d 1ff 311 9 17 22 2 12 2 3 96 5f 80 6 6ffa 3 f 4 a 1cd5 2a 1f 62 72 21fe 3 2 6 2 1 2
    122 10 0 1e 2 3 0 f 3 9 18b 2005 56 a 16 1c8e 0 cb 0 bf 0 3 9 66 2 e 2b 5 8 8 1 f 5 9b 20
    d 8 2 45 2 15 d 2a 5 4 d 10 4 0 4 46 2 0 2 ba 3 3e e 3 2 17 13 0 1b 1 e 0 57 54 31 45 7 0
    4 2 3 3 4 3 c 1 8 8 e4 b 5 0 11c 2e 2 9 2 b8 71 c 4 a 4 38 2 0 5 f 3 b 5 9 508 fffd 3 fffd"

/-- The sign U+17D8, which stands for three letters, takes three columns. -/
def triple : Char := '\u17D8'

end Width

/-- The number of columns that `c` takes; `none` for a control character. -/
def columns? (c : Char) : Option Nat :=
  if c.toNat < 0x20 || (0x7F ≤ c.toNat && c.toNat < 0xA0) then none
  else if c.toNat < 0x7F then some 1
  else if Width.zero.contains c then some 0
  else if Width.wide.contains c then some 2
  else if c = Width.triple then some 3
  else some 1

end Unicode

end Packrat
