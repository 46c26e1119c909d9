/-!
# Sets of code points

A `CodeSet` is a set of Unicode scalar values kept as ascending inclusive
ranges, no two of which touch. It is what the tables of character properties
and the character classes of regular expressions are made of.

- `contains`: membership, by bisection.
- `ofRanges`: the set of any list of ranges, in any order.
- `union`, `compl`: the two basic operations. `inter`, `diff` and `symmDiff` are
  written with them.
- `decode`: reads the compact text form that the tables are stored in.
-/

namespace Packrat

namespace Unicode

/-- A set of scalar values, as ascending ranges `(lo, hi)` with both ends
included. -/
structure CodeSet where
  ranges : Array (Nat × Nat)
deriving DecidableEq, Inhabited

namespace CodeSet

/-- The set without members. -/
def empty : CodeSet := ⟨#[]⟩

/-! ## Membership -/

/-- Whether `n` lies in one of the ranges with index in `[low, high)`. -/
def containsBetween (ranges : Array (Nat × Nat)) (n low high : Nat) : Bool :=
  if low < high then
    let mid := (low + high) / 2
    let (lo, hi) := ranges.getD mid (0, 0)
    if n < lo then containsBetween ranges n low mid
    else if hi < n then containsBetween ranges n (mid + 1) high
    else true
  else false
termination_by high - low
decreasing_by
  · omega
  · omega

/-- Whether the character `c` is a member. -/
def contains (s : CodeSet) (c : Char) : Bool :=
  containsBetween s.ranges c.toNat 0 s.ranges.size

/-! ## Construction -/

/-- Adds a range that starts no earlier than those before it. `merged` holds
the ranges so far, the last one first. -/
def extend : List (Nat × Nat) → Nat × Nat → List (Nat × Nat)
  | [], range => [range]
  | (lo, hi) :: merged, (lo', hi') =>
    if lo' ≤ hi + 1 then (lo, max hi hi') :: merged else (lo', hi') :: (lo, hi) :: merged

/-- The set of the code points in any of the given ranges. -/
def ofRanges (ranges : List (Nat × Nat)) : CodeSet :=
  let sorted := (ranges.filter fun (lo, hi) => lo ≤ hi).mergeSort fun a b => a.1 ≤ b.1
  ⟨((sorted.foldl extend []).reverse).toArray⟩

/-- The set of one character. -/
def singleton (c : Char) : CodeSet := ⟨#[(c.toNat, c.toNat)]⟩

/-- The characters from `lo` to `hi`. -/
def range (lo hi : Char) : CodeSet := ofRanges [(lo.toNat, hi.toNat)]

/-- The members of either set. -/
def union (s t : CodeSet) : CodeSet := ofRanges (s.ranges.toList ++ t.ranges.toList)

/-- The ranges between the given ones, from `start` up to the last code point. -/
def gaps : Nat → List (Nat × Nat) → List (Nat × Nat)
  | start, [] => if start ≤ 0x10FFFF then [(start, 0x10FFFF)] else []
  | start, (lo, hi) :: rest =>
    if start < lo then (start, lo - 1) :: gaps (hi + 1) rest else gaps (hi + 1) rest

/-- The scalar values that are not members. The surrogate code points belong to
no set. -/
def compl (s : CodeSet) : CodeSet :=
  let withSurrogates := ofRanges ((0xD800, 0xDFFF) :: s.ranges.toList)
  ⟨(gaps 0 withSurrogates.ranges.toList).toArray⟩

/-- Every scalar value. -/
def all : CodeSet := compl empty

/-- The common members. -/
def inter (s t : CodeSet) : CodeSet := (s.compl.union t.compl).compl

/-- The members of `s` that are not in `t`. -/
def diff (s t : CodeSet) : CodeSet := s.inter t.compl

/-- The members of exactly one of the sets. -/
def symmDiff (s t : CodeSet) : CodeSet := (s.diff t).union (t.diff s)

/-- Whether every member is an ASCII character. -/
def isAscii (s : CodeSet) : Bool := s.ranges.all fun (_, hi) => hi < 0x80

/-! ## Stored tables -/

/-- The value of a hexadecimal digit. -/
def hexValue (c : Char) : Nat :=
  if c.isDigit then c.toNat - '0'.toNat else c.toNat - 'a'.toNat + 10

/-- The hexadecimal numbers of `text`, which blanks separate. -/
def numbers (text : String) : List Nat :=
  let step : List Nat × Option Nat → Char → List Nat × Option Nat
    | (done, current), c =>
      if c.isAlphanum then (done, some (16 * current.getD 0 + hexValue c))
      else (current.toList ++ done, none)
  let (done, current) := text.toList.foldl step ([], none)
  (current.toList ++ done).reverse

/-- The ranges given by pairs of a gap and an extent: a range starts `gap` after
the end of the one before it, and its last member is `extent` after its first. -/
def spread : Nat → List Nat → List (Nat × Nat)
  | cursor, gap :: extent :: rest =>
    let lo := cursor + gap
    let hi := lo + extent
    (lo, hi) :: spread hi rest
  | _, _ => []

/-- The set that `text` stores as hexadecimal pairs of a gap and an extent. -/
def decode (text : String) : CodeSet := ⟨(spread 0 (numbers text)).toArray⟩

end CodeSet

end Unicode

end Packrat
