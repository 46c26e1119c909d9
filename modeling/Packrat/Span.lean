import Packrat.Breach

/-!
# Spans

A `Span` is a half-open range `[start, stop)` of byte offsets into a source
text. `Span.make` is the checked constructor: it refuses a range that ends
before it starts.
-/

namespace Packrat

/-- The half-open byte range `[start, stop)`. -/
structure Span where
  start : Nat
  stop : Nat
deriving DecidableEq, Repr, Inhabited

namespace Span

/-- The range from `start` to `stop`, which must not be inverted. -/
def make (start stop : Nat) : Except Breach Span :=
  if start ≤ stop then .ok ⟨start, stop⟩ else .error (.invertedSpan start stop)

/-- The range of no bytes at `offset`. -/
def empty (offset : Nat) : Span := ⟨offset, offset⟩

/-- The number of bytes in the range. -/
def length (s : Span) : Nat := s.stop - s.start

/-- Whether the range holds no bytes. -/
def isEmpty (s : Span) : Bool := s.start == s.stop

/-- Whether `inner` lies entirely inside `outer`. -/
def contains (outer inner : Span) : Bool :=
  decide (outer.start ≤ inner.start) && decide (inner.stop ≤ outer.stop)

/-- The smallest range that covers both. -/
def cover (s t : Span) : Except Breach Span :=
  make (min s.start t.start) (max s.stop t.stop)

/-- The range as `start..stop`. -/
def display (s : Span) : String :=
  toString s.start ++ ".." ++ toString s.stop

instance : ToString Span := ⟨display⟩

theorem make_eq_ok_iff {start stop : Nat} {s : Span} :
    make start stop = .ok s ↔ start ≤ stop ∧ s = ⟨start, stop⟩ := by
  unfold make
  by_cases h : start ≤ stop <;> simp [h, eq_comm]

theorem contains_iff {outer inner : Span} :
    outer.contains inner = true ↔ outer.start ≤ inner.start ∧ inner.stop ≤ outer.stop := by
  simp [contains]

end Span

end Packrat
