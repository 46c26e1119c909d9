import Packrat.Parse.Context

/-!
# The record of expectations

A context keeps what was wanted at the furthest failure. As a function of what
is wanted, that record is simple, and wanting something twice is wanting it
once. This is why a remembered outcome may be replayed without the failures
that led to it.

- `Failure.note f want`: the record after `want`, an offset and a description.
- `Failure.noteAll`: the record after several wants.
- `Failure.Knows f want`: noting `want` changes nothing. A record never forgets
  what it knows (`Failure.Knows.note`), not even where it is full or has moved
  on to a further offset.
- `Context.failure_expect`: what a context does with an expectation.
-/

namespace Packrat

/-- Something that was wanted: where, and its description. -/
abbrev Want := Nat × String

namespace Failure

/-- The record after `want`: a further offset starts it anew, a nearer one does
not count, and at the same offset there is room for so many descriptions. -/
def note (f : Failure) (want : Want) : Failure :=
  if want.1 < f.furthest then f
  else if f.furthest < want.1 then ⟨want.1, [want.2]⟩
  else if f.expected.length < Context.maxExpected ∧ want.2 ∉ f.expected then
    { f with expected := f.expected ++ [want.2] }
  else f

/-- The record after all of `wants` in order. -/
def noteAll (f : Failure) (wants : List Want) : Failure := wants.foldl note f

/-- The record would not change for `want`. -/
def Knows (f : Failure) (want : Want) : Prop := f.note want = f

variable {f : Failure} {want other : Want} {wants : List Want}

@[simp] theorem noteAll_nil : f.noteAll [] = f := rfl

@[simp] theorem noteAll_cons : f.noteAll (want :: wants) = (f.note want).noteAll wants := rfl

theorem noteAll_append (wants wants' : List Want) :
    f.noteAll (wants ++ wants') = (f.noteAll wants).noteAll wants' :=
  List.foldl_append

/-- What makes a want known: it is nearer, or it stands in the record, or the
record is full. -/
theorem knows_iff :
    f.Knows want ↔ want.1 < f.furthest ∨
      want.1 = f.furthest ∧ (Context.maxExpected ≤ f.expected.length ∨ want.2 ∈ f.expected) := by
  obtain ⟨furthest, expected⟩ := f
  obtain ⟨pos, description⟩ := want
  unfold Knows note
  dsimp only
  by_cases hnear : pos < furthest
  · simp [hnear]
  · by_cases hfar : furthest < pos
    · rw [if_neg hnear, if_pos hfar, mk.injEq]
      constructor
      · rintro ⟨rfl, -⟩
        exact absurd hfar (Nat.lt_irrefl _)
      · rintro (h | ⟨rfl, -⟩)
        · exact absurd h hnear
        · exact absurd hfar (Nat.lt_irrefl _)
    · have heq : pos = furthest := by omega
      rw [if_neg hnear, if_neg hfar]
      split
      · rename_i hopen
        have hnot : ¬Context.maxExpected ≤ expected.length := Nat.not_le.2 hopen.1
        simp [hnear, hnot, hopen.2]
      · rename_i hclosed
        refine iff_of_true rfl (.inr ⟨heq, ?_⟩)
        rcases Nat.lt_or_ge expected.length Context.maxExpected with hlt | hge
        · exact .inr (Decidable.not_not.1 fun hmem => hclosed ⟨hlt, hmem⟩)
        · exact .inl hge

theorem furthest_note : (f.note want).furthest = max f.furthest want.1 := by
  unfold note
  split
  · simp only [Nat.max_def]; split <;> omega
  · split
    · simp only [Nat.max_def]; split <;> omega
    · split <;> (simp only [Nat.max_def]; split <;> omega)

/-- At an offset that stays the furthest, descriptions are only added. -/
theorem expected_prefix_note (h : want.1 ≤ f.furthest) :
    f.expected <+: (f.note want).expected := by
  unfold note
  split
  · exact List.prefix_rfl
  · rw [if_neg (by omega)]
    split
    · exact List.prefix_append ..
    · exact List.prefix_rfl

/-- A want that was noted is known. -/
theorem knows_note_self (f : Failure) (want : Want) : (f.note want).Knows want := by
  rw [knows_iff, furthest_note]
  by_cases hnear : want.1 < f.furthest
  · exact .inl (by omega)
  · refine .inr ⟨by omega, ?_⟩
    unfold note
    rw [if_neg hnear]
    split
    · exact .inr (List.mem_singleton_self _)
    · split
      · exact .inr (List.mem_append_right _ (List.mem_singleton_self _))
      · rename_i hclosed
        rcases Nat.lt_or_ge f.expected.length Context.maxExpected with hlt | hge
        · exact .inr (Decidable.not_not.1 fun hmem => hclosed ⟨hlt, hmem⟩)
        · exact .inl hge

/-- What is known stays known. -/
theorem Knows.note (h : f.Knows want) (other : Want) : (f.note other).Knows want := by
  rw [knows_iff] at h ⊢
  rw [furthest_note]
  by_cases hfar : f.furthest < other.1
  · exact .inl (by omega)
  · have hkept : f.expected <+: (f.note other).expected := expected_prefix_note (by omega)
    have hlen := hkept.length_le
    rcases h with hnear | ⟨heq, hfull | hmem⟩
    · exact .inl (by omega)
    · exact .inr ⟨by omega, .inl (by omega)⟩
    · exact .inr ⟨by omega, .inr (hkept.subset hmem)⟩

theorem Knows.noteAll (h : f.Knows want) (wants : List Want) : (f.noteAll wants).Knows want := by
  induction wants generalizing f with
  | nil => exact h
  | cons other rest ih => exact ih (h.note other)

/-- All that was noted is known. -/
theorem knows_noteAll (h : want ∈ wants) : (f.noteAll wants).Knows want := by
  induction wants generalizing f with
  | nil => cases h
  | cons other rest ih =>
    rcases List.mem_cons.1 h with rfl | h
    · exact (knows_note_self f want).noteAll rest
    · exact ih h

/-- **Noting again changes nothing**: what is known may be left out. -/
theorem noteAll_eq_self (h : ∀ want ∈ wants, f.Knows want) : f.noteAll wants = f := by
  induction wants with
  | nil => rfl
  | cons want rest ih =>
    have hhead : f.note want = f := h want List.mem_cons_self
    rw [noteAll_cons, hhead]
    exact ih fun other hmem => h other (List.mem_cons_of_mem _ hmem)

end Failure

namespace Context

variable {cx : Context} {pos : Nat}

/-- A context that heeds a failure notes what was wanted. -/
theorem failure_expect_of_heeds (description : String) (h : cx.heeds pos = true) :
    (cx.expect pos description).failure = cx.failure.note (pos, description) := by
  have hle : cx.furthest ≤ pos := by
    simp only [heeds, Bool.and_eq_true, decide_eq_true_eq] at h
    exact h.2
  by_cases hfar : cx.furthest < pos
  · have hnear : ¬pos < cx.furthest := by omega
    simp [expect, isOpenTo, h, reach, hfar, want, failure, Failure.note, maxExpected, hnear]
  · have hnear : ¬pos < cx.furthest := by omega
    by_cases hroom : cx.expected.length < maxExpected
    · by_cases hmem : description ∈ cx.expected <;>
        simp [expect, isOpenTo, h, reach, hfar, want, failure, Failure.note, hnear, hroom, hmem]
    · simp [expect, isOpenTo, reach, hfar, failure, Failure.note, hnear, hroom]

/-- An expectation is noted unless a lookahead is open. -/
theorem failure_expect (cx : Context) (pos : Nat) (description : String) :
    (cx.expect pos description).failure =
      if cx.quiet = 0 then cx.failure.note (pos, description) else cx.failure := by
  cases hheeds : cx.heeds pos with
  | true =>
    have hquiet : cx.quiet = 0 := by
      simp only [heeds, Bool.and_eq_true, beq_iff_eq] at hheeds
      exact hheeds.1
    rw [if_pos hquiet, failure_expect_of_heeds description hheeds]
  | false =>
    have hsame : cx.expect pos description = cx := by simp [expect, isOpenTo, hheeds]
    rw [hsame]
    split
    · rename_i hquiet
      have hnear : pos < cx.furthest := by simpa [heeds, hquiet] using hheeds
      simp [Failure.note, failure, hnear]
    · rfl

end Context

end Packrat
