import Packrat.Text.Offset

/-!
# Byte offsets into strings

What `Text.Offset` says about lists of characters, for strings, whose bytes can
be reached without walking over those before them.

- `position? n s`: the position of `s` at byte offset `n`.
- `slice? start stop s`: the part of `s` between two byte offsets.
- `before? n s`: the character that ends at byte offset `n`.
- `slice?_eq_some_iff` and `before?_append`: what these mean for a string that
  is put together from parts.
-/

namespace Packrat

namespace Text

/-- The number of bytes of a string is that of its characters. -/
@[simp] theorem utf8Length_toList (s : String) : utf8Length s.toList = s.utf8ByteSize := by
  have key (cs : List Char) : utf8Length cs = (String.ofList cs).utf8ByteSize := by
    induction cs with
    | nil => rfl
    | cons c cs ih => simp [String.ofList_cons, ih]
  rw [key, String.ofList_toList]

/-! ## Positions -/

/-- The position of `s` at byte offset `n`; `none` inside a character and past
the end. -/
def position? (n : Nat) (s : String) : Option s.Pos :=
  if h : String.Pos.Raw.isValid s ⟨n⟩ then
    some (s.pos ⟨n⟩ (String.Pos.Raw.isValid_eq_true_iff.1 h))
  else none

theorem position?_eq_some_iff {n : Nat} {s : String} {p : s.Pos} :
    position? n s = some p ↔ p.offset = ⟨n⟩ := by
  unfold position?
  split
  · rw [Option.some.injEq]
    constructor
    · rintro rfl
      rfl
    · exact fun h => String.Pos.ext h.symm
  · rename_i hn
    refine ⟨fun h => (Option.some_ne_none p h.symm).elim, fun h => absurd ?_ hn⟩
    exact h ▸ String.Pos.Raw.isValid_eq_true_iff.2 p.isValid

/-- The position that splits a string is at the offset where its first part
ends. -/
theorem position?_of_splits {s before after : String} {p : s.Pos} (h : p.Splits before after) :
    position? before.utf8ByteSize s = some p :=
  position?_eq_some_iff.2 h.offset_eq_rawEndPos

/-- Where two strings meet there is a position. -/
theorem exists_splits_append (before after : String) :
    ∃ p : (before ++ after).Pos, p.Splits before after :=
  ⟨_, String.Pos.splits_append_rawEndPos⟩

/-- A position splits its string at its offset. -/
theorem splits_of_position? {n : Nat} {s : String} {p : s.Pos} (h : position? n s = some p) :
    ∃ before after, p.Splits before after ∧ before.utf8ByteSize = n := by
  refine ⟨_, _, p.splits, ?_⟩
  have hp := p.splits.offset_eq_rawEndPos
  rw [position?_eq_some_iff.1 h] at hp
  exact (congrArg String.Pos.Raw.byteIdx hp).symm

/-- Whether byte offset `n` falls between two characters or at an end of `s`. -/
def isBoundary (n : Nat) (s : String) : Bool := (position? n s).isSome

/-- A boundary is where the string can be split. -/
theorem isBoundary_iff {n : Nat} {s : String} :
    isBoundary n s = true ↔ ∃ before after, s = before ++ after ∧ before.utf8ByteSize = n := by
  rw [isBoundary, Option.isSome_iff_exists]
  constructor
  · rintro ⟨p, hp⟩
    obtain ⟨before, after, hs, hn⟩ := splits_of_position? hp
    exact ⟨before, after, hs.eq_append, hn⟩
  · rintro ⟨before, after, rfl, rfl⟩
    obtain ⟨p, hp⟩ := exists_splits_append before after
    exact ⟨p, position?_of_splits hp⟩

/-! ## Slices -/

/-- The part of `s` between byte offsets `start` and `stop`; `none` when the
range is inverted, leaves the string or splits a character. -/
def slice? (start stop : Nat) (s : String) : Option String :=
  match position? start s, position? stop s with
  | some p, some q => if start ≤ stop then some (s.extract p q) else none
  | _, _ => none

/-- A slice is a middle part of the string. -/
theorem slice?_eq_some_iff {start stop : Nat} {s t : String} :
    slice? start stop s = some t ↔
      ∃ before after, s = before ++ t ++ after ∧ before.utf8ByteSize = start ∧
        start + t.utf8ByteSize = stop := by
  constructor
  · intro h
    unfold slice? at h
    split at h
    case h_2 => cases h
    case h_1 p q hp hq =>
      split at h
      case isFalse => cases h
      case isTrue hle =>
        have hpo := position?_eq_some_iff.1 hp
        have hqo := position?_eq_some_iff.1 hq
        have hpq : p ≤ q := by
          rw [String.Pos.le_iff, hpo, hqo]
          exact hle
        have hcopy : (s.slice p q hpq).copy = t := by
          rw [← String.extract_eq_copy_slice]
          exact Option.some.inj h
        obtain ⟨before, after, hb, ha⟩ := String.copy_slice_eq_iff_splits.1 ⟨hpq, hcopy⟩
        have hstart := hb.offset_eq_rawEndPos
        have hstop := ha.offset_eq_rawEndPos
        rw [hpo] at hstart
        rw [hqo] at hstop
        have hstart := congrArg String.Pos.Raw.byteIdx hstart
        have hstop := congrArg String.Pos.Raw.byteIdx hstop
        simp only [String.byteIdx_rawEndPos, String.utf8ByteSize_append] at hstart hstop
        exact ⟨before, after, ha.eq_append, hstart.symm, by omega⟩
  · rintro ⟨before, after, rfl, rfl, rfl⟩
    obtain ⟨p, hp⟩ := exists_splits_append before (t ++ after)
    obtain ⟨q, hq⟩ := exists_splits_append (before ++ t) after
    have hs : before ++ (t ++ after) = before ++ t ++ after := (String.append_assoc ..).symm
    obtain ⟨p, hp⟩ : ∃ p : (before ++ t ++ after).Pos, p.Splits before (t ++ after) :=
      ⟨p.cast hs, hp.cast hs⟩
    obtain ⟨hpq, hcopy⟩ := String.copy_slice_eq_iff_splits.2 ⟨before, after, hp, hq⟩
    have hqp := position?_of_splits hq
    rw [String.utf8ByteSize_append] at hqp
    simp [slice?, position?_of_splits hp, hqp, String.extract_eq_copy_slice p q hpq, hcopy]

/-! ## Looking back -/

/-- The character that ends at byte offset `n`; `none` at the start. -/
def before? (n : Nat) (s : String) : Option Char :=
  (position? n s).bind fun p => p.prev?.bind String.Pos.get?

/-- The character before an offset is the last one of the part before it. -/
theorem before?_append (before after : String) :
    before? before.utf8ByteSize (before ++ after) = before.toList.getLast? := by
  obtain ⟨p, hp⟩ := exists_splits_append before after
  simp only [before?, position?_of_splits hp, Option.bind_some]
  by_cases h : p = (before ++ after).startPos
  · have hb : before = "" := hp.eq_startPos_iff.1 h
    simp [String.Pos.prev?_eq_none h, hb]
  · obtain ⟨front, hfront⟩ := hp.exists_eq_append_singleton_of_ne_startPos h
    simp [String.Pos.prev?_eq_some_prev h, String.Pos.get?_eq_some_get, hfront]

end Text

end Packrat
