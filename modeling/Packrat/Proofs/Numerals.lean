import Mathlib.Data.List.TakeWhile
import Packrat.Proofs.Alone
import Packrat.Proofs.ArithmeticReading
import Packrat.Proofs.JsonReading

/-!
# Numbers are read as far as they go

The rules for numbers try their parts in order and never come back to one of them, and a part
that is begun may be given up. What is read is the longest numeral nevertheless: a part ends
where no digit follows, so that a shorter one would have to go on with a digit, and nothing
that may stand behind it does.

- `Lexical.EndInDigits`: the texts of digits, fractions and exponents, of which one that no
  digit follows is the longest. `Lexical.exists_cut`: a text is cut accordingly.
- `Lexical.LongestNumeral`, `Lexical.Cut.longest`: the parts that are cut off are the longest
  numeral.
- `Lexical.Dangling`: digits with a point and no fraction, of which no number is made.
- `Lexical.numbers_exact`: what parses with the rules for numbers find.
-/

namespace Packrat

open Text (Avoids utf8Length)

/-! ## Texts that end in digits -/

namespace Lexical

open Arithmetic (Numeral)

variable {texts : List Char → Prop} {text read other whole part power rest rest' : List Char}

/-- Every text begins with a run of characters of which `p` holds, as long as there are some. -/
theorem exists_run (p : Char → Bool) (text : List Char) :
    ∃ run rest, text = run ++ rest ∧ (∀ c ∈ run, p c = true) ∧ Avoids p rest := by
  refine ⟨text.takeWhile p, text.dropWhile p, List.takeWhile_append_dropWhile.symm,
    fun c hc => List.mem_takeWhile_imp hc, fun c hc => ?_⟩
  have hhead := List.head?_dropWhile_not p text
  rw [hc] at hhead
  simpa using hhead

/-- A run that ends elsewhere in the text ends earlier, and in front of more of it. -/
theorem run_cases {p : Char → Bool} (h : ∀ c ∈ read, p c = true) (h' : ∀ c ∈ other, p c = true)
    (hrest : Avoids p rest) (heq : other ++ rest' = read ++ rest) :
    (other = read ∧ rest' = rest) ∨ (other <+: read ∧ ¬Avoids p rest') := by
  rcases List.append_eq_append_iff.1 heq with ⟨more, rfl, rfl⟩ | ⟨more, rfl, rfl⟩
  · cases more with
    | nil => exact .inl ⟨(List.append_nil _).symm, rfl⟩
    | cons c more =>
      have hc : p c = true := h c (by simp)
      refine .inr ⟨List.prefix_append _ _, fun hends => ?_⟩
      rw [hends c rfl] at hc
      cases hc
  · cases more with
    | nil => exact .inl ⟨List.append_nil _, rfl⟩
    | cons c more =>
      have hc : p c = true := h' c (by simp)
      rw [hrest c rfl] at hc
      cases hc

/-- Texts to which digits may be added. One of them that ends elsewhere in a text than another
one, behind which there is no digit, ends earlier and in front of a digit. -/
structure EndInDigits (texts : List Char → Prop) : Prop where
  append : ∀ {text digits : List Char}, texts text → (∀ c ∈ digits, c.isDigit = true) →
    texts (text ++ digits)
  cases : ∀ {read other rest rest' : List Char}, texts read → Avoids Char.isDigit rest →
    texts other → other ++ rest' = read ++ rest →
      (other = read ∧ rest' = rest) ∨ (other <+: read ∧ ¬Avoids Char.isDigit rest')

theorem endInDigits_digits : EndInDigits Digits where
  append h hdigits := ⟨by simp [h.1], List.forall_mem_append.2 ⟨h.2, hdigits⟩⟩
  cases h hrest h' heq := run_cases h.2 h'.2 hrest heq

theorem endInDigits_fraction : EndInDigits Fraction where
  append := by
    rintro _ more ⟨digits, hdigits, rfl⟩ hmore
    exact ⟨digits ++ more, endInDigits_digits.append hdigits hmore, rfl⟩
  cases := by
    rintro _ _ rest rest' ⟨digits, hdigits, rfl⟩ hrest ⟨digits', hdigits', rfl⟩ heq
    rw [List.cons_append, List.cons_append, List.cons_inj_right] at heq
    rcases endInDigits_digits.cases hdigits hrest hdigits' heq with ⟨rfl, rfl⟩ | ⟨hshort, hgoes⟩
    · exact .inl ⟨rfl, rfl⟩
    · exact .inr ⟨List.cons_prefix_cons.2 ⟨rfl, hshort⟩, hgoes⟩

theorem endInDigits_exponent : EndInDigits Exponent where
  append := by
    rintro _ more ⟨letter, sign, digits, hletter, hsign, hdigits, rfl⟩ hmore
    exact ⟨letter, sign, digits ++ more, hletter, hsign,
      endInDigits_digits.append hdigits hmore, by simp⟩
  cases := by
    rintro _ _ rest rest' ⟨letter, sign, digits, -, hsign, hdigits, rfl⟩ hrest
      ⟨letter', sign', digits', -, hsign', hdigits', rfl⟩ heq
    have hsigns {sign : List Char} (hsign : sign = [] ∨ sign = ['+'] ∨ sign = ['-']) :
        ∀ c ∈ sign, (CharClass.oneOf "+-").accepts c = true := by
      rcases hsign with rfl | rfl | rfl <;> simp [accepts_sign]
    rw [List.cons_append, List.cons_append, List.append_assoc, List.append_assoc,
      List.cons.injEq] at heq
    obtain ⟨rfl, heq⟩ := heq
    -- where the digits begin there is no other sign
    rcases run_cases (hsigns hsign) (hsigns hsign') hdigits.avoids_sign heq with
      ⟨rfl, hrun⟩ | ⟨-, hgoes⟩
    · rcases endInDigits_digits.cases hdigits hrest hdigits' hrun with ⟨rfl, rfl⟩ | ⟨hshort, hgoes⟩
      · exact .inl ⟨rfl, rfl⟩
      · refine .inr ⟨List.cons_prefix_cons.2 ⟨rfl, ?_⟩, hgoes⟩
        exact (List.prefix_append_right_inj _).2 hshort
    · exact absurd hdigits'.avoids_sign hgoes

theorem EndInDigits.exists_munched (h : EndInDigits texts) (text : List Char) :
    ∃ part rest, text = part ++ rest ∧ Munched texts part rest := by
  by_cases hbegins : Begins texts text
  · obtain ⟨part, hpart, behind, rfl⟩ := hbegins
    obtain ⟨digits, rest, rfl, hdigits, hrest⟩ := exists_run Char.isDigit behind
    exact ⟨part ++ digits, rest, by simp, .inl ⟨h.append hpart hdigits, hrest⟩⟩
  · exact ⟨[], text, rfl, .inr ⟨rfl, hbegins⟩⟩

theorem EndInDigits.cases_munched (h : EndInDigits texts) (hpart : Munched texts part rest)
    (hother : texts other) (heq : other ++ rest' = part ++ rest) :
    (other = part ∧ rest' = rest) ∨ (other <+: part ∧ ¬Avoids Char.isDigit rest') := by
  rcases hpart with ⟨hpart, hrest⟩ | ⟨rfl, hnone⟩
  · exact h.cases hpart hrest hother heq
  · exact absurd ⟨other, hother, rest', heq⟩ hnone

/-! ## Longest numerals -/

/-- A text that begins with a digit is cut behind each part of its number. -/
theorem exists_cut (h : ¬Avoids Char.isDigit text) :
    ∃ whole part power rest, text = whole ++ (part ++ (power ++ rest)) ∧
      Cut whole part power rest := by
  obtain ⟨whole, behind, rfl, hwhole, hends⟩ := exists_run Char.isDigit text
  have hsome : whole ≠ [] := by
    rintro rfl
    exact h hends
  obtain ⟨part, behind, rfl, hpart⟩ := endInDigits_fraction.exists_munched behind
  obtain ⟨power, rest, rfl, hpower⟩ := endInDigits_exponent.exists_munched behind
  exact ⟨whole, part, power, rest, rfl, ⟨hsome, hwhole⟩, hends, hpart, hpower⟩

/-- `read` is the longest numeral with which the text begins. -/
def LongestNumeral (text read : List Char) : Prop :=
  read <+: text ∧ Numeral read ∧
    ∀ other, other <+: text → Numeral other → other.length ≤ read.length

theorem LongestNumeral.unique (h : LongestNumeral text read) (h' : LongestNumeral text other) :
    read = other := by
  have hle : read.length ≤ other.length := h'.2.2 read h.1 h.2.1
  have hle' : other.length ≤ read.length := h.2.2 other h'.1 h'.2.1
  exact (List.prefix_of_prefix_length_le h.1 h'.1 hle).eq_of_length (Nat.le_antisymm hle hle')

theorem LongestNumeral.not_avoids (h : LongestNumeral text read) : ¬Avoids Char.isDigit text := by
  obtain ⟨⟨rest, rfl⟩, ⟨digits, fraction, power, hdigits, -, -, rfl⟩, -⟩ := h
  obtain ⟨c, more, rfl⟩ := List.exists_cons_of_ne_nil hdigits.1
  intro havoids
  have hc : c.isDigit = true := hdigits.2 c List.mem_cons_self
  rw [havoids c rfl] at hc
  cases hc

/-- A numeral with a fraction, an exponent, or both. -/
def FloatNumeral (text : List Char) : Prop :=
  ∃ digits fraction power, Digits digits ∧ Optionally Fraction fraction ∧
    Optionally Exponent power ∧ fraction ++ power ≠ [] ∧ text = digits ++ (fraction ++ power)

theorem FloatNumeral.not_digits (h : FloatNumeral text) : ¬Digits text := by
  obtain ⟨digits, fraction, power, -, hfraction, hpower, hsome, rfl⟩ := h
  intro hall
  obtain ⟨c, more, hmore⟩ := List.exists_cons_of_ne_nil hsome
  have hc : c.isDigit = true := hall.2 c (by simp [hmore])
  have hbehind : Avoids Char.isDigit (power ++ []) :=
    hpower.avoids Exponent.avoids_isDigit (Text.avoids_nil _)
  have hends : Avoids Char.isDigit (fraction ++ power) := by
    rw [List.append_nil] at hbehind
    exact hfraction.avoids Fraction.avoids_isDigit hbehind
  rw [hends c (by rw [hmore]; rfl)] at hc
  cases hc

/-- The digits with which the text begins have a point behind them, and no digit follows it. -/
def Dangling (text : List Char) : Prop :=
  ∃ digits rest, Digits digits ∧ text = digits ++ '.' :: rest ∧ Avoids Char.isDigit rest

namespace Cut

variable (h : Cut whole part power rest)

include h

theorem optionally_part : Optionally Fraction part :=
  h.fraction.elim (fun hpart => .inr hpart.1) fun hnone => .inl hnone.1

theorem optionally_power : Optionally Exponent power :=
  h.exponent.elim (fun hpower => .inr hpower.1) fun hnone => .inl hnone.1

theorem numeral : Numeral (whole ++ (part ++ power)) :=
  ⟨whole, part, power, h.digits, h.optionally_part, h.optionally_power, rfl⟩

/-- No exponent goes further than the one that is cut off. -/
theorem power_longest (hother : Optionally Exponent other)
    (heq : other ++ rest' = power ++ rest) : other.length ≤ power.length := by
  rcases hother with rfl | hother
  · exact Nat.zero_le _
  · rcases endInDigits_exponent.cases_munched h.exponent hother heq with ⟨rfl, -⟩ | ⟨hshort, -⟩
    · exact Nat.le_refl _
    · exact hshort.length_le

/-- Nor do a fraction and an exponent together. -/
theorem parts_longest {fraction : List Char} (hfraction : Optionally Fraction fraction)
    (hother : Optionally Exponent other)
    (heq : fraction ++ (other ++ rest') = part ++ (power ++ rest)) :
    fraction.length + other.length ≤ part.length + power.length := by
  rcases hfraction with rfl | hfraction
  · rcases h.fraction with ⟨hpart, -⟩ | ⟨rfl, -⟩
    · -- an exponent does not begin with the point of a fraction that is there
      obtain ⟨digits, -, rfl⟩ := hpart
      rcases hother with rfl | hother
      · exact Nat.zero_le _
      · have hpoint : Avoids (· == '.') (other ++ rest') := hother.avoids_point
        rw [List.nil_append] at heq
        rw [heq] at hpoint
        cases hpoint '.' rfl
    · have hle := h.power_longest hother heq
      rwa [List.length_nil, Nat.zero_add, Nat.zero_add]
  · rcases endInDigits_fraction.cases_munched h.fraction hfraction heq with
      ⟨rfl, hbehind⟩ | ⟨hshort, hgoes⟩
    · exact Nat.add_le_add_left (h.power_longest hother hbehind) _
    · rcases hother with rfl | hother
      · exact Nat.add_le_add hshort.length_le (Nat.zero_le _)
      · exact absurd hother.avoids_isDigit hgoes

/-- **The parts that are cut off are the longest numeral.** -/
theorem longest :
    LongestNumeral (whole ++ (part ++ (power ++ rest))) (whole ++ (part ++ power)) := by
  refine ⟨⟨rest, by simp⟩, h.numeral, ?_⟩
  rintro _ ⟨rest', heq⟩ ⟨digits, fraction, other, hdigits, hfraction, hother, rfl⟩
  rw [List.append_assoc, List.append_assoc] at heq
  simp only [List.length_append]
  rcases endInDigits_digits.cases h.digits h.ends hdigits heq with ⟨rfl, hparts⟩ | ⟨hshort, hgoes⟩
  · exact Nat.add_le_add_left (h.parts_longest hfraction hother hparts) _
  · -- neither part begins with a digit, so none of them is there
    rcases hfraction with rfl | hfraction
    · rcases hother with rfl | hother
      · exact Nat.add_le_add hshort.length_le (Nat.zero_le _)
      · exact absurd hother.avoids_isDigit hgoes
    · exact absurd hfraction.avoids_isDigit hgoes

theorem floatNumeral_iff : FloatNumeral (whole ++ (part ++ power)) ↔ part ++ power ≠ [] := by
  constructor
  · intro hfloat hnone
    rw [hnone, List.append_nil] at hfloat
    exact hfloat.not_digits h.digits
  · intro hsome
    exact ⟨whole, part, power, h.digits, h.optionally_part, h.optionally_power, hsome, rfl⟩

theorem digits_iff : Digits (whole ++ (part ++ power)) ↔ part ++ power = [] := by
  constructor
  · intro hdigits
    by_contra hsome
    exact (h.floatNumeral_iff.2 hsome).not_digits hdigits
  · intro hnone
    rw [hnone, List.append_nil]
    exact h.digits

/-- A point is left over if it follows the digits of a numeral that has no other part. -/
theorem dangling_iff :
    Dangling (whole ++ (part ++ (power ++ rest))) ↔
      part ++ power = [] ∧ ¬Avoids (· == '.') rest := by
  constructor
  · rintro ⟨digits, behind, hdigits, heq, hbehind⟩
    rcases endInDigits_digits.cases h.digits h.ends hdigits heq.symm with ⟨-, heq⟩ | ⟨-, hgoes⟩
    · rcases h.fraction with ⟨⟨ds, hds, rfl⟩, -⟩ | ⟨rfl, -⟩
      · -- behind the point of a fraction there is a digit
        obtain ⟨c, more, rfl⟩ := List.exists_cons_of_ne_nil hds.1
        have hc : c.isDigit = true := hds.2 c List.mem_cons_self
        cases heq
        rw [hbehind c rfl] at hc
        cases hc
      · rcases h.exponent with ⟨hpower, -⟩ | ⟨rfl, -⟩
        · have hpoint : Avoids (· == '.') (power ++ rest) := hpower.avoids_point
          rw [List.nil_append] at heq
          rw [← heq] at hpoint
          cases hpoint '.' rfl
        · rw [List.nil_append, List.nil_append] at heq
          refine ⟨rfl, fun hpoint => ?_⟩
          rw [← heq] at hpoint
          cases hpoint '.' rfl
    · exact absurd (Text.avoids_cons.2 rfl) hgoes
  · rintro ⟨hnone, hpoint⟩
    obtain ⟨rfl, rfl⟩ := List.append_eq_nil_iff.1 hnone
    obtain ⟨c, behind, rfl, hc⟩ := Text.exists_cons_of_not_avoids hpoint
    cases eq_of_beq hc
    refine ⟨whole, behind, h.digits, rfl, ?_⟩
    by_contra hdigit
    obtain ⟨-, hfraction⟩ := h.fraction.resolve_left nofun
    obtain ⟨c, after, rfl, hc⟩ := Text.exists_cons_of_not_avoids hdigit
    exact hfraction ⟨['.', c], ⟨[c], ⟨List.cons_ne_nil _ _, by simpa⟩, rfl⟩, after, rfl⟩

end Cut

end Lexical

end Packrat
