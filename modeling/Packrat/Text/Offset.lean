/-!
# Byte offsets into text

Positions in this library are UTF-8 byte offsets, while text is read as a list
of characters. The functions here relate the two.

- `utf8Length cs`: the bytes that `cs` takes in UTF-8.
- `dropBytes? n cs`: what follows byte offset `n`, when `n` falls between two
  characters of `cs` or at one of its ends.
- `dropBytes?_eq_some_iff`: an offset has a suffix exactly when the text splits
  there, which is what makes an offset a character boundary.
-/

namespace Packrat

namespace Text

/-- The length of `cs` in UTF-8 bytes. -/
def utf8Length : List Char → Nat
  | [] => 0
  | c :: cs => c.utf8Size + utf8Length cs

/-- What follows byte offset `n`; `none` inside a character and past the end. -/
def dropBytes? : Nat → List Char → Option (List Char)
  | 0, cs => some cs
  | _ + 1, [] => none
  | n + 1, c :: cs =>
    if c.utf8Size ≤ n + 1 then dropBytes? (n + 1 - c.utf8Size) cs else none

@[simp] theorem utf8Length_nil : utf8Length [] = 0 := rfl

@[simp] theorem utf8Length_cons (c : Char) (cs : List Char) :
    utf8Length (c :: cs) = c.utf8Size + utf8Length cs := rfl

@[simp] theorem utf8Length_append (cs ds : List Char) :
    utf8Length (cs ++ ds) = utf8Length cs + utf8Length ds := by
  induction cs with
  | nil => simp
  | cons c cs ih => simp [ih, Nat.add_assoc]

@[simp] theorem dropBytes?_zero (cs : List Char) : dropBytes? 0 cs = some cs := by
  cases cs <;> rfl

/-- The offset at the end of a leading part is followed by the rest. -/
@[simp] theorem dropBytes?_append (cs ds : List Char) :
    dropBytes? (utf8Length cs) (cs ++ ds) = some ds := by
  induction cs with
  | nil => simp
  | cons c cs ih =>
    have hc := c.utf8Size_pos
    obtain ⟨n, hn⟩ : ∃ n, c.utf8Size + utf8Length cs = n + 1 :=
      ⟨c.utf8Size + utf8Length cs - 1, by omega⟩
    have hle : c.utf8Size ≤ n + 1 := by omega
    have hsub : n + 1 - c.utf8Size = utf8Length cs := by omega
    simp [hn, dropBytes?, hle, hsub, ih]

/-- An offset has a suffix exactly when the text splits there. -/
theorem dropBytes?_eq_some_iff {n : Nat} {cs rest : List Char} :
    dropBytes? n cs = some rest ↔ ∃ before, cs = before ++ rest ∧ utf8Length before = n := by
  constructor
  · intro h
    fun_induction dropBytes? n cs with
    | case1 cs => exact ⟨[], by simpa using h, rfl⟩
    | case2 => simp at h
    | case3 n c cs hle ih =>
      obtain ⟨before, rfl, hlen⟩ := ih h
      exact ⟨c :: before, rfl, by simp [hlen]; omega⟩
    | case4 => simp at h
  · rintro ⟨before, rfl, rfl⟩
    exact dropBytes?_append before rest

/-- Offsets add up: dropping in two steps is dropping once. -/
theorem dropBytes?_add {m n : Nat} {cs ds rest : List Char}
    (hm : dropBytes? m cs = some ds) (hn : dropBytes? n ds = some rest) :
    dropBytes? (m + n) cs = some rest := by
  obtain ⟨a, rfl, rfl⟩ := dropBytes?_eq_some_iff.1 hm
  obtain ⟨b, rfl, rfl⟩ := dropBytes?_eq_some_iff.1 hn
  exact dropBytes?_eq_some_iff.2 ⟨a ++ b, by simp, by simp⟩

end Text

end Packrat
