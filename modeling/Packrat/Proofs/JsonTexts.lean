import Packrat.Proofs.Outline

/-!
# What JSON texts stand for

A text of standard JSON stands for one value. Numbers, arrays and objects are put together
from texts of their parts, and a string has one shortest form.

- `JsonValue.Denotes text value`: the text stands for the value.
  `JsonValue.Denotes.unique`: it stands for no other.
- `JsonValue.denotes_number`, `JsonValue.denotes_array`, `JsonValue.denotes_object`: texts of
  numbers, and of arrays and objects with blanks in them.
- `JsonValue.ShortestString`: strings with each character written in the shortest way.
  `JsonValue.shortestString_iff`: `Json.quote` writes them.
-/

namespace Packrat

namespace JsonValue

open Lexical

/-! ## Texts and values -/

/-- In standard JSON the text stands for the value. -/
def Denotes (text : List Char) (value : Value) : Prop :=
  ∃ tree, Writes (.value value) (.one .value tree) text

/-- **A text stands for one value.** The grammar of JSON documents reads it to one tree, and
the value is read off the tree. -/
theorem Denotes.unique {text : List Char} {value value' : Value} (h : Denotes text value)
    (h' : Denotes text value') : value = value' := by
  obtain ⟨tree, hwrites⟩ := h
  obtain ⟨tree', hwrites'⟩ := h'
  obtain ⟨r, g, hmakes, -, -, hknows, -, -⟩ := Catalog.exists_json
  have hnone : Blank [] := List.forall_mem_nil _
  have hreads := (composed hmakes).reads_document hknows hnone hnone hwrites.spells
  have hreads' := (composed hmakes).reads_document hknows hnone hnone hwrites'.spells
  obtain ⟨tokens, hderives, htrees⟩ := hreads []
  obtain ⟨tokens', hderives', htrees'⟩ := hreads' []
  obtain ⟨wants, heval⟩ := hderives.evaluates
  obtain ⟨wants', heval'⟩ := hderives'.evaluates
  obtain rfl : tokens = tokens' := by simpa using (heval.det heval').1
  obtain rfl : tree = tree' := by simpa [htrees] using htrees'
  have hdecode : decode tree = some value := hwrites.decodes
  have hdecode' : decode tree = some value' := hwrites'.decodes
  rw [hdecode] at hdecode'
  exact Option.some.inj hdecode'

/-! ## Numbers -/

/-- The numeral of a number begins with zero only if it is zero. -/
theorem whole_toDigits (n : Nat) : Whole (Nat.toDigits 10 n) := by
  have hdigits {c : Char} : c ∈ Nat.toDigits 10 n → c.isDigit = true :=
    Nat.isDigit_of_mem_toDigits (by decide) (by decide)
  refine ⟨⟨Nat.toDigits_ne_nil, fun c => hdigits⟩, ?_⟩
  clear hdigits
  induction n using Nat.strongRecOn with
  | ind n ih =>
    intro hhead
    by_cases hlt : n < 10
    · rw [Nat.toDigits_of_lt_base hlt] at hhead ⊢
      exact congrArg (List.cons · []) (Option.some.inj hhead)
    · -- the first digit is that of a tenth, which is not zero
      have hle : 10 ≤ n := Nat.not_lt.1 hlt
      rw [Nat.toDigits_of_base_le (by decide) hle,
        List.head?_append_of_ne_nil _ Nat.toDigits_ne_nil] at hhead
      have htenth := ih (n / 10) (Nat.div_lt_self (by omega) (by decide)) hhead
      have hzero : n / 10 = 0 := by
        rw [← Nat.ofDigitChars_ten_toDigits (n := n / 10), htenth]
        rfl
      omega

theorem denotes_number (n : Nat) : Denotes (toString n).toList (.number (Nat.toDigits 10 n)) := by
  rw [Nat.toString_eq_ofList_toDigits, String.toList_ofList]
  exact ⟨_, Writes.integer (.inl rfl) (whole_toDigits n)⟩

theorem toDigits_inj {n m : Nat} (h : Nat.toDigits 10 n = Nat.toDigits 10 m) : n = m := by
  rw [← Nat.ofDigitChars_ten_toDigits (n := n), h, Nat.ofDigitChars_ten_toDigits]

/-! ## Arrays and objects -/

section Several

variable {α : Type} {kind : Kind} {one : α → Part} {several : List α → Part} {gap after : List Char}

/-- Texts of items, with a comma and blanks between each two and blanks behind the last
one, are a text of all of them. Elements and members are written alike. -/
theorem exists_writes_several
    (last : ∀ {a : α} {tree : Tree} {item blank : List Char},
      Writes (one a) (.one kind tree) item → Blank blank →
      Writes (several [a]) (.several kind [tree]) (item ++ blank))
    (next : ∀ {a : α} {as : List α} {tree : Tree} {trees : List Tree}
      {item blank blank' items : List Char},
      Writes (one a) (.one kind tree) item → Blank blank → Blank blank' →
      Writes (several as) (.several kind trees) items →
      Writes (several (a :: as)) (.several kind (tree :: trees))
        (item ++ blank ++ ',' :: (blank' ++ items)))
    (hgap : Blank gap) (hafter : Blank after) {as : List α} {texts : List (List Char)}
    (h : List.Forall₂ (fun a text => ∃ tree, Writes (one a) (.one kind tree) text) as texts)
    (hsome : as ≠ []) :
    ∃ trees,
      Writes (several as) (.several kind trees) ((',' :: gap).intercalate texts ++ after) := by
  have hnone : Blank [] := List.forall_mem_nil _
  induction h with
  | nil => exact absurd rfl hsome
  | cons hfirst hrest ih =>
    obtain ⟨tree, hfirst⟩ := hfirst
    cases hrest with
    | nil => exact ⟨[tree], by simpa [List.intercalate] using last hfirst hafter⟩
    | cons hsecond hmore =>
      obtain ⟨trees, htrees⟩ := ih (List.cons_ne_nil _ _)
      exact ⟨tree :: trees, by simpa [List.intercalate] using next hfirst hnone hgap htrees⟩

end Several

variable {before gap after : List Char} {texts : List (List Char)}

/-- An array of documents, with blanks inside the brackets and behind the commas. -/
theorem denotes_array {values : List Value}
    (h : List.Forall₂ (fun value text => Denotes text value) values texts) (hbefore : Blank before)
    (hgap : Blank gap) (hafter : Blank after) :
    Denotes ('[' :: (before ++ ((',' :: gap).intercalate texts ++ after ++ [']'])))
      (.array values) := by
  by_cases hsome : values = []
  · subst hsome
    cases h
    exact ⟨_, by simpa [List.intercalate] using Writes.emptyArray (hbefore.append hafter)⟩
  · obtain ⟨trees, htrees⟩ :=
      exists_writes_several Writes.lastElement Writes.nextElement hgap hafter h hsome
    exact ⟨_, .array hbefore htrees⟩

/-- An object, laid out in the same way. -/
theorem denotes_object {members : List (List Char × Value)}
    (h : List.Forall₂ (fun member text => ∃ tree,
      Writes (.member member.1 member.2) (.one .pair tree) text) members texts)
    (hbefore : Blank before) (hgap : Blank gap) (hafter : Blank after) :
    Denotes ('\x7b' :: (before ++ ((',' :: gap).intercalate texts ++ after ++ ['\x7d'])))
      (.object members) := by
  by_cases hsome : members = []
  · subst hsome
    cases h
    exact ⟨_, by simpa [List.intercalate] using Writes.emptyObject (hbefore.append hafter)⟩
  · obtain ⟨trees, htrees⟩ :=
      exists_writes_several Writes.lastMember Writes.nextMember hgap hafter h hsome
    exact ⟨_, .object hbefore htrees⟩

/-! ## Strings -/

/-- A hexadecimal digit that is no capital letter is the digit of its number. -/
theorem eq_digitChar {d : Char} {n : Nat} (h : Text.hexDigit? d = some n)
    (hsmall : d.isUpper = false) : n < 16 ∧ d = Nat.digitChar n := by
  have hfigures : ∀ k < 10, Char.ofNat (48 + k) = Nat.digitChar k := by decide
  have hletters : ∀ k < 6, Char.ofNat (97 + k) = Nat.digitChar (k + 10) := by decide
  unfold Text.hexDigit? at h
  split at h
  · rename_i hdigit
    have hbounds : 48 ≤ d.toNat ∧ d.toNat ≤ 57 := Char.isDigit_iff_toNat.1 hdigit
    obtain rfl : d.toNat - 48 = n := Option.some.inj h
    refine ⟨by omega, ?_⟩
    rw [← hfigures _ (by omega), Nat.add_sub_cancel' hbounds.1, Char.ofNat_toNat]
  split at h
  · rename_i hletter
    rw [Bool.and_eq_true, decide_eq_true_iff, decide_eq_true_iff] at hletter
    have hbounds : 97 ≤ d.toNat ∧ d.toNat ≤ 102 := hletter
    obtain rfl : d.toNat - 97 + 10 = n := Option.some.inj h
    refine ⟨by omega, ?_⟩
    rw [← hletters _ (by omega), Nat.add_sub_cancel' hbounds.1, Char.ofNat_toNat]
  split at h
  · rename_i hcapital
    rw [Bool.and_eq_true, decide_eq_true_iff, decide_eq_true_iff] at hcapital
    have hbounds : 65 ≤ d.toNat ∧ d.toNat ≤ 70 := hcapital
    have hupper : d.isUpper = true := by
      unfold Char.isUpper
      exact decide_eq_true ⟨hbounds.1, Nat.le_trans hbounds.2 (by decide)⟩
    rw [hsmall] at hupper
    cases hupper
  · cases h

/-- Four digits that are no capital letters are those of four small numbers. -/
theorem HexNumber.exists_digits {digits : List Char} {n : Nat} (h : HexNumber digits n)
    (hsmall : ∀ d ∈ digits, d.isUpper = false) :
    ∃ a b c d, (a < 16 ∧ b < 16 ∧ c < 16 ∧ d < 16) ∧ n = 16 * (16 * (16 * a + b) + c) + d ∧
      digits = [a.digitChar, b.digitChar, c.digitChar, d.digitChar] := by
  obtain ⟨hlen, hnumber⟩ := h
  obtain ⟨a, b, c, d, rfl⟩ := List.length_eq_four.1 hlen
  simp only [hexNumber?, List.foldlM_cons, List.foldlM_nil, Option.bind_eq_bind,
    Option.bind_eq_some_iff, Option.map_eq_some_iff, Option.pure_def,
    Option.some.injEq] at hnumber
  obtain ⟨_, ⟨na, ha, rfl⟩, _, ⟨nb, hb, rfl⟩, _, ⟨nc, hc, rfl⟩, _, ⟨nd, hd, rfl⟩, rfl⟩ := hnumber
  obtain ⟨hlta, rfl⟩ := eq_digitChar ha (hsmall _ (by simp))
  obtain ⟨hltb, rfl⟩ := eq_digitChar hb (hsmall _ (by simp))
  obtain ⟨hltc, rfl⟩ := eq_digitChar hc (hsmall _ (by simp))
  obtain ⟨hltd, rfl⟩ := eq_digitChar hd (hsmall _ (by simp))
  exact ⟨na, nb, nc, nd, ⟨hlta, hltb, hltc, hltd⟩, by omega, rfl⟩

/-- A number has one way to be written with four digits that are no capital letters. -/
theorem HexNumber.eq {digits digits' : List Char} {n : Nat} (h : HexNumber digits n)
    (h' : HexNumber digits' n) (hsmall : ∀ d ∈ digits, d.isUpper = false)
    (hsmall' : ∀ d ∈ digits', d.isUpper = false) : digits = digits' := by
  obtain ⟨a, b, c, d, hlt, hn, rfl⟩ := h.exists_digits hsmall
  obtain ⟨a', b', c', d', hlt', hn', rfl⟩ := h'.exists_digits hsmall'
  obtain ⟨rfl, rfl, rfl, rfl⟩ : a = a' ∧ b = b' ∧ c = c' ∧ d = d' := by omega
  rfl

/-- The shortest way to write a character in a string. Letters in an escape are small. -/
def WritesShortest (c : Char) (text : List Char) : Prop :=
  WritesChar c text ∧ (∀ other, WritesChar c other → text.length ≤ other.length) ∧
    (text = [c] ∨ ∀ d ∈ text, d.isUpper = false)

/-- Characters between double quotes, each written in the shortest way. -/
def ShortestString (chars text : List Char) : Prop :=
  ∃ forms, List.Forall₂ WritesShortest chars forms ∧ text = '"' :: (forms.flatten ++ ['"'])

/-- A character that is written as it is. -/
def Plain (c : Char) : Prop := 0x20 ≤ c.toNat ∧ c ≠ '"' ∧ c ≠ '\\'

/-- Characters are written as they are, by their letter or by their number. -/
theorem escapeChar_cases (c : Char) :
    (Plain c ∧ Json.escapeChar c = [c]) ∨
    (¬Plain c ∧ ∃ letter, (letter, c) ∈ shortEscapes ∧ letter.isUpper = false ∧
      Json.escapeChar c = ['\\', letter]) ∨
    ((∀ letter, (letter, c) ∉ shortEscapes) ∧ c.toNat < 0x20 ∧
      Json.escapeChar c = '\\' :: 'u' :: Text.hex4 c.toNat) := by
  unfold Json.escapeChar Plain
  split
  · subst_vars
    exact .inr (.inl ⟨by decide, '"', by decide⟩)
  split
  · subst_vars
    exact .inr (.inl ⟨by decide, '\\', by decide⟩)
  split
  · subst_vars
    exact .inr (.inl ⟨by decide, 'b', by decide⟩)
  split
  · subst_vars
    exact .inr (.inl ⟨by decide, 't', by decide⟩)
  split
  · subst_vars
    exact .inr (.inl ⟨by decide, 'n', by decide⟩)
  split
  · subst_vars
    exact .inr (.inl ⟨by decide, 'f', by decide⟩)
  split
  · subst_vars
    exact .inr (.inl ⟨by decide, 'r', by decide⟩)
  split
  · rename_i hlt
    have hslash : c ≠ '/' := by
      rintro rfl
      exact absurd hlt (by decide)
    refine .inr (.inr ⟨fun letter hmem => ?_, hlt, rfl⟩)
    simp [shortEscapes, *] at hmem
  · exact .inl ⟨⟨by omega, by assumption, by assumption⟩, rfl⟩

theorem writesChar_escapeChar (c : Char) : WritesChar c (Json.escapeChar c) := by
  rcases escapeChar_cases c with ⟨hplain, heq⟩ | ⟨-, letter, hmem, -, heq⟩ | ⟨-, hlt, heq⟩
  · exact heq ▸ .plain hplain.1 hplain.2.1 hplain.2.2
  · exact heq ▸ .short hmem
  · exact heq ▸ .code (Text.hexNumber_hex4 _ (Nat.lt_trans hlt (by decide)))

/-- The digits of a control character are no capital letters. -/
theorem isUpper_escapeChar (c : Char) :
    Json.escapeChar c = [c] ∨ ∀ d ∈ Json.escapeChar c, d.isUpper = false := by
  have hdigits : ∀ n < 0x20, ('\\' :: 'u' :: Text.hex4 n).all (!Char.isUpper ·) = true := by
    decide +kernel
  rcases escapeChar_cases c with ⟨-, heq⟩ | ⟨-, letter, -, hletter, heq⟩ | ⟨-, hlt, heq⟩
  · exact .inl heq
  · rw [heq]
    exact .inr (List.forall_mem_cons.2 ⟨rfl, List.forall_mem_singleton.2 hletter⟩)
  · rw [heq]
    exact .inr fun d hmem => by simpa using List.all_eq_true.1 (hdigits _ hlt) d hmem

/-- Nothing shorter is written for a character, and nothing of the same length but for
capital letters. -/
theorem WritesChar.escapeChar_shortest {c : Char} {text : List Char} (h : WritesChar c text) :
    (Json.escapeChar c).length ≤ text.length ∧
      (text.length ≤ (Json.escapeChar c).length → (text = [c] ∨ ∀ d ∈ text, d.isUpper = false) →
        text = Json.escapeChar c) := by
  have hletters : ∀ entry ∈ shortEscapes, ∀ entry' ∈ shortEscapes,
      entry.2 = entry'.2 → entry.1 = entry'.1 := by decide
  have hnumber {n : Nat} (hlt : n < 0x20) : HexNumber (Text.hex4 n) n :=
    Text.hexNumber_hex4 n (Nat.lt_trans hlt (by decide))
  have hlen : (Json.escapeChar c).length ≤ 6 := by
    rcases escapeChar_cases c with ⟨-, heq⟩ | ⟨-, letter, -, -, heq⟩ | ⟨-, hlt, heq⟩
    · simp [heq]
    · simp [heq]
    · simp [heq, (hnumber hlt).1]
  cases h with
  | plain hlow hquote hbackslash =>
    rcases escapeChar_cases c with ⟨-, heq⟩ | ⟨hplain, -⟩ | ⟨-, hlt, -⟩
    · simp [heq]
    · exact absurd ⟨hlow, hquote, hbackslash⟩ hplain
    · omega
  | @short letter hmem =>
    rcases escapeChar_cases c with ⟨-, heq⟩ | ⟨-, letter', hmem', -, heq⟩ | ⟨hnone, -⟩
    · simp [heq]
    · obtain rfl : letter = letter' := hletters _ hmem _ hmem' rfl
      simp [heq]
    · exact absurd hmem (hnone letter)
  | @code digits hdigits =>
    have hsix : ('\\' :: 'u' :: digits).length = 6 := by simp [hdigits.1]
    refine ⟨hsix ▸ hlen, fun hle hsmall => ?_⟩
    rw [hsix] at hle
    rcases escapeChar_cases c with ⟨-, heq⟩ | ⟨-, letter, -, -, heq⟩ | ⟨-, hlt, heq⟩
    · simp [heq] at hle
    · simp [heq] at hle
    · have hsmall' := (isUpper_escapeChar c).resolve_left (by simp [heq])
      have hdigits' := hsmall.resolve_left (by simp)
      rw [heq] at hsmall' ⊢
      rw [hdigits.eq (hnumber hlt) (fun d hmem => hdigits' d (by simp [hmem]))
        fun d hmem => hsmall' d (by simp [hmem])]
  | @pair first second high low hfirst hsecond =>
    have htwelve : ('\\' :: 'u' :: (first ++ '\\' :: 'u' :: second)).length = 12 := by
      simp [hfirst.1, hsecond.1]
    exact ⟨by omega, fun hle => by omega⟩

/-- The shortest way to write a character is the one in exported strings. -/
theorem writesShortest_iff {c : Char} {text : List Char} :
    WritesShortest c text ↔ text = Json.escapeChar c := by
  constructor
  · rintro ⟨hwrites, hleast, hsmall⟩
    exact hwrites.escapeChar_shortest.2 (hleast _ (writesChar_escapeChar c)) hsmall
  · rintro rfl
    exact ⟨writesChar_escapeChar c, fun other h => h.escapeChar_shortest.1, isUpper_escapeChar c⟩

/-- **Exported strings are written in the shortest way**, and there is one such way. -/
theorem shortestString_iff (s : String) {text : List Char} :
    ShortestString s.toList text ↔ text = (Json.quote s).toList := by
  have hforms (forms : List (List Char)) :
      List.Forall₂ WritesShortest s.toList forms ↔ s.toList.map Json.escapeChar = forms := by
    have hone : WritesShortest = fun c form => Json.escapeChar c = form :=
      funext₂ fun c form => propext (writesShortest_iff.trans eq_comm)
    rw [hone, ← List.forall₂_map_left_iff, List.forall₂_eq_eq_eq]
  have hquote : (Json.quote s).toList =
      '"' :: ((s.toList.map Json.escapeChar).flatten ++ ['"']) := by
    rw [Json.quote, String.toList_ofList, List.flatMap_def]
    simp
  unfold ShortestString
  simp only [hforms, exists_eq_left', hquote]

theorem writesChars_flatten {chars : List Char} {forms : List (List Char)}
    (h : List.Forall₂ WritesShortest chars forms) : WritesChars chars forms.flatten := by
  induction h with
  | nil => exact .nil
  | cons hform _ ih => exact .cons hform.1 ih

theorem writesString_quote (s : String) : WritesString s.toList (Json.quote s).toList := by
  obtain ⟨forms, hforms, htext⟩ := (shortestString_iff s).2 rfl
  exact ⟨forms.flatten, writesChars_flatten hforms, htext⟩

end JsonValue

end Packrat
