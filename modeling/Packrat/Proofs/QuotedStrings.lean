import Packrat.Proofs.Alone
import Packrat.Proofs.Outline

/-!
# Strings between quotes

The rule for strings looks for the first quote that is not part of an escape. What is between
is made of units, characters or escapes, and no unit begins with the quote or with a part of
another one. So a text begins with a string in one way at most, also where the quote is a
letter of escapes.

- `Lexical.StringUnit`: the units of strings. `Lexical.StringUnit.append_inj`: where a text
  begins with a unit, it begins with no other.
- `Lexical.StartsQuoted quote text units rest`: the text begins with a string of these units,
  and goes on with `rest`. `Lexical.StartsQuoted.unique`: in no other way.
- `Lexical.Quotes`: how characters are written between quotes.
- `Lexical.quotedString_exact`: **the rule finds the first quote that is not escaped.**
-/

namespace Packrat

namespace Lexical

open Builder
open Text (utf8Length)

variable {quote c : Char} {unit unit' more more' text rest rest' read : List Char}
  {units units' : List (List Char)} {rule : Rule} {scope : Scope}

/-! ## Units -/

/-- A unit of a string: a character other than the quote and the backslash, or an escape. -/
def StringUnit (quote : Char) (unit : List Char) : Prop :=
  (∃ c, c ≠ quote ∧ c ≠ '\\' ∧ unit = [c]) ∨ Escape unit

/-- No unit begins with the quote. -/
theorem StringUnit.head_ne (hquote : quote ≠ '\\') (h : StringUnit quote unit) :
    unit ++ more ≠ quote :: rest := by
  rcases h with ⟨c, hc, -, rfl⟩ | ⟨letter, -, rfl⟩ | ⟨digits, -, -, rfl⟩
  · exact fun heq => hc (List.cons.inj heq).1
  · exact fun heq => hquote (List.cons.inj heq).1.symm
  · exact fun heq => hquote (List.cons.inj heq).1.symm

/-- A letter of an escape is not the one in front of a number. -/
theorem not_mem_simpleEscapes : 'u' ∉ simpleEscapes := by decide

theorem Escape.append_inj (h : Escape unit) (h' : Escape unit')
    (heq : unit ++ more = unit' ++ more') : unit = unit' ∧ more = more' := by
  rcases h with ⟨letter, hletter, rfl⟩ | ⟨digits, hlen, -, rfl⟩
  · rcases h' with ⟨letter', -, rfl⟩ | ⟨digits', -, -, rfl⟩
    · exact List.append_inj heq rfl
    · cases (List.cons.inj (List.cons.inj heq).2).1
      exact absurd hletter not_mem_simpleEscapes
  · rcases h' with ⟨letter', hletter', rfl⟩ | ⟨digits', hlen', -, rfl⟩
    · cases (List.cons.inj (List.cons.inj heq).2).1
      exact absurd hletter' not_mem_simpleEscapes
    · exact List.append_inj heq (by simp [hlen, hlen'])

/-- **Where a text begins with a unit, it begins with no other.** -/
theorem StringUnit.append_inj (h : StringUnit quote unit) (h' : StringUnit quote unit')
    (heq : unit ++ more = unit' ++ more') : unit = unit' ∧ more = more' := by
  have hplain {c : Char} {unit more more' : List Char} (hc : c ≠ '\\') (h : Escape unit) :
      [c] ++ more ≠ unit ++ more' := by
    rcases h with ⟨letter, -, rfl⟩ | ⟨digits, -, -, rfl⟩ <;>
      exact fun heq => hc (List.cons.inj heq).1
  rcases h with ⟨c, -, hc, rfl⟩ | h
  · rcases h' with ⟨c', -, -, rfl⟩ | h'
    · exact List.append_inj heq rfl
    · exact absurd heq (hplain hc h')
  · rcases h' with ⟨c', -, hc', rfl⟩ | h'
    · exact absurd heq.symm (hplain hc' h)
    · exact h.append_inj h' heq

theorem units_iff : Units quote text ↔
    ∃ units : List (List Char), (∀ unit ∈ units, StringUnit quote unit) ∧ text = units.flatten := by
  constructor
  · intro h
    induction h with
    | nil => exact ⟨[], List.forall_mem_nil _, rfl⟩
    | @plain c text hquote hbackslash _ ih =>
      obtain ⟨units, hunits, rfl⟩ := ih
      exact ⟨[c] :: units, List.forall_mem_cons.2 ⟨.inl ⟨c, hquote, hbackslash, rfl⟩, hunits⟩, rfl⟩
    | @escape first text hescape _ ih =>
      obtain ⟨units, hunits, rfl⟩ := ih
      exact ⟨first :: units, List.forall_mem_cons.2 ⟨.inr hescape, hunits⟩, rfl⟩
  · rintro ⟨units, hunits, rfl⟩
    induction units with
    | nil => exact .nil
    | cons unit units ih =>
      obtain ⟨hunit, hmore⟩ := List.forall_mem_cons.1 hunits
      rcases hunit with ⟨c, hquote, hbackslash, rfl⟩ | hescape
      · exact .plain hquote hbackslash (ih hmore)
      · exact .escape hescape (ih hmore)

/-! ## Strings at the beginning of texts -/

/-- The text begins with a string of these units, and goes on with `rest`. -/
def StartsQuoted (quote : Char) (text : List Char) (units : List (List Char))
    (rest : List Char) : Prop :=
  (∀ unit ∈ units, StringUnit quote unit) ∧ text = quote :: (units.flatten ++ quote :: rest)

/-- **A text begins with a string in one way only.** -/
theorem StartsQuoted.unique (hquote : quote ≠ '\\') (h : StartsQuoted quote text units rest)
    (h' : StartsQuoted quote text units' rest') : units = units' ∧ rest = rest' := by
  obtain ⟨hunits, rfl⟩ := h
  obtain ⟨hunits', htext⟩ := h'
  have heq : units.flatten ++ quote :: rest = units'.flatten ++ quote :: rest' :=
    (List.cons.inj htext).2
  clear htext
  induction units generalizing units' with
  | nil =>
    cases units' with
    | nil => exact ⟨rfl, (List.cons.inj heq).2⟩
    | cons unit' units' =>
      rw [List.flatten_cons, List.append_assoc] at heq
      exact absurd heq.symm ((List.forall_mem_cons.1 hunits').1.head_ne hquote)
  | cons unit units ih =>
    obtain ⟨hunit, hmore⟩ := List.forall_mem_cons.1 hunits
    cases units' with
    | nil =>
      rw [List.flatten_cons, List.append_assoc] at heq
      exact absurd heq (hunit.head_ne hquote)
    | cons unit' units' =>
      obtain ⟨hunit', hmore'⟩ := List.forall_mem_cons.1 hunits'
      rw [List.flatten_cons, List.append_assoc, List.flatten_cons, List.append_assoc] at heq
      obtain ⟨rfl, hrest⟩ := hunit.append_inj hunit' heq
      obtain ⟨rfl, rfl⟩ := ih hmore hmore' hrest
      exact ⟨rfl, rfl⟩

theorem StartsQuoted.quoted (h : StartsQuoted quote text units rest) :
    Quoted quote (quote :: (units.flatten ++ [quote])) ∧
      text = quote :: (units.flatten ++ [quote]) ++ rest :=
  ⟨⟨_, units_iff.2 ⟨units, h.1, rfl⟩, rfl⟩, by simp [h.2]⟩

theorem Quoted.exists_startsQuoted (h : Quoted quote read) (rest : List Char) :
    ∃ units, StartsQuoted quote (read ++ rest) units rest := by
  obtain ⟨body, hbody, rfl⟩ := h
  obtain ⟨units, hunits, rfl⟩ := units_iff.1 hbody
  exact ⟨units, hunits, by simp⟩

/-! ## Quoting -/

/-- A letter or a number behind a backslash that stands for the character. -/
inductive EscapesChar (c : Char) : List Char → Prop where
  | letter {letter : Char} :
      (letter, c) ∈ ('\x27', '\x27') :: JsonValue.shortEscapes → EscapesChar c ['\\', letter]
  | code {digits : List Char} :
      JsonValue.HexNumber digits c.toNat → EscapesChar c ('\\' :: 'u' :: digits)

/-- What is written for characters between quotes. The quote, the backslash and control
characters are escaped, and others may be. -/
inductive Quotes (quote : Char) : List Char → List Char → Prop where
  | nil : Quotes quote [] []
  | plain {c : Char} {chars text : List Char} :
      c ≠ quote → c ≠ '\\' → Unicode.isControl c = false → Quotes quote chars text →
      Quotes quote (c :: chars) (c :: text)
  | escaped {c : Char} {chars first text : List Char} :
      EscapesChar c first → Quotes quote chars text → Quotes quote (c :: chars) (first ++ text)

theorem EscapesChar.escape (h : EscapesChar c text) : Escape text := by
  cases h with
  | @letter letter hmem =>
    have hall : ∀ entry ∈ ('\x27', '\x27') :: JsonValue.shortEscapes, entry.1 ∈ simpleEscapes := by
      decide
    exact .inl ⟨letter, hall _ hmem, rfl⟩
  | code hnumber => exact hnumber.escape

theorem units_of_quotes {chars : List Char} (h : Quotes quote chars text) :
    Units quote text := by
  induction h with
  | nil => exact .nil
  | plain hquote hbackslash _ _ ih => exact .plain hquote hbackslash ih
  | escaped hescape _ ih => exact .escape hescape.escape ih

/-- Everything can be quoted, with quotes of either kind. -/
theorem exists_quotes (hquote : quote = '"' ∨ quote = '\x27') :
    ∀ chars : List Char, ∃ text, Quotes quote chars text
  | [] => ⟨[], .nil⟩
  | c :: chars => by
    obtain ⟨text, htext⟩ := exists_quotes hquote chars
    by_cases hc : c = quote
    · subst hc
      refine ⟨_, .escaped (@EscapesChar.letter c c ?_) htext⟩
      rcases hquote with rfl | rfl <;> decide
    by_cases hbackslash : c = '\\'
    · subst hbackslash
      exact ⟨_, .escaped (@EscapesChar.letter _ '\\' (by decide)) htext⟩
    by_cases hcontrol : Unicode.isControl c = true
    · have hnumber := Text.hexNumber_hex4 _ (Text.toNat_lt_of_isControl hcontrol)
      exact ⟨_, .escaped (.code hnumber) htext⟩
    · exact ⟨_, .plain hc hbackslash (Bool.eq_false_iff.2 hcontrol) htext⟩

/-! ## The rule -/

theorem detached_hexDigit : Detached hexDigit := .satisfy _ _

theorem detached_escape : Detached escape :=
  (Detached.ch _).bind fun _ h₁ => (Detached.oneOf (by decide)).bind fun _ h₂ =>
    (Detached.ch _).bind fun _ h₃ => detached_hexDigit.bind fun _ h₄ =>
    detached_hexDigit.bind fun _ h₅ => detached_hexDigit.bind fun _ h₆ =>
    detached_hexDigit.bind fun _ h₇ =>
    (Detached.seq (by simp [h₃, h₄, h₅, h₆, h₇])).bind fun _ h₈ =>
    (Detached.choice (by simp) (by simp [h₂, h₈])).bind fun _ h₉ => .seq (by simp [h₁, h₉])

theorem detached_quotedString (quote : Char) : Detached (quotedString quote) :=
  (Detached.noneOf (by simp)).bind fun _ h₁ => (Detached.ch _).bind fun _ h₂ =>
    detached_escape.bind fun _ h₃ =>
    (Detached.choice (by simp) (by simp [h₁, h₃])).bind fun _ h₄ =>
    (Detached.zeroOrMore h₄).bind fun _ h₅ => (Detached.ch _).bind fun _ h₆ =>
    .seq (by simp [h₂, h₅, h₆])

/-- **The rule for strings finds the first quote that is not escaped.** Where no limit is met,
a parse finds what the input begins with if that is a quote, units and a quote, and nothing
otherwise. There is at most one way to cut the input so. All texts can be written between
quotes of the usual kinds, and are found in full, whatever follows. -/
theorem quotedString_exact (quote : Char) (hquote : quote ≠ '\\') (start : RuleId) :
    ∃ rule stop, quotedString quote start = .ok (rule, stop) ∧
      (∀ p : Parser, p.root = rule → ∀ (scope : Scope) (input : String),
        p.StaysWithin scope input → p.Decides scope input fun n =>
          ∃ units rest, StartsQuoted quote input.toList units rest ∧
            n = utf8Length (quote :: (units.flatten ++ [quote]))) ∧
      (∀ text units units' rest rest', StartsQuoted quote text units rest →
        StartsQuoted quote text units' rest' → units = units' ∧ rest = rest') ∧
      (quote = '"' ∨ quote = '\x27' → ∀ s : String, (∃ text, Quotes quote s.toList text) ∧
        ∀ text, Quotes quote s.toList text → ∀ (rest : List Char) (p : Parser), p.root = rule →
          ∀ scope, p.StaysWithin scope (String.ofList (quote :: (text ++ [quote]) ++ rest)) →
            p.Finds scope (String.ofList (quote :: (text ++ [quote]) ++ rest))
              (utf8Length (quote :: (text ++ [quote])))) := by
  obtain ⟨rule, stop, hbuild, hmakes, halone⟩ :=
    (detached_quotedString quote).exists_alone (.quotedString quote) start
  have hfinds {p : Parser} {scope : Scope} {input : String} {read rest : List Char}
      (hroot : p.root = rule) (hlimit : p.StaysWithin scope input)
      (hinput : input.toList = read ++ rest) (hquoted : Quoted quote read) :
      p.Finds scope input (utf8Length read) := by
    subst hroot
    exact Parser.finds_of_reads (halone.fit scope) hlimit hinput
      (reads_quotedString hmakes hquote hquoted)
  refine ⟨rule, stop, hbuild, ?_, fun _ _ _ _ _ h h' => h.unique hquote h', ?_⟩
  · intro p hroot scope input hlimit
    by_cases hstarts : ∃ units rest, StartsQuoted quote input.toList units rest
    · obtain ⟨units, rest, hstarts⟩ := hstarts
      refine (hfinds hroot hlimit hstarts.quoted.2 hstarts.quoted.1).decides
        ⟨units, rest, hstarts, rfl⟩ ?_
      rintro m ⟨units', rest', hstarts', rfl⟩
      rw [(hstarts.unique hquote hstarts').1]
    · have hnone : p.FindsNone scope input := by
        subst hroot
        refine Parser.findsNone_of_generates (halone.fit scope) hlimit
          fun read rest hinput hread => ?_
        obtain ⟨units, hunits⟩ := (generates_quotedString hmakes hread).exists_startsQuoted rest
        exact hstarts ⟨units, rest, hinput ▸ hunits⟩
      refine hnone.decides ?_
      rintro m ⟨units, rest, h, -⟩
      exact hstarts ⟨units, rest, h⟩
  · intro hkind s
    refine ⟨exists_quotes hkind s.toList, fun text htext rest p hroot scope hlimit => ?_⟩
    exact hfinds hroot hlimit (String.toList_ofList ..) ⟨text, units_of_quotes htext, rfl⟩

/-- Where the quote is a letter of escapes, escapes that end in it are passed over: of the
input `n1\\n2nn` the first six bytes are found. -/
theorem quotedString_exact_letter :
    ∃ rule stop, quotedString 'n' 0 = .ok (rule, stop) ∧
      (Parser.ofRule rule).Finds .empty "n1\\n2nn" 6 := by
  obtain ⟨rule, stop, hbuild, hexact, -, -⟩ := quotedString_exact 'n' (by decide) 0
  have hlimit : (Parser.ofRule rule).StaysWithin .empty "n1\\n2nn" :=
    Parser.staysWithin_of_isSome hbuild (by decide +kernel)
  refine ⟨rule, stop, hbuild, ((hexact _ rfl _ _ hlimit).1 6).2 ⟨[['1'], ['\\', 'n'], ['2']], ['n'],
    ⟨?_, by decide⟩, by decide⟩⟩
  simp [StringUnit, Escape, simpleEscapes]

end Lexical

end Packrat
