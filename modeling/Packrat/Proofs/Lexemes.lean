import Packrat.Grammar.Lexical
import Packrat.Proofs.Building
import Packrat.Proofs.Reading

/-!
# What lexical rules read

For each building block the texts that it is for, and three facts: that it reads
them, where it fails, and that it generates nothing else.

- `Lexical.Blank`, `Digits`, `Fraction`, `Exponent`, `Escape`, `Quoted`: the texts.
- `reads_…`: in front of what cannot continue it, such a text is read whole.
- `refuses_…`: the rule fails in front of what cannot begin it.
- `generates_…`: what the rule generates is such a text.
-/

namespace Packrat

namespace Lexical

open Builder
open Text (Avoids)

variable {scope : Scope} {rule item separator : Rule} {read more rest blank : List Char}
  {trees trees' : List Tree}

/-! ## Blanks -/

/-- Whether `c` is a space, a tab, a carriage return or a newline. -/
def isBlank (c : Char) : Bool := c == ' ' || c == '\t' || c == '\r' || c == '\n'

/-- Blanks only. -/
def Blank (text : List Char) : Prop := ∀ c ∈ text, isBlank c = true

theorem Blank.append {text more : List Char} (h : Blank text) (h' : Blank more) :
    Blank (text ++ more) := List.forall_mem_append.2 ⟨h, h'⟩

theorem accepts_blank : (CharClass.oneOf " \t\r\n").accepts = isBlank := by
  funext c
  simp [CharClass.accepts, isBlank, Bool.beq_eq_decide_eq, Bool.or_assoc]

theorem makes_blanks (h : blanks.Makes rule) :
    ∃ id id', rule = .zeroOrMore id (.char id' (.oneOf " \t\r\n")) := by
  obtain ⟨blank, hblank, h⟩ := h.bind
  obtain ⟨id', rfl⟩ := makes_oneOf hblank
  obtain ⟨id, rfl⟩ := makes_zeroOrMore h
  exact ⟨id, id', rfl⟩

theorem reads_blanks (h : blanks.Makes rule) (hblank : Blank blank) (hrest : Avoids isBlank rest) :
    Reads scope rule blank rest [] := by
  obtain ⟨id, id', rfl⟩ := makes_blanks h
  exact .zeroOrMore_char (accepts_blank ▸ hblank) (accepts_blank ▸ hrest)

theorem generates_blanks (h : blanks.Makes rule) (hread : Generates scope rule read rest) :
    Blank read := by
  obtain ⟨id, id', rfl⟩ := makes_blanks h
  have hall := hread.of_zeroOrMore_char
  rwa [accepts_blank] at hall

/-! ## Lexemes -/

variable {made : Rule}

theorem makes_lexeme (h : (lexeme rule).Makes made) :
    ∃ id blanks, Lexical.blanks.Makes blanks ∧ made = .seq id [rule, blanks] := by
  obtain ⟨blanks, hblanks, h⟩ := h.bind
  obtain ⟨id, rfl⟩ := makes_seq h
  exact ⟨id, blanks, hblanks, rfl⟩

theorem reads_lexeme (h : (lexeme rule).Makes made)
    (hread : Reads scope rule read (blank ++ rest) trees) (hblank : Blank blank)
    (hrest : Avoids isBlank rest) : Reads scope made (read ++ blank) rest trees := by
  obtain ⟨id, blanks, hblanks, rfl⟩ := makes_lexeme h
  rw [← List.append_nil trees]
  exact hread.seq_cons (reads_blanks hblanks hblank hrest).seq_singleton

theorem refuses_lexeme (h : (lexeme rule).Makes made) (hrefuses : Refuses scope rule rest) :
    Refuses scope made rest := by
  obtain ⟨id, blanks, hblanks, rfl⟩ := makes_lexeme h
  exact hrefuses.seq_failed

theorem generates_lexeme (h : (lexeme rule).Makes made) (hread : Generates scope made read rest) :
    ∃ first blank, read = first ++ blank ∧ Blank blank ∧
      Generates scope rule first (blank ++ rest) := by
  obtain ⟨id, blanks, hblanks, rfl⟩ := makes_lexeme h
  obtain ⟨first, blank, rfl, hfirst, hblank⟩ := hread.of_seq_cons
  exact ⟨first, blank, rfl, generates_blanks hblanks hblank.of_seq_singleton, hfirst⟩

variable {text : String}

theorem reads_symbol (h : (symbol text).Makes made) (hblank : Blank blank)
    (hrest : Avoids isBlank rest) : Reads scope made (text.toList ++ blank) rest [] := by
  obtain ⟨mark, hmark, h⟩ := h.bind
  obtain ⟨id, rfl⟩ := makes_literal hmark
  exact reads_lexeme h (.literal text) hblank hrest

theorem refuses_symbol (h : (symbol text).Makes made) (hrest : ¬text.toList <+: rest) :
    Refuses scope made rest := by
  obtain ⟨mark, hmark, h⟩ := h.bind
  obtain ⟨id, rfl⟩ := makes_literal hmark
  exact refuses_lexeme h (.literal hrest)

theorem generates_symbol (h : (symbol text).Makes made) (hread : Generates scope made read rest) :
    ∃ blank, Blank blank ∧ read = text.toList ++ blank := by
  obtain ⟨mark, hmark, h⟩ := h.bind
  obtain ⟨id, rfl⟩ := makes_literal hmark
  obtain ⟨first, blank, rfl, hblank, hfirst⟩ := generates_lexeme h hread
  exact ⟨blank, hblank, by rw [hfirst.of_literal]⟩

/-! ## Numbers -/

/-- One or more decimal digits. -/
def Digits (text : List Char) : Prop := text ≠ [] ∧ ∀ c ∈ text, c.isDigit = true

/-- A point and digits. -/
def Fraction (text : List Char) : Prop := ∃ digits, Digits digits ∧ text = '.' :: digits

/-- The letter of an exponent, perhaps a sign, and digits. -/
def Exponent (text : List Char) : Prop :=
  ∃ letter sign digits, (letter = 'e' ∨ letter = 'E') ∧ (sign = [] ∨ sign = ['+'] ∨ sign = ['-']) ∧
    Digits digits ∧ text = letter :: (sign ++ digits)

/-- Nothing, or one of the given texts. -/
def Optionally (texts : List Char → Prop) (text : List Char) : Prop := text = [] ∨ texts text

theorem Optionally.forall {texts : List Char → Prop} {p : Char → Bool} {text : List Char}
    (h : Optionally texts text) (hall : texts text → ∀ c ∈ text, p c = true) :
    ∀ c ∈ text, p c = true := by
  rcases h with rfl | h
  · exact List.forall_mem_nil _
  · exact hall h

/-- Whether numbers, with their signs, may have `c` in them. -/
def isFigure (c : Char) : Bool := c.isDigit || ['+', '-', '.', 'e', 'E'].contains c

theorem Digits.figures {digits : List Char} (h : Digits digits) : ∀ c ∈ digits, isFigure c = true :=
  fun c hc => by rw [isFigure, h.2 c hc, Bool.true_or]

/-- Numbers are made of figures. -/
theorem figures_number {digits fraction power : List Char} (hdigits : Digits digits)
    (hfraction : Optionally Fraction fraction) (hpower : Optionally Exponent power) :
    ∀ c ∈ digits ++ (fraction ++ power), isFigure c = true := by
  refine List.forall_mem_append.2 ⟨hdigits.figures, List.forall_mem_append.2
    ⟨hfraction.forall ?_, hpower.forall ?_⟩⟩
  · rintro ⟨digits, hdigits, rfl⟩
    exact List.forall_mem_cons.2 ⟨rfl, hdigits.figures⟩
  · rintro ⟨letter, sign, digits, hletter, hsign, hdigits, rfl⟩
    refine List.forall_mem_cons.2 ⟨?_, List.forall_mem_append.2 ⟨?_, hdigits.figures⟩⟩
    · rcases hletter with rfl | rfl <;> rfl
    · rcases hsign with rfl | rfl | rfl
      · exact List.forall_mem_nil _
      all_goals exact List.forall_mem_singleton.2 rfl

/-- The characters with which a number might go on. -/
def isNumeric (c : Char) : Bool := c.isDigit || c == '.' || c == 'e' || c == 'E'

theorem avoids_isDigit (h : Avoids isNumeric rest) : Avoids Char.isDigit rest := by
  intro c hc
  have hnot := h c hc
  simp only [isNumeric, Bool.or_eq_false_iff] at hnot
  exact hnot.1.1.1

theorem avoids_point (h : Avoids isNumeric rest) : Avoids (· == '.') rest := by
  intro c hc
  have hnot := h c hc
  simp only [isNumeric, Bool.or_eq_false_iff] at hnot
  exact hnot.1.1.2

/-- A fraction begins with its point. -/
theorem Fraction.avoids_isDigit (h : Fraction read) : Avoids Char.isDigit (read ++ rest) := by
  obtain ⟨digits, -, rfl⟩ := h
  exact Text.avoids_cons.2 rfl

/-- An exponent begins with its letter. -/
theorem Exponent.avoids_isDigit (h : Exponent read) : Avoids Char.isDigit (read ++ rest) := by
  obtain ⟨letter, sign, digits, hletter, -, -, rfl⟩ := h
  rcases hletter with rfl | rfl <;> exact Text.avoids_cons.2 rfl

theorem Exponent.avoids_point (h : Exponent read) : Avoids (· == '.') (read ++ rest) := by
  obtain ⟨letter, sign, digits, hletter, -, -, rfl⟩ := h
  rcases hletter with rfl | rfl <;> exact Text.avoids_cons.2 rfl

theorem Optionally.avoids {texts : List Char → Prop} {p : Char → Bool} (h : Optionally texts read)
    (hall : texts read → Avoids p (read ++ rest)) (hrest : Avoids p rest) :
    Avoids p (read ++ rest) := by
  rcases h with rfl | h
  · exact hrest
  · exact hall h

/-- The text begins with one of the given texts. -/
def Begins (texts : List Char → Prop) (text : List Char) : Prop := ∃ part, texts part ∧ part <+: text

theorem not_begins_fraction (h : Avoids (· == '.') rest) : ¬Begins Fraction rest := by
  rintro ⟨part, ⟨digits, -, rfl⟩, hstarts⟩
  exact Text.not_prefix_of_avoids h hstarts

theorem not_begins_exponent (h : Avoids isNumeric rest) : ¬Begins Exponent rest := by
  rintro ⟨part, ⟨letter, sign, digits, hletter, -, -, rfl⟩, more, rfl⟩
  have hnot : isNumeric letter = false := h letter rfl
  rcases hletter with rfl | rfl <;> cases hnot

/-- What a number has of the given texts in front of `rest`: one of them, with all digits that
are there, or nothing where none of them is there. -/
def Munched (texts : List Char → Prop) (part rest : List Char) : Prop :=
  (texts part ∧ Avoids Char.isDigit rest) ∨ (part = [] ∧ ¬Begins texts rest)

/-- The parts of a number that cannot go on in front of `rest`. -/
structure Cut (whole part power rest : List Char) : Prop where
  digits : Digits whole
  ends : Avoids Char.isDigit (part ++ (power ++ rest))
  fraction : Munched Fraction part (power ++ rest)
  exponent : Munched Exponent power rest

/-- A number is cut off where what follows is in no number. -/
theorem cut_of_avoids {whole part power : List Char} (hdigits : Digits whole)
    (hfraction : Optionally Fraction part) (hpower : Optionally Exponent power)
    (hrest : Avoids isNumeric rest) : Cut whole part power rest := by
  have hdigit : Avoids Char.isDigit (power ++ rest) :=
    hpower.avoids Exponent.avoids_isDigit (Lexical.avoids_isDigit hrest)
  have hpoint : Avoids (· == '.') (power ++ rest) :=
    hpower.avoids Exponent.avoids_point (Lexical.avoids_point hrest)
  refine ⟨hdigits, hfraction.avoids Fraction.avoids_isDigit hdigit, ?_, ?_⟩
  · rcases hfraction with rfl | hfraction
    · exact .inr ⟨rfl, not_begins_fraction hpoint⟩
    · exact .inl ⟨hfraction, hdigit⟩
  · rcases hpower with rfl | hpower
    · exact .inr ⟨rfl, not_begins_exponent hrest⟩
    · exact .inl ⟨hpower, Lexical.avoids_isDigit hrest⟩

theorem accepts_digit : (CharClass.range '0' '9').accepts = Char.isDigit := by
  funext c
  simp [CharClass.accepts, Char.isDigit, Char.le_def]

theorem makes_digits (h : digits.Makes rule) :
    ∃ id id', rule = .oneOrMore id (.char id' (.range '0' '9')) := by
  obtain ⟨digit, hdigit, h⟩ := h.bind
  obtain ⟨id', rfl⟩ := makes_range hdigit
  obtain ⟨id, rfl⟩ := makes_oneOrMore h
  exact ⟨id, id', rfl⟩

theorem reads_digits (h : digits.Makes rule) (hdigits : Digits read)
    (hrest : Avoids Char.isDigit rest) : Reads scope rule read rest [] := by
  obtain ⟨id, id', rfl⟩ := makes_digits h
  exact .oneOrMore_char hdigits.1 (accepts_digit ▸ hdigits.2) (accepts_digit ▸ hrest)

theorem refuses_digits (h : digits.Makes rule) (hrest : Avoids Char.isDigit rest) :
    Refuses scope rule rest := by
  obtain ⟨id, id', rfl⟩ := makes_digits h
  exact .oneOrMore (.char (accepts_digit ▸ hrest))

theorem generates_digits (h : digits.Makes rule) (hread : Generates scope rule read rest) :
    Digits read := by
  obtain ⟨id, id', rfl⟩ := makes_digits h
  have hall := hread.of_oneOrMore_char
  rwa [accepts_digit] at hall

theorem makes_integer (h : integer.Makes rule) :
    ∃ id digits id' id'', Lexical.digits.Makes digits ∧
      rule = .seq id [digits, .notAhead id' (.char id'' (.single '.'))] := by
  obtain ⟨digits, hdigits, h⟩ := h.bind
  obtain ⟨point, hpoint, h⟩ := h.bind
  obtain ⟨id'', rfl⟩ := makes_ch hpoint
  obtain ⟨guard, hguard, h⟩ := h.bind
  obtain ⟨id', rfl⟩ := makes_notAhead hguard
  obtain ⟨id, rfl⟩ := makes_seq h
  exact ⟨id, digits, id', id'', hdigits, rfl⟩

theorem reads_integer (h : integer.Makes rule) (hdigits : Digits read)
    (hrest : Avoids Char.isDigit rest) (hpoint : Avoids (· == '.') rest) :
    Reads scope rule read rest [] := by
  obtain ⟨id, digits, id', id'', hmakes, rfl⟩ := makes_integer h
  have hguard : Reads scope (.notAhead id' (.char id'' (.single '.'))) [] rest [] :=
    .notAhead (.char hpoint)
  have hread : Reads scope digits read rest [] := reads_digits hmakes hdigits hrest
  rw [← List.append_nil read]
  exact hread.seq_cons hguard.seq_singleton

theorem refuses_integer (h : integer.Makes rule) (hrest : Avoids Char.isDigit rest) :
    Refuses scope rule rest := by
  obtain ⟨id, digits, id', id'', hmakes, rfl⟩ := makes_integer h
  exact (refuses_digits hmakes hrest).seq_failed

/-- Digits with a point behind them are no integer. -/
theorem refuses_integer_of_point (h : integer.Makes rule) (hdigits : Digits read) :
    Refuses scope rule (read ++ '.' :: rest) := by
  obtain ⟨id, digits, id', id'', hmakes, rfl⟩ := makes_integer h
  have hread : Reads scope digits read ('.' :: rest) [] :=
    reads_digits hmakes hdigits (Text.avoids_cons.2 rfl)
  have hpoint : Reads scope (.char id'' (.single '.')) ['.'] rest [] := .char rfl
  exact .seq_next hread (Refuses.notAhead hpoint).seq_failed

theorem generates_integer (h : integer.Makes rule) (hread : Generates scope rule read rest) :
    Digits read := by
  obtain ⟨id, digits, id', id'', hmakes, rfl⟩ := makes_integer h
  obtain ⟨first, more, rfl, hfirst, hmore⟩ := hread.of_seq_cons
  rw [hmore.of_seq_singleton.of_notAhead, List.append_nil]
  exact generates_digits hmakes hfirst

theorem makes_exponent (h : exponent.Makes rule) :
    ∃ id id' id'' sign digits, Lexical.digits.Makes digits ∧
      rule = .seq id [.char id' (.oneOf "eE"), .opt id'' (.char sign (.oneOf "+-")), digits] := by
  obtain ⟨letter, hletter, h⟩ := h.bind
  obtain ⟨id', rfl⟩ := makes_oneOf hletter
  obtain ⟨mark, hmark, h⟩ := h.bind
  obtain ⟨sign, rfl⟩ := makes_oneOf hmark
  obtain ⟨perhaps, hperhaps, h⟩ := h.bind
  obtain ⟨id'', rfl⟩ := makes_opt hperhaps
  obtain ⟨digits, hdigits, h⟩ := h.bind
  obtain ⟨id, rfl⟩ := makes_seq h
  exact ⟨id, id', id'', sign, digits, hdigits, rfl⟩

theorem accepts_letter {letter : Char} :
    (CharClass.oneOf "eE").accepts letter = true ↔ letter = 'e' ∨ letter = 'E' := by
  simp [CharClass.accepts]

theorem accepts_sign {sign : Char} :
    (CharClass.oneOf "+-").accepts sign = true ↔ sign = '+' ∨ sign = '-' := by
  simp [CharClass.accepts]

/-- A digit is no sign. -/
theorem Digits.avoids_sign {digits : List Char} (h : Digits digits) :
    Avoids (CharClass.oneOf "+-").accepts (digits ++ rest) := by
  obtain ⟨c, more, rfl⟩ := List.exists_cons_of_ne_nil h.1
  have hc := h.2 c List.mem_cons_self
  refine Text.avoids_cons.2 (Bool.eq_false_iff.2 fun haccepts => ?_)
  rcases accepts_sign.1 haccepts with rfl | rfl <;> cases hc

theorem reads_exponent (h : exponent.Makes rule) (hexponent : Exponent read)
    (hrest : Avoids Char.isDigit rest) : Reads scope rule read rest [] := by
  obtain ⟨id, id', id'', mark, digits, hmakes, rfl⟩ := makes_exponent h
  obtain ⟨letter, sign, ds, hletter, hsign, hds, rfl⟩ := hexponent
  have hdigits : Reads scope digits ds rest [] := reads_digits hmakes hds hrest
  have hperhaps : Reads scope (.opt id'' (.char mark (.oneOf "+-"))) sign (ds ++ rest) [] := by
    rcases hsign with rfl | rfl | rfl
    · exact .opt_left (.char hds.avoids_sign)
    · exact .opt_taken (.char rfl)
    · exact .opt_taken (.char rfl)
  have hfirst : Reads scope (.char id' (.oneOf "eE")) [letter] (sign ++ ds ++ rest) [] :=
    .char (accepts_letter.2 hletter)
  exact hfirst.seq_cons (hperhaps.seq_cons hdigits.seq_singleton)

theorem refuses_exponent (h : exponent.Makes rule) (hnone : ¬Begins Exponent rest) :
    Refuses scope rule rest := by
  obtain ⟨id, id', id'', mark, digits, hmakes, rfl⟩ := makes_exponent h
  by_cases hbegins : Avoids (CharClass.oneOf "eE").accepts rest
  · exact .seq_failed (.char hbegins)
  obtain ⟨letter, more, rfl, hletter⟩ := Text.exists_cons_of_not_avoids hbegins
  have hfirst : Reads scope (.char id' (.oneOf "eE")) [letter] more [] := .char hletter
  -- behind the letter and the sign there is no digit, since one would do for an exponent
  have hdigits {sign behind : List Char} (hmore : more = sign ++ behind)
      (hsign : sign = [] ∨ sign = ['+'] ∨ sign = ['-']) : Refuses scope digits behind := by
    refine refuses_digits hmakes ?_
    by_contra hdigit
    obtain ⟨c, after, rfl, hc⟩ := Text.exists_cons_of_not_avoids hdigit
    have hexponent : Exponent (letter :: (sign ++ [c])) :=
      ⟨letter, sign, [c], accepts_letter.1 hletter, hsign, ⟨List.cons_ne_nil _ _, by simpa⟩, rfl⟩
    exact hnone ⟨_, hexponent, after, by simp [hmore]⟩
  by_cases hunsigned : Avoids (CharClass.oneOf "+-").accepts more
  · have hperhaps : Reads scope (.opt id'' (.char mark (.oneOf "+-"))) [] more [] :=
      .opt_left (.char hunsigned)
    exact .seq_next hfirst (.seq_next hperhaps (hdigits rfl (.inl rfl)).seq_failed)
  · obtain ⟨sign, behind, rfl, hsign⟩ := Text.exists_cons_of_not_avoids hunsigned
    have hperhaps : Reads scope (.opt id'' (.char mark (.oneOf "+-"))) [sign] behind [] :=
      .opt_taken (.char hsign)
    have hsigns : [sign] = [] ∨ [sign] = ['+'] ∨ [sign] = ['-'] := by
      simpa using accepts_sign.1 hsign
    exact .seq_next hfirst (.seq_next hperhaps (hdigits rfl hsigns).seq_failed)

/-- An exponent need not be there. -/
theorem reads_opt_exponent {id : RuleId} (h : exponent.Makes rule)
    (hpower : Munched Exponent read rest) : Reads scope (.opt id rule) read rest [] := by
  rcases hpower with ⟨hexponent, hrest⟩ | ⟨rfl, hnone⟩
  · exact .opt_taken (reads_exponent h hexponent hrest)
  · exact .opt_left (refuses_exponent h hnone)

theorem generates_exponent (h : exponent.Makes rule) (hread : Generates scope rule read rest) :
    Exponent read := by
  obtain ⟨id, id', id'', mark, digits, hmakes, rfl⟩ := makes_exponent h
  obtain ⟨first, more, rfl, hfirst, hmore⟩ := hread.of_seq_cons
  obtain ⟨sign, ds, rfl, hsign, hds⟩ := hmore.of_seq_cons
  obtain ⟨letter, rfl, hletter⟩ := hfirst.of_char
  have hsigns : sign = [] ∨ sign = ['+'] ∨ sign = ['-'] := by
    rcases hsign.of_opt with rfl | hsign
    · exact .inl rfl
    · obtain ⟨c, rfl, hc⟩ := hsign.of_char
      rcases accepts_sign.1 hc with rfl | rfl <;> simp
  exact ⟨letter, sign, ds, accepts_letter.1 hletter, hsigns,
    generates_digits hmakes hds.of_seq_singleton, rfl⟩

/-- The rule reads a fraction and, if there is one, an exponent. -/
def IsFraction (rule : Rule) : Prop :=
  ∃ id point perhaps digits exponent, Lexical.digits.Makes digits ∧
    Lexical.exponent.Makes exponent ∧
    rule = .seq id [.char point (.single '.'), digits, .opt perhaps exponent]

theorem IsFraction.reads {power : List Char} (h : IsFraction rule) (hfraction : Fraction read)
    (hends : Avoids Char.isDigit (power ++ rest)) (hpower : Munched Exponent power rest) :
    Reads scope rule (read ++ power) rest [] := by
  obtain ⟨id, point, perhaps, digits, exponent, hdigits, hexponent, rfl⟩ := h
  obtain ⟨ds, hds, rfl⟩ := hfraction
  have hpoint : Reads scope (.char point (.single '.')) ['.'] (ds ++ power ++ rest) [] := .char rfl
  have hread : Reads scope digits ds (power ++ rest) [] := reads_digits hdigits hds hends
  have hperhaps : Reads scope (.opt perhaps exponent) power rest [] :=
    reads_opt_exponent hexponent hpower
  exact hpoint.seq_cons (hread.seq_cons hperhaps.seq_singleton)

theorem IsFraction.refuses (h : IsFraction rule) (hnone : ¬Begins Fraction rest) :
    Refuses scope rule rest := by
  obtain ⟨id, point, perhaps, digits, exponent, hdigits, hexponent, rfl⟩ := h
  by_cases hpoint : Avoids (CharClass.single '.').accepts rest
  · exact .seq_failed (.char hpoint)
  obtain ⟨c, more, rfl, hc⟩ := Text.exists_cons_of_not_avoids hpoint
  cases eq_of_beq hc
  have hmore : Avoids Char.isDigit more := by
    by_contra hdigit
    obtain ⟨c, after, rfl, hc⟩ := Text.exists_cons_of_not_avoids hdigit
    exact hnone ⟨['.', c], ⟨[c], ⟨List.cons_ne_nil _ _, by simpa⟩, rfl⟩, after, rfl⟩
  have hread : Reads scope (.char point (.single '.')) ['.'] more [] := .char rfl
  exact .seq_next hread (refuses_digits hdigits hmore).seq_failed

theorem IsFraction.generates (h : IsFraction rule) (hread : Generates scope rule read rest) :
    ∃ fraction power, Fraction fraction ∧ Optionally Exponent power ∧
      read = fraction ++ power := by
  obtain ⟨id, point, perhaps, digits, exponent, hdigits, hexponent, rfl⟩ := h
  obtain ⟨first, more, rfl, hfirst, hmore⟩ := hread.of_seq_cons
  obtain ⟨ds, power, rfl, hds, hpower⟩ := hmore.of_seq_cons
  obtain ⟨c, rfl, hc⟩ := hfirst.of_char
  have hpoint : c = '.' := eq_of_beq hc
  refine ⟨c :: ds, power, ⟨ds, generates_digits hdigits hds, by rw [hpoint]⟩, ?_, rfl⟩
  exact hpower.of_seq_singleton.of_opt.imp_right (generates_exponent hexponent)

theorem makes_float (h : float.Makes rule) :
    ∃ id id' whole fraction exponent, Lexical.digits.Makes whole ∧ IsFraction fraction ∧
      Lexical.exponent.Makes exponent ∧
      rule = .seq id [whole, .choice id' [fraction, exponent]] := by
  obtain ⟨whole, hwhole, h⟩ := h.bind
  obtain ⟨mark, hmark, h⟩ := h.bind
  obtain ⟨point, rfl⟩ := makes_ch hmark
  obtain ⟨digits, hdigits, h⟩ := h.bind
  obtain ⟨power, hpower, h⟩ := h.bind
  obtain ⟨option, hoption, h⟩ := h.bind
  obtain ⟨perhaps, rfl⟩ := makes_opt hoption
  obtain ⟨fraction, hfraction, h⟩ := h.bind
  obtain ⟨id'', rfl⟩ := makes_seq hfraction
  obtain ⟨exponent, hexponent, h⟩ := h.bind
  obtain ⟨tail, htail, h⟩ := h.bind
  obtain ⟨id', rfl⟩ := makes_choice htail
  obtain ⟨id, rfl⟩ := makes_seq h
  exact ⟨id, id', whole, _, exponent, hwhole, ⟨_, _, _, _, _, hdigits, hpower, rfl⟩, hexponent, rfl⟩

theorem reads_float {part power : List Char} (h : float.Makes rule)
    (hcut : Cut read part power rest) (hsome : part ++ power ≠ []) :
    Reads scope rule (read ++ (part ++ power)) rest [] := by
  obtain ⟨id, id', whole, fraction, exponent, hwhole, hpart, hexponent, rfl⟩ := makes_float h
  have hread : Reads scope whole read (part ++ power ++ rest) [] := by
    rw [List.append_assoc]
    exact reads_digits hwhole hcut.digits hcut.ends
  have htail : Reads scope (.choice id' [fraction, exponent]) (part ++ power) rest [] := by
    rcases hcut.fraction with ⟨hfraction, hends⟩ | ⟨rfl, hnone⟩
    · exact .choice_first (hpart.reads hfraction hends hcut.exponent)
    · obtain ⟨hpower, hrest⟩ := hcut.exponent.resolve_right fun hempty => hsome hempty.1
      exact .choice_next (hpart.refuses hnone)
        (.choice_first (reads_exponent hexponent hpower hrest))
  exact hread.seq_cons htail.seq_singleton

theorem refuses_float (h : float.Makes rule) (hrest : Avoids Char.isDigit rest) :
    Refuses scope rule rest := by
  obtain ⟨id, id', whole, part, exponent, hwhole, hpart, hexponent, rfl⟩ := makes_float h
  exact (refuses_digits hwhole hrest).seq_failed

/-- Digits alone are no float. -/
theorem refuses_float_of_digits (h : float.Makes rule) (hcut : Cut read [] [] rest) :
    Refuses scope rule (read ++ rest) := by
  obtain ⟨id, id', whole, fraction, exponent, hwhole, hpart, hexponent, rfl⟩ := makes_float h
  obtain ⟨-, hnone⟩ := hcut.fraction.resolve_left nofun
  obtain ⟨-, hnone'⟩ := hcut.exponent.resolve_left nofun
  have hread : Reads scope whole read rest [] := reads_digits hwhole hcut.digits hcut.ends
  have htail : Refuses scope (.choice id' [fraction, exponent]) rest :=
    .choice_next (hpart.refuses hnone)
      (.choice_next (refuses_exponent hexponent hnone') .choice_nil)
  exact .seq_next hread htail.seq_failed

theorem generates_float (h : float.Makes rule) (hread : Generates scope rule read rest) :
    ∃ digits fraction power, Digits digits ∧ Optionally Fraction fraction ∧
      Optionally Exponent power ∧ fraction ++ power ≠ [] ∧
      read = digits ++ (fraction ++ power) := by
  obtain ⟨id, id', whole, part, exponent, hwhole, hpart, hexponent, rfl⟩ := makes_float h
  obtain ⟨digits, tail, rfl, hfirst, htail⟩ := hread.of_seq_cons
  have hdigits : Digits digits := generates_digits hwhole hfirst
  obtain ⟨taken, htaken, hend⟩ := htail.of_seq_singleton.of_choice
  rcases List.mem_pair.1 htaken with rfl | rfl
  · obtain ⟨fraction, power, hfraction, hpower, rfl⟩ := hpart.generates hend
    refine ⟨digits, fraction, power, hdigits, .inr hfraction, hpower, ?_, rfl⟩
    obtain ⟨ds, -, rfl⟩ := hfraction
    exact List.cons_ne_nil _ _
  · have hpower := generates_exponent hexponent hend
    refine ⟨digits, [], tail, hdigits, .inl rfl, .inr hpower, ?_, rfl⟩
    obtain ⟨letter, sign, ds, -, -, -, rfl⟩ := hpower
    exact List.cons_ne_nil _ _

/-! ## Words -/

theorem makes_word (h : (word text).Makes rule) :
    ∃ id mark guard alphanumeric, Lexical.alphanumeric.Makes alphanumeric ∧
      rule = .seq id [.literal mark text, .notAhead guard alphanumeric] := by
  obtain ⟨start, hstart, h⟩ := h.bind
  obtain ⟨mark, rfl⟩ := makes_literal hstart
  obtain ⟨alphanumeric, halphanumeric, h⟩ := h.bind
  obtain ⟨stop, hstop, h⟩ := h.bind
  obtain ⟨guard, rfl⟩ := makes_notAhead hstop
  obtain ⟨id, rfl⟩ := makes_seq h
  exact ⟨id, mark, guard, alphanumeric, halphanumeric, rfl⟩

theorem reads_word (h : (word text).Makes rule) (hrest : Avoids Unicode.isAlphanumeric rest) :
    Reads scope rule text.toList rest [] := by
  obtain ⟨id, mark, guard, alphanumeric, halphanumeric, rfl⟩ := makes_word h
  obtain ⟨id', rfl⟩ := makes_satisfy halphanumeric
  have hclear : Refuses scope (.char id' (.satisfying "alphanumeric" Unicode.isAlphanumeric)) rest :=
    .char hrest
  have hguard : Reads scope (.notAhead guard _) [] rest [] := .notAhead hclear
  have hread : Reads scope (.literal mark text) text.toList rest [] := .literal text
  rw [← List.append_nil text.toList]
  exact hread.seq_cons hguard.seq_singleton

theorem refuses_word (h : (word text).Makes rule) (hrest : ¬text.toList <+: rest) :
    Refuses scope rule rest := by
  obtain ⟨id, mark, guard, alphanumeric, -, rfl⟩ := makes_word h
  exact .seq_failed (.literal hrest)

theorem generates_word (h : (word text).Makes rule) (hread : Generates scope rule read rest) :
    read = text.toList := by
  obtain ⟨id, mark, guard, alphanumeric, -, rfl⟩ := makes_word h
  obtain ⟨first, more, rfl, hfirst, hmore⟩ := hread.of_seq_cons
  rw [hmore.of_seq_singleton.of_notAhead, List.append_nil, hfirst.of_literal]

/-! ## Strings -/

/-- The characters that stand for another one after a backslash. -/
def simpleEscapes : List Char := ['"', '\x27', '\\', '/', 'b', 'f', 'n', 'r', 't']

/-- A backslash and a character that it may stand before, or the letter `u` and four
hexadecimal digits. -/
def Escape (text : List Char) : Prop :=
  (∃ c ∈ simpleEscapes, text = ['\\', c]) ∨
    ∃ digits, digits.length = 4 ∧ (∀ c ∈ digits, isHexDigit c = true) ∧
      text = '\\' :: 'u' :: digits

theorem accepts_simpleEscape {c : Char} :
    (CharClass.oneOf "\"'\\/bfnrt").accepts c = true ↔ c ∈ simpleEscapes := by
  simp [CharClass.accepts, simpleEscapes]

theorem makes_escape (h : escape.Makes rule) :
    ∃ id id' id'' simple code letter digits, digits.length = 4 ∧
      (∀ digit ∈ digits, hexDigit.Makes digit) ∧
      rule = .seq id [.char id' (.single '\\'), .choice id''
        [.char simple (.oneOf "\"'\\/bfnrt"), .seq code (.char letter (.single 'u') :: digits)]] := by
  obtain ⟨backslash, hbackslash, h⟩ := h.bind
  obtain ⟨id', rfl⟩ := makes_ch hbackslash
  obtain ⟨short, hshort, h⟩ := h.bind
  obtain ⟨simple, rfl⟩ := makes_oneOf hshort
  obtain ⟨mark, hmark, h⟩ := h.bind
  obtain ⟨letter, rfl⟩ := makes_ch hmark
  obtain ⟨first, hfirst, h⟩ := h.bind
  obtain ⟨second, hsecond, h⟩ := h.bind
  obtain ⟨third, hthird, h⟩ := h.bind
  obtain ⟨fourth, hfourth, h⟩ := h.bind
  obtain ⟨long, hlong, h⟩ := h.bind
  obtain ⟨code, rfl⟩ := makes_seq hlong
  obtain ⟨either, heither, h⟩ := h.bind
  obtain ⟨id'', rfl⟩ := makes_choice heither
  obtain ⟨id, rfl⟩ := makes_seq h
  exact ⟨id, id', id'', simple, code, letter, [first, second, third, fourth], rfl,
    by simp [*], rfl⟩

theorem reads_hexDigits {id : RuleId} {digits : List Rule} (hlen : digits.length = read.length)
    (h : ∀ digit ∈ digits, hexDigit.Makes digit) (hread : ∀ c ∈ read, isHexDigit c = true) :
    Reads scope (.seq id digits) read rest [] := by
  induction digits generalizing read with
  | nil =>
    rw [List.eq_nil_of_length_eq_zero hlen.symm]
    exact .seq_nil
  | cons digit digits ih =>
    obtain ⟨c, more, rfl⟩ := List.exists_cons_of_length_eq_add_one hlen.symm
    obtain ⟨hdigit, hdigits⟩ := List.forall_mem_cons.1 h
    obtain ⟨hc, hmore⟩ := List.forall_mem_cons.1 hread
    obtain ⟨id', rfl⟩ := makes_satisfy hdigit
    have hfirst : Reads scope (.char id' (.satisfying "hex digit" isHexDigit)) [c] (more ++ rest) [] :=
      .char hc
    exact hfirst.seq_cons (ih (Nat.succ.inj hlen) hdigits hmore)

theorem generates_hexDigits {id : RuleId} {digits : List Rule}
    (h : ∀ digit ∈ digits, hexDigit.Makes digit)
    (hread : Generates scope (.seq id digits) read rest) :
    read.length = digits.length ∧ ∀ c ∈ read, isHexDigit c = true := by
  induction digits generalizing read with
  | nil =>
    rw [hread.of_seq_nil]
    exact ⟨rfl, List.forall_mem_nil _⟩
  | cons digit digits ih =>
    obtain ⟨hdigit, hdigits⟩ := List.forall_mem_cons.1 h
    obtain ⟨first, more, rfl, hfirst, hmore⟩ := hread.of_seq_cons
    obtain ⟨id', rfl⟩ := makes_satisfy hdigit
    obtain ⟨c, rfl, hc⟩ := hfirst.of_char
    obtain ⟨hlen, hall⟩ := ih hdigits hmore
    exact ⟨congrArg (· + 1) hlen, List.forall_mem_cons.2 ⟨hc, hall⟩⟩

theorem reads_escape (h : escape.Makes rule) (hescape : Escape read) :
    Reads scope rule read rest [] := by
  obtain ⟨id, id', id'', simple, code, letter, digits, hlen, hdigits, rfl⟩ := makes_escape h
  rcases hescape with ⟨c, hc, rfl⟩ | ⟨hex, hcount, hhex, rfl⟩
  · have hbackslash : Reads scope (.char id' (.single '\\')) ['\\'] (c :: rest) [] := .char rfl
    have hshort : Reads scope (.char simple (.oneOf "\"'\\/bfnrt")) [c] rest [] :=
      .char (accepts_simpleEscape.2 hc)
    exact hbackslash.seq_cons hshort.choice_first.seq_singleton
  · have hbackslash : Reads scope (.char id' (.single '\\')) ['\\'] ('u' :: (hex ++ rest)) [] :=
      .char rfl
    have hshort : Refuses scope (.char simple (.oneOf "\"'\\/bfnrt")) ('u' :: (hex ++ rest)) :=
      .char (Text.avoids_cons.2 (by decide))
    have hletter : Reads scope (.char letter (.single 'u')) ['u'] (hex ++ rest) [] := .char rfl
    have hlong : Reads scope (.seq code (.char letter (.single 'u') :: digits)) ('u' :: hex) rest [] :=
      hletter.seq_cons (reads_hexDigits (hlen.trans hcount.symm) hdigits hhex)
    exact hbackslash.seq_cons (Reads.choice_next hshort hlong.choice_first).seq_singleton

theorem refuses_escape (h : escape.Makes rule) (hrest : Avoids (· == '\\') rest) :
    Refuses scope rule rest := by
  obtain ⟨id, id', id'', simple, code, letter, digits, hlen, hdigits, rfl⟩ := makes_escape h
  exact .seq_failed (.char hrest)

theorem generates_escape (h : escape.Makes rule) (hread : Generates scope rule read rest) :
    Escape read := by
  obtain ⟨id, id', id'', simple, code, letter, digits, hlen, hdigits, rfl⟩ := makes_escape h
  obtain ⟨first, more, rfl, hfirst, hmore⟩ := hread.of_seq_cons
  obtain ⟨backslash, rfl, hbackslash⟩ := hfirst.of_char
  cases eq_of_beq hbackslash
  obtain ⟨taken, htaken, hmore⟩ := hmore.of_seq_singleton.of_choice
  rcases List.mem_pair.1 htaken with rfl | rfl
  · obtain ⟨c, rfl, hc⟩ := hmore.of_char
    exact .inl ⟨c, accepts_simpleEscape.1 hc, rfl⟩
  · obtain ⟨mark, hex, rfl, hmark, hhex⟩ := hmore.of_seq_cons
    obtain ⟨u, rfl, hu⟩ := hmark.of_char
    cases eq_of_beq hu
    obtain ⟨hcount, hall⟩ := generates_hexDigits hdigits hhex
    exact .inr ⟨hex, hcount.trans hlen, hall, rfl⟩

/-- What may stand between two quotes: characters other than the quote and the
backslash, and escapes. -/
inductive Units (quote : Char) : List Char → Prop where
  | nil : Units quote []
  | plain {c : Char} {text : List Char} :
      c ≠ quote → c ≠ '\\' → Units quote text → Units quote (c :: text)
  | escape {first text : List Char} : Escape first → Units quote text → Units quote (first ++ text)

/-- Text between two quotes. -/
def Quoted (quote : Char) (text : List Char) : Prop :=
  ∃ units, Units quote units ∧ text = quote :: (units ++ [quote])

theorem accepts_plain {quote c : Char} :
    (CharClass.noneOf (String.ofList [quote, '\\'])).accepts c = true ↔ c ≠ quote ∧ c ≠ '\\' := by
  simp [CharClass.accepts]

/-- The rule reads one unit of a string: an escape, or a character as it is. -/
def IsUnit (quote : Char) (rule : Rule) : Prop :=
  ∃ id escape plain, Lexical.escape.Makes escape ∧
    rule = .choice id [escape, .char plain (.noneOf (String.ofList [quote, '\\']))]

namespace IsUnit

variable {quote c : Char}

theorem reads_escape (h : IsUnit quote rule) (hread : Escape read) :
    Reads scope rule read rest [] := by
  obtain ⟨id, escape, plain, hescape, rfl⟩ := h
  exact .choice_first (Lexical.reads_escape hescape hread)

theorem reads_plain (h : IsUnit quote rule) (hquote : c ≠ quote) (hbackslash : c ≠ '\\') :
    Reads scope rule [c] rest [] := by
  obtain ⟨id, escape, plain, hescape, rfl⟩ := h
  have hnot : Refuses scope escape (c :: rest) :=
    refuses_escape hescape (Text.avoids_cons.2 (beq_false_of_ne hbackslash))
  exact .choice_next hnot (.choice_first (.char (accepts_plain.2 ⟨hquote, hbackslash⟩)))

theorem refuses (h : IsUnit quote rule) (hquote : quote ≠ '\\') :
    Refuses scope rule (quote :: rest) := by
  obtain ⟨id, escape, plain, hescape, rfl⟩ := h
  have hnot : Refuses scope escape (quote :: rest) :=
    refuses_escape hescape (Text.avoids_cons.2 (beq_false_of_ne hquote))
  refine .choice_next hnot (.choice_next (.char (Text.avoids_cons.2 ?_)) .choice_nil)
  exact Bool.eq_false_iff.2 fun hc => (accepts_plain.1 hc).1 rfl

/-- What the rule generates may stand in front of other units. -/
theorem generates (h : IsUnit quote rule) (hread : Generates scope rule read rest)
    (hmore : Units quote more) : Units quote (read ++ more) := by
  obtain ⟨id, escape, plain, hescape, rfl⟩ := h
  obtain ⟨taken, htaken, hunit⟩ := hread.of_choice
  rcases List.mem_pair.1 htaken with rfl | rfl
  · exact .escape (generates_escape hescape hunit) hmore
  · obtain ⟨c, rfl, hc⟩ := hunit.of_char
    exact .plain (accepts_plain.1 hc).1 (accepts_plain.1 hc).2 hmore

end IsUnit

theorem makes_quotedString {quote : Char} (h : (quotedString quote).Makes rule) :
    ∃ id opening body unit closing, IsUnit quote unit ∧
      rule = .seq id [.char opening (.single quote), .zeroOrMore body unit,
        .char closing (.single quote)] := by
  obtain ⟨other, hother, h⟩ := h.bind
  obtain ⟨plain, rfl⟩ := makes_noneOf hother
  obtain ⟨first, hfirst, h⟩ := h.bind
  obtain ⟨opening, rfl⟩ := makes_ch hfirst
  obtain ⟨escape, hescape, h⟩ := h.bind
  obtain ⟨unit, hunit, h⟩ := h.bind
  obtain ⟨either, rfl⟩ := makes_choice hunit
  obtain ⟨units, hunits, h⟩ := h.bind
  obtain ⟨body, rfl⟩ := makes_zeroOrMore hunits
  obtain ⟨last, hlast, h⟩ := h.bind
  obtain ⟨closing, rfl⟩ := makes_ch hlast
  obtain ⟨id, rfl⟩ := makes_seq h
  exact ⟨id, opening, body, _, closing, ⟨either, escape, plain, hescape, rfl⟩, rfl⟩

theorem reads_quotedString {quote : Char} (h : (quotedString quote).Makes rule)
    (hquote : quote ≠ '\\') (hquoted : Quoted quote read) : Reads scope rule read rest [] := by
  obtain ⟨id, opening, body, unit, closing, hunit, rfl⟩ := makes_quotedString h
  obtain ⟨units, hunits, rfl⟩ := hquoted
  have hfirst : Reads scope (.char opening (.single quote)) [quote] (units ++ [quote] ++ rest) [] :=
    .char (beq_self_eq_true quote)
  have hlast : Reads scope (.char closing (.single quote)) [quote] rest [] :=
    .char (beq_self_eq_true quote)
  have hbody : Reads scope (.zeroOrMore body unit) units ([quote] ++ rest) [] := by
    clear hfirst
    induction hunits with
    | nil => exact .zeroOrMore_ended (hunit.refuses hquote)
    | plain hc hbackslash _ ih => exact (hunit.reads_plain hc hbackslash).zeroOrMore_next ih
    | escape hescape _ ih => exact (hunit.reads_escape hescape).zeroOrMore_next ih
  exact hfirst.seq_cons (hbody.seq_cons hlast.seq_singleton)

theorem refuses_quotedString {quote : Char} (h : (quotedString quote).Makes rule)
    (hrest : Avoids (· == quote) rest) : Refuses scope rule rest := by
  obtain ⟨id, opening, body, unit, closing, -, rfl⟩ := makes_quotedString h
  exact .seq_failed (.char hrest)

theorem generates_quotedString {quote : Char} (h : (quotedString quote).Makes rule)
    (hread : Generates scope rule read rest) : Quoted quote read := by
  obtain ⟨id, opening, body, unit, closing, hunit, rfl⟩ := makes_quotedString h
  obtain ⟨first, more, rfl, hfirst, hmore⟩ := hread.of_seq_cons
  obtain ⟨units, last, rfl, hunits, hlast⟩ := hmore.of_seq_cons
  obtain ⟨c, rfl, hc⟩ := hfirst.of_char
  obtain ⟨c', rfl, hc'⟩ := hlast.of_seq_singleton.of_char
  cases eq_of_beq hc
  cases eq_of_beq hc'
  exact ⟨units, hunits.of_zeroOrMore .nil hunit.generates, rfl⟩

/-! ## Lists -/

/-- The rule reads what comes after the first item of a list: separators with an item
after each. -/
def IsTail (item separator rule : Rule) : Prop :=
  ∃ id id', rule = .zeroOrMore id (.seq id' [separator, item])

theorem makes_list (h : (list item separator).Makes rule) :
    ∃ id id' tail, IsTail item separator tail ∧ rule = .opt id (.seq id' [item, tail]) := by
  obtain ⟨step, hstep, h⟩ := h.bind
  obtain ⟨inner, rfl⟩ := makes_seq hstep
  obtain ⟨tail, htail, h⟩ := h.bind
  obtain ⟨outer, rfl⟩ := makes_zeroOrMore htail
  obtain ⟨whole, hwhole, h⟩ := h.bind
  obtain ⟨id', rfl⟩ := makes_seq hwhole
  obtain ⟨id, rfl⟩ := makes_opt h
  exact ⟨id, id', _, ⟨outer, inner, rfl⟩, rfl⟩

theorem IsTail.reads_nil (h : IsTail item separator rule) (hrest : Refuses scope separator rest) :
    Reads scope rule [] rest [] := by
  obtain ⟨id, id', rfl⟩ := h
  exact .zeroOrMore_ended hrest.seq_failed

theorem IsTail.reads_cons {mark : List Char} (h : IsTail item separator rule)
    (hmark : Reads scope separator mark (read ++ (more ++ rest)) [])
    (hread : Reads scope item read (more ++ rest) trees) (hmore : Reads scope rule more rest trees') :
    Reads scope rule (mark ++ read ++ more) rest (trees ++ trees') := by
  obtain ⟨id, id', rfl⟩ := h
  exact Reads.zeroOrMore_next (hmark.seq_cons hread.seq_singleton) hmore

theorem reads_list_nil (h : (list item separator).Makes rule) (hrest : Refuses scope item rest) :
    Reads scope rule [] rest [] := by
  obtain ⟨id, id', tail, -, rfl⟩ := makes_list h
  exact .opt_left hrest.seq_failed

end Lexical

end Packrat
