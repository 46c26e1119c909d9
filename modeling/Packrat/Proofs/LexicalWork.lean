import Packrat.Proofs.Budget

/-!
# What lexical rules spend

Lexical rules read no part of a text more than a few times. Numbers are the one case in which
a rule may fail far behind the place where it began, and the next alternative begins there
again; but all of them read the same digits first, and fail at once or pay for these.

- `Marked`: a rule that fails only after it has read up to a mark, behind which no match of it
  stops short.
- `Lexical.light_…`, `rejects_…`, `linear_…`: budgets of lexical rules.
- `Lexical.marked_float`, `marked_integer`: numbers, marked behind their first digits.
-/

namespace Packrat

open Text (Avoids)

variable {scope : Scope} {rule operand : Rule} {rules : List Rule} {id : RuleId}
  {ahead rest mark : List Char} {ending : Ending} {n w k k' s s' : Nat}

/-! ## Marks -/

/-- The rule has a linear budget. It fails having spent no more than what lies in front of the
mark is worth, and matches up to the mark at least. -/
structure Marked (scope : Scope) (s k : Nat) (rule : Rule) (ahead mark : List Char) : Prop where
  linear : Linear scope s k k Anywhere rule ahead
  mark_le : mark.length ≤ ahead.length
  failed : ∀ {n}, Spends scope rule ahead .failed n →
    (n : Int) + s * mark.length ≤ s * ahead.length + k
  beyond : ∀ {rest n}, Spends scope rule ahead (.matched rest) n → rest.length ≤ mark.length

namespace Marked

/-- What fails at once is marked where it begins. -/
theorem of_failed (h : Linear scope s k k Anywhere rule ahead)
    (hfailed : ∀ {n}, Spends scope rule ahead .failed n → n ≤ k) :
    Marked scope s k rule ahead ahead where
  linear := h
  mark_le := Nat.le_refl _
  failed hspends := by
    have := hfailed hspends
    omega
  beyond hspends := hspends.length_le

theorem of_light (h : Light scope k rule) : Marked scope s k rule ahead ahead :=
  of_failed (.of_light h) h.spent

theorem of_rejects (h : Rejects scope k rule ahead) (hle : mark.length ≤ ahead.length) :
    Marked scope s k rule ahead mark where
  linear := .of_rejects h
  mark_le := hle
  failed hspends := by
    have := h.spent hspends
    have := worth_le s hle
    omega
  beyond hspends := absurd hspends h.not_matched

theorem mono (h : Marked scope s k rule ahead mark) (d : Nat) :
    Marked scope (s + d) k rule ahead mark where
  linear := (h.linear.earn d 0 fun hspends => hspends.length_le).mono (Int.le_refl _) (by omega)
  mark_le := h.mark_le
  failed hspends := by
    have := h.failed hspends
    have := worth_le d h.mark_le
    rw [Int.natCast_add, Int.add_mul, Int.add_mul]
    omega
  beyond := h.beyond

/-- A sequence whose first part spends a constant fails as its second part does. -/
theorem seq_light (h : Light scope w rule)
    (hnext : ∀ mid, Marked scope s k (.seq id rules) mid mid) :
    Marked scope s (w + k) (.seq id (rule :: rules)) ahead ahead := by
  have hpos := (hnext []).linear.spent .refused
  rw [List.length_nil] at hpos
  refine of_failed (((Linear.of_light h).seq_cons fun _ => (hnext _).linear).mono ?_ ?_)
    fun hspends => ?_
  · omega
  · omega
  · rcases hspends.of_seq_cons with ⟨m, hle, hfirst, -⟩ | ⟨mid, m, l, rfl, hfirst, hrest⟩
    · have := h.spent hfirst
      omega
    · have := h.spent hfirst
      have := (hnext mid).failed hrest
      omega

/-- A sequence whose second part never fails is marked as its first part is. -/
theorem seq_sure (h : Marked scope s k rule ahead mark)
    (hnext : ∀ mid, Linear scope s k' k' Anywhere (.seq id rules) mid)
    (hsure : ∀ {mid n}, ¬Spends scope (.seq id rules) mid .failed n) :
    Marked scope s (k + k') (.seq id (rule :: rules)) ahead mark where
  linear := by
    have hpos := (hnext []).spent .refused
    rw [List.length_nil] at hpos
    refine (h.linear.seq_cons fun _ => hnext _).mono ?_ ?_
    all_goals omega
  mark_le := h.mark_le
  failed hspends := by
    have hpos := (hnext []).spent .refused
    rw [List.length_nil] at hpos
    rcases hspends.of_seq_cons with ⟨m, hle, hfirst, -⟩ | ⟨mid, m, l, rfl, hfirst, hrest⟩
    · have := h.failed hfirst
      omega
    · exact absurd hrest hsure
  beyond hspends := by
    rcases hspends.of_seq_cons with ⟨m, -, -, hnot⟩ | ⟨mid, m, l, rfl, hfirst, hrest⟩
    · exact absurd rfl (hnot _)
    · exact Nat.le_trans hrest.length_le (h.beyond hfirst)

/-- A sequence of one part is marked as that is. -/
theorem seq_singleton (h : Marked scope s k rule ahead mark) :
    Marked scope s (k + 1) (.seq id [rule]) ahead mark :=
  h.seq_sure (fun _ => .seq_nil) fun hspends => hspends.of_seq_nil.2.1 rfl

/-- A sequence is marked as its second part is, behind what its first part pays for. -/
theorem seq_cons (h : Marked scope s k rule ahead ahead) (hpos : 0 < k')
    (hle : mark.length ≤ ahead.length)
    (hnext : ∀ {mid n}, Spends scope rule ahead (.matched mid) n →
      Marked scope s k' (.seq id rules) mid mark) :
    Marked scope s (k + k') (.seq id (rule :: rules)) ahead mark where
  linear := by
    refine (h.linear.seq_cons fun hfirst => (hnext hfirst).linear).mono ?_ ?_
    all_goals omega
  mark_le := hle
  failed hspends := by
    rcases hspends.of_seq_cons with ⟨m, hm, hfirst, -⟩ | ⟨mid, m, l, rfl, hfirst, hrest⟩
    · have := h.failed hfirst
      have := worth_le s hle
      omega
    · have := h.linear.matched hfirst trivial
      have := (hnext hfirst).failed hrest
      omega
  beyond hspends := by
    rcases hspends.of_seq_cons with ⟨m, -, -, hnot⟩ | ⟨mid, m, l, rfl, hfirst, hrest⟩
    · exact absurd rfl (hnot _)
    · exact (hnext hfirst).beyond hrest

/-- Two alternatives with one mark: what the first has spent for nothing, a match of the second
can pay once more. -/
theorem choice_cons (h : Marked scope s k rule ahead mark)
    (hpos : 0 < k') (h' : Marked scope s' k' (.choice id rules) ahead mark) :
    Marked scope (s + s') (k + k') (.choice id (rule :: rules)) ahead mark := by
  have hworth := worth_le s' (Nat.zero_le ahead.length)
  constructor
  case linear =>
    constructor
    case spent =>
      intro ending n hspends
      rw [Int.natCast_add, Int.add_mul, Int.natCast_add]
      rcases hspends.of_choice_cons with ⟨m, hle, hfirst, -⟩ | ⟨m, l, rfl, hfirst, hrest⟩
      · have := h.linear.spent hfirst
        omega
      · have := h.linear.spent hfirst
        have := h'.linear.spent hrest
        omega
    case matched =>
      intro rest n hspends _
      rw [Int.natCast_add, Int.add_mul, Int.add_mul, Int.natCast_add]
      rcases hspends.of_choice_cons with ⟨m, hle, hfirst, -⟩ | ⟨m, l, rfl, hfirst, hrest⟩
      · have := h.linear.matched hfirst trivial
        have := worth_le s' hfirst.length_le
        omega
      · have := h.failed hfirst
        have := worth_le s (h'.beyond hrest)
        have := h'.linear.matched hrest trivial
        omega
  case mark_le => exact h.mark_le
  case failed =>
    intro n hspends
    rw [Int.natCast_add, Int.add_mul, Int.add_mul, Int.natCast_add]
    rcases hspends.of_choice_cons with ⟨m, -, -, hnot⟩ | ⟨m, l, rfl, hfirst, hrest⟩
    · exact absurd rfl hnot
    · have := h.failed hfirst
      have := h'.failed hrest
      omega
  case beyond =>
    intro rest n hspends
    rcases hspends.of_choice_cons with ⟨m, hle, hfirst, -⟩ | ⟨m, l, rfl, hfirst, hrest⟩
    · exact h.beyond hfirst
    · exact h'.beyond hrest

theorem node (h : Marked scope s k operand ahead mark) :
    Marked scope s (k + 1) (.node id operand) ahead mark where
  linear := h.linear.node
  mark_le := h.mark_le
  failed hspends := by
    obtain ⟨m, hle, hoperand⟩ := hspends.of_node
    have := h.failed hoperand
    omega
  beyond hspends := by
    obtain ⟨m, hle, hoperand⟩ := hspends.of_node
    exact h.beyond hoperand

/-- An option never fails, so it may be marked where it begins. -/
theorem opt (h : Marked scope s k operand ahead ahead) :
    Marked scope s (k + 1) (.opt id operand) ahead ahead where
  linear := {
    spent := fun hspends => by
      rcases hspends.of_opt with ⟨m, hle, hoperand, -⟩ | ⟨m, rfl, hoperand, -⟩
      all_goals
        have := h.linear.spent hoperand
        omega
    matched := fun hspends _ => by
      rcases hspends.of_opt with ⟨m, hle, hoperand, -⟩ | ⟨m, rfl, hoperand, heq⟩
      · have := h.linear.matched hoperand trivial
        omega
      · cases heq
        have := h.failed hoperand
        omega }
  mark_le := Nat.le_refl _
  failed hspends := absurd hspends Spends.not_failed_opt
  beyond hspends := hspends.length_le

theorem oneOrMore (h : Light scope w operand) :
    Marked scope w (w + 1) (.oneOrMore id operand) ahead ahead := by
  refine of_failed (Linear.oneOrMore_light h) fun hspends => ?_
  rcases hspends.of_oneOrMore with ⟨m, hle, hoperand, -⟩ | ⟨mid, m, l, -, -, -, hmore⟩
  · have := h.spent hoperand
    omega
  · exact absurd hmore Spends.not_failed_zeroOrMore

end Marked

/-! ## Characters -/

namespace Spends

variable {id' : RuleId} {accepted : CharClass}

theorem of_char_matched (h : Spends scope (.char id accepted) ahead (.matched rest) n) :
    ∃ c, accepted.accepts c = true ∧ ahead = c :: rest := by
  obtain ⟨read, rfl, hread⟩ := h.generates rfl
  obtain ⟨c, rfl, hc⟩ := hread.of_char
  exact ⟨c, hc, rfl⟩

theorem of_char_failed (h : Spends scope (.char id accepted) ahead .failed n) :
    Avoids accepted.accepts ahead := by
  cases h with
  | unread _ hread =>
    cases ahead with
    | nil => exact Text.avoids_nil _
    | cons c more =>
      rw [Text.avoids_cons]
      cases hc : accepted.accepts c with
      | false => rfl
      | true => simp [Rule.reads?, hc] at hread

/-- A repetition reads all characters of its class. -/
theorem zeroOrMore_char
    (h : Spends scope (.zeroOrMore id (.char id' accepted)) ahead (.matched rest) n) :
    rest = ahead.dropWhile accepted.accepts := by
  induction ahead generalizing n with
  | nil =>
    obtain ⟨read, heq, -⟩ := h.generates rfl
    exact (List.append_eq_nil_iff.1 heq.symm).2
  | cons c more ih =>
    rcases h.of_zeroOrMore with ⟨m, ending', -, hchar, hnot, hended⟩ |
      ⟨mid, m, l, -, hchar, -, hmore⟩
    · obtain heq | ⟨hgoing, heq⟩ := hended
      · cases heq
      · cases heq
        cases ending' with
        | abandoned => exact absurd rfl hgoing
        | failed =>
          rw [List.dropWhile_cons_of_neg]
          rw [Text.avoids_cons.1 hchar.of_char_failed]
          exact Bool.false_ne_true
        | matched mid =>
          obtain ⟨c', -, heq⟩ := hchar.of_char_matched
          cases heq
          exact absurd (Nat.lt_succ_self _) (hnot _ rfl)
    · obtain ⟨c', hc, heq⟩ := hchar.of_char_matched
      cases heq
      rw [List.dropWhile_cons_of_pos hc]
      exact ih hmore

theorem oneOrMore_char
    (h : Spends scope (.oneOrMore id (.char id' accepted)) ahead (.matched rest) n) :
    rest = ahead.dropWhile accepted.accepts := by
  rcases h.of_oneOrMore with ⟨m, -, hchar, hnot⟩ | ⟨mid, m, l, -, hchar, -, hmore⟩
  · obtain ⟨c, -, rfl⟩ := hchar.of_char_matched
    exact absurd (Nat.lt_succ_self _) (hnot rest rfl)
  · obtain ⟨c, hc, rfl⟩ := hchar.of_char_matched
    rw [List.dropWhile_cons_of_pos hc]
    exact hmore.zeroOrMore_char

end Spends

/-! ## Lexical rules -/

namespace Lexical

open Builder

variable {made item separator : Rule} {text : String} {most debt : Int} {stops : List Char → Prop}
  {quote : Char}

theorem linear_blanks (h : blanks.Makes rule) (hs : 1 ≤ s) :
    Linear scope s 2 2 stops rule ahead := by
  obtain ⟨id, id', rfl⟩ := makes_blanks h
  obtain ⟨d, rfl⟩ := Nat.exists_eq_add_of_le hs
  have hone : Linear scope 1 2 2 stops (.zeroOrMore id (.char id' (.oneOf " \t\r\n"))) ahead :=
    .zeroOrMore_light .char
  exact (hone.earn d 0 fun hspends => hspends.length_le).mono (Int.le_refl _) (by omega)

/-- Blanks behind a rule cost a constant besides what they are worth. -/
theorem linear_lexeme (h : (lexeme rule).Makes made) (hs : 1 ≤ s)
    (hrule : Linear scope s most debt Anywhere rule ahead) :
    Linear scope s (max (most + 1) (debt + 3)) (debt + 3) stops made ahead := by
  obtain ⟨id, blanks, hblanks, rfl⟩ := makes_lexeme h
  exact hrule.seq_cons fun _ => (linear_blanks hblanks hs).seq_cons fun _ => .seq_nil

theorem rejects_lexeme (h : (lexeme rule).Makes made) (hrule : Rejects scope k rule ahead) :
    Rejects scope (k + 1) made ahead := by
  obtain ⟨id, blanks, hblanks, rfl⟩ := makes_lexeme h
  exact hrule.seq_cons

/-- Behind a symbol less lies ahead. -/
theorem length_lt_of_symbol (h : (symbol text).Makes made) (htext : text.toList ≠ [])
    (hspends : Spends scope made ahead (.matched rest) n) : rest.length + 1 ≤ ahead.length := by
  have hlength := List.length_pos_of_ne_nil htext
  obtain ⟨read, rfl, hread⟩ := hspends.generates rfl
  obtain ⟨blank, -, rfl⟩ := generates_symbol h hread
  simp only [List.length_append]
  omega

/-- A symbol is paid for by any of its characters. -/
theorem linear_symbol (h : (symbol text).Makes made) (hs : 1 ≤ s) (htext : text.toList ≠ []) :
    Linear scope s 4 (5 - s) stops made ahead := by
  obtain ⟨d, rfl⟩ := Nat.exists_eq_add_of_le hs
  have hsymbol : Linear scope 1 4 4 stops made ahead := by
    obtain ⟨mark, hmark, h⟩ := h.bind
    obtain ⟨id, rfl⟩ := makes_literal hmark
    exact linear_lexeme h (Nat.le_refl 1) (.of_light .literal)
  exact (hsymbol.earn d 1 (length_lt_of_symbol h htext)).mono (Int.le_refl _) (by omega)

theorem rejects_symbol (h : (symbol text).Makes made) (hrest : ¬text.toList <+: ahead) :
    Rejects scope 2 made ahead := by
  obtain ⟨mark, hmark, h⟩ := h.bind
  obtain ⟨id, rfl⟩ := makes_literal hmark
  exact rejects_lexeme h (.literal hrest)

/-! ### Numbers -/

theorem marked_digits (h : digits.Makes rule) : Marked scope 1 2 rule ahead ahead := by
  obtain ⟨id, id', rfl⟩ := makes_digits h
  exact .oneOrMore .char

/-- Where digits end does not depend on the rule that reads them. -/
theorem eq_dropWhile_of_digits (h : digits.Makes rule)
    (hspends : Spends scope rule ahead (.matched rest) n) :
    rest = ahead.dropWhile Char.isDigit := by
  obtain ⟨id, id', rfl⟩ := makes_digits h
  rw [← accepts_digit]
  exact hspends.oneOrMore_char

theorem rejects_digits (h : digits.Makes rule) (hrest : Avoids Char.isDigit ahead) :
    Rejects scope 2 rule ahead := by
  obtain ⟨id, id', rfl⟩ := makes_digits h
  exact .oneOrMore (.char (accepts_digit ▸ hrest))

/-- Digits, and what goes on behind them without failing late. -/
theorem marked_seq_digits (h : digits.Makes rule) (hs : 1 ≤ s) (hpos : 0 < k)
    (hnext : ∀ mid, Marked scope s k (.seq id rules) mid mid) :
    Marked scope s (2 + k) (.seq id (rule :: rules)) ahead (ahead.dropWhile Char.isDigit) := by
  obtain ⟨d, rfl⟩ := Nat.exists_eq_add_of_le hs
  refine ((marked_digits h).mono d).seq_cons hpos (List.dropWhile_suffix _).length_le
    fun hspends => ?_
  rw [← eq_dropWhile_of_digits h hspends]
  exact hnext _

theorem marked_integer (h : integer.Makes rule) :
    Marked scope 2 5 rule ahead (ahead.dropWhile Char.isDigit) := by
  obtain ⟨id, digits, id', id'', hdigits, rfl⟩ := makes_integer h
  have hguard : Light scope 3 (.seq id [.notAhead id' (.char id'' (.single '.'))]) :=
    .seq (w := 2) (List.forall_mem_singleton.2 (.notAhead .char))
  exact marked_seq_digits hdigits (by decide) (by decide) fun _ => .of_light hguard

theorem rejects_integer (h : integer.Makes rule) (hrest : Avoids Char.isDigit ahead) :
    Rejects scope 3 rule ahead := by
  obtain ⟨id, digits, id', id'', hdigits, rfl⟩ := makes_integer h
  exact (rejects_digits hdigits hrest).seq_cons

theorem marked_exponent (h : exponent.Makes rule) : Marked scope 1 6 rule ahead ahead := by
  obtain ⟨id, id', id'', sign, digits, hdigits, rfl⟩ := makes_exponent h
  exact .seq_light .char fun _ => .seq_light (.opt .char) fun _ =>
    (marked_digits hdigits).seq_singleton

theorem IsFraction.marked (h : IsFraction rule) : Marked scope 1 11 rule ahead ahead := by
  obtain ⟨id, point, perhaps, digits, exponent, hdigits, hexponent, rfl⟩ := h
  have hpower (mid : List Char) : Marked scope 1 8 (.seq id [.opt perhaps exponent]) mid mid :=
    (Marked.opt (marked_exponent hexponent)).seq_singleton
  refine .seq_light .char fun _ => (marked_digits hdigits).seq_sure (fun _ => (hpower _).linear) ?_
  intro mid n hspends
  rcases hspends.of_seq_cons with ⟨m, -, hfirst, -⟩ | ⟨stop, m, l, -, -, hrest⟩
  · exact Spends.not_failed_opt hfirst
  · exact hrest.of_seq_nil.2.1 rfl

/-- **A float that fails has read no further than its digits**, or next to nothing more. -/
theorem marked_float (h : float.Makes rule) :
    Marked scope 3 21 rule ahead (ahead.dropWhile Char.isDigit) := by
  obtain ⟨id, id', whole, fraction, exponent, hwhole, hfraction, hexponent, rfl⟩ := makes_float h
  have hnone (mid : List Char) : Marked scope 0 1 (.choice id' []) mid mid :=
    .of_rejects .choice_nil (Nat.le_refl _)
  have htail (mid : List Char) : Marked scope 2 18 (.choice id' [fraction, exponent]) mid mid :=
    hfraction.marked.choice_cons (by decide)
      ((marked_exponent hexponent).choice_cons (by decide) (hnone mid))
  have hrest (mid : List Char) :
      Marked scope 3 19 (.seq id [.choice id' [fraction, exponent]]) mid mid :=
    ((htail mid).mono 1).seq_singleton
  exact marked_seq_digits hwhole (by decide) (by decide) hrest

theorem rejects_float (h : float.Makes rule) (hrest : Avoids Char.isDigit ahead) :
    Rejects scope 3 rule ahead := by
  obtain ⟨id, id', whole, fraction, exponent, hwhole, hfraction, hexponent, rfl⟩ := makes_float h
  exact (rejects_digits hwhole hrest).seq_cons

/-! ### Words and strings -/

theorem light_word (h : (word text).Makes rule) : Light scope 5 rule := by
  obtain ⟨id, mark, guard, alphanumeric, halphanumeric, rfl⟩ := makes_word h
  obtain ⟨id', rfl⟩ := makes_satisfy halphanumeric
  exact .seq (w := 2) (List.forall_mem_cons.2
    ⟨Light.literal.mono (by decide), List.forall_mem_singleton.2 (.notAhead .char)⟩)

theorem rejects_word (h : (word text).Makes rule) (hrest : ¬text.toList <+: ahead) :
    Rejects scope 2 rule ahead := by
  obtain ⟨id, mark, guard, alphanumeric, halphanumeric, rfl⟩ := makes_word h
  exact (Rejects.literal hrest).seq_cons

theorem light_escape (h : escape.Makes rule) : Light scope 27 rule := by
  obtain ⟨id, id', id'', simple, code, letter, digits, hlen, hdigits, rfl⟩ := makes_escape h
  have hdigit : ∀ digit ∈ digits, Light scope 1 digit := fun digit hmem => by
    obtain ⟨id, rfl⟩ := makes_satisfy (hdigits digit hmem)
    exact .char
  have hcode : Light scope 6 (.seq code (.char letter (.single 'u') :: digits)) := by
    have hall : Light scope (1 * (digits.length + 1) + 1)
        (.seq code (.char letter (.single 'u') :: digits)) :=
      .seq (List.forall_mem_cons.2 ⟨.char, hdigit⟩)
    rwa [hlen] at hall
  have hchoice : Light scope 13 (.choice id'' [.char simple (.oneOf "\"'\\/bfnrt"),
      .seq code (.char letter (.single 'u') :: digits)]) :=
    .choice (w := 6) (List.forall_mem_cons.2
      ⟨Light.char.mono (by decide), List.forall_mem_singleton.2 hcode⟩)
  exact .seq (w := 13) (List.forall_mem_cons.2
    ⟨Light.char.mono (by decide), List.forall_mem_singleton.2 hchoice⟩)

theorem IsUnit.light (h : IsUnit quote rule) : Light scope 55 rule := by
  obtain ⟨id, escape, plain, hescape, rfl⟩ := h
  exact .choice (w := 27) (List.forall_mem_cons.2
    ⟨light_escape hescape, List.forall_mem_singleton.2 (Light.char.mono (by decide))⟩)

theorem linear_quotedString (h : (quotedString quote).Makes rule) :
    Linear scope 55 59 59 stops rule ahead := by
  obtain ⟨id, opening, body, unit, closing, hunit, rfl⟩ := makes_quotedString h
  have hlast (mid : List Char) :
      Linear scope 55 2 2 stops (.seq id [.char closing (.single quote)]) mid :=
    (Linear.of_light .char).seq_cons fun _ => .seq_nil
  exact (Linear.of_light .char).seq_cons fun _ =>
    (Linear.zeroOrMore_light hunit.light).seq_cons fun _ => hlast _

theorem rejects_quotedString (h : (quotedString quote).Makes rule)
    (hrest : Avoids (· == quote) ahead) : Rejects scope 2 rule ahead := by
  obtain ⟨id, opening, body, unit, closing, hunit, rfl⟩ := makes_quotedString h
  have hopening : Rejects scope 1 (.char opening (.single quote)) ahead := .char hrest
  exact hopening.seq_cons

end Lexical

end Packrat
