import Packrat.Proofs.Lexemes
import Packrat.Proofs.Work

/-!
# Budgets

Bounds on what rules spend that are put together as the rules are. A match is paid for by the
characters that it reads, so that what is spent in front of a text is linear in its length,
unless a part of the text is read again and again.

- `Light`: a rule that spends no more than a constant anywhere.
- `Rejects`: a rule that fails in front of a text and spends no more than a constant on that.
- `Linear`: a rule that spends so much for each character ahead, and where it matches, no more
  than that for each that it reads; what is left to pay is its debt.
- `Linear.earn`: a match that reads something pays a debt by more fuel for each character.
- `Linear.zeroOrMore`: what is in debt for no match may be repeated.
- `Linear.run_ne_execFuel`: fuel in proportion to the input does not run out.
-/

namespace Packrat

open Text (Avoids)

variable {scope : Scope} {rule operand : Rule} {rules : List Rule} {id : RuleId}
  {ahead rest mark : List Char} {ending : Ending} {n w k : Nat}

/-! ## What parts spend -/

/-- What reads input itself is not made of other rules. -/
theorem Rule.operands_eq_nil (h : rule.isPrimitive = true) : rule.operands = [] := by
  cases rule <;> first | rfl | cases h

namespace Spends

theorem of_isPrimitive (hprimitive : rule.isPrimitive = true)
    (h : Spends scope rule ahead ending n) : n = 1 := by
  cases h with
  | refused | read | unread => rfl
  | abandoned hoperands =>
    rw [Rule.operands_eq_nil hprimitive] at hoperands
    cases hoperands
  | _ => cases hprimitive

theorem of_seq_nil (h : Spends scope (.seq id []) ahead ending n) :
    n = 1 ∧ ending ≠ .failed ∧ ∀ rest, ending = .matched rest → rest = ahead := by
  cases h with
  | refused => exact ⟨rfl, nofun, nofun⟩
  | abandoned hoperands => cases hoperands
  | read hprimitive | unread hprimitive => cases hprimitive
  | seq_nil => exact ⟨rfl, nofun, fun rest heq => (Ending.matched.inj heq).symm⟩

/-- A sequence ends with its first part, or as the rest does behind a match of that. -/
theorem of_seq_cons (h : Spends scope (.seq id (rule :: rules)) ahead ending n) :
    (∃ m, n ≤ m + 1 ∧ Spends scope rule ahead ending m ∧ ∀ rest, ending ≠ .matched rest) ∨
      ∃ mid m k, n = m + k ∧ Spends scope rule ahead (.matched mid) m ∧
        Spends scope (.seq id rules) mid ending k := by
  cases h with
  | refused => exact .inl ⟨1, Nat.le_succ 1, .refused, nofun⟩
  | abandoned hoperands h =>
    cases hoperands
    exact .inl ⟨_, Nat.le_refl _, h, nofun⟩
  | read hprimitive | unread hprimitive => cases hprimitive
  | seq_failed h => exact .inl ⟨_, Nat.le_refl _, h, nofun⟩
  | seq_next h h' => exact .inr ⟨_, _, _, rfl, h, h'⟩

theorem of_choice_nil (h : Spends scope (.choice id []) ahead ending n) :
    n = 1 ∧ ∀ rest, ending ≠ .matched rest := by
  cases h with
  | refused => exact ⟨rfl, nofun⟩
  | abandoned hoperands => cases hoperands
  | read hprimitive | unread hprimitive => cases hprimitive
  | choice_nil => exact ⟨rfl, nofun⟩

/-- A choice ends with its first alternative, or as the rest does after a failure of that. -/
theorem of_choice_cons (h : Spends scope (.choice id (rule :: rules)) ahead ending n) :
    (∃ m, n ≤ m + 1 ∧ Spends scope rule ahead ending m ∧ ending ≠ .failed) ∨
      ∃ m k, n = m + k ∧ Spends scope rule ahead .failed m ∧
        Spends scope (.choice id rules) ahead ending k := by
  cases h with
  | refused => exact .inl ⟨1, Nat.le_succ 1, .refused, nofun⟩
  | abandoned hoperands h =>
    cases hoperands
    exact .inl ⟨_, Nat.le_refl _, h, nofun⟩
  | read hprimitive | unread hprimitive => cases hprimitive
  | choice_first h => exact .inl ⟨_, Nat.le_refl _, h, nofun⟩
  | choice_next h h' => exact .inr ⟨_, _, rfl, h, h'⟩

/-- A lookahead spends what its operand does and reads nothing. -/
theorem of_notAhead (h : Spends scope (.notAhead id operand) ahead ending n) :
    ∃ m ending', n ≤ m + 1 ∧ Spends scope operand ahead ending' m := by
  cases h with
  | refused => exact ⟨1, _, Nat.le_succ 1, .refused⟩
  | abandoned hoperands h =>
    cases hoperands
    exact ⟨_, _, Nat.le_refl _, h⟩
  | read hprimitive | unread hprimitive => cases hprimitive
  | notAhead_failed h | notAhead_matched h => exact ⟨_, _, Nat.le_refl _, h⟩

/-- An option ends with a match of its operand, or with nothing after a failure. -/
theorem of_opt (h : Spends scope (.opt id operand) ahead ending n) :
    (∃ m, n ≤ m + 1 ∧ Spends scope operand ahead ending m ∧ ending ≠ .failed) ∨
      ∃ m, n = m + 1 ∧ Spends scope operand ahead .failed m ∧ ending = .matched ahead := by
  cases h with
  | refused => exact .inl ⟨1, Nat.le_succ 1, .refused, nofun⟩
  | abandoned hoperands h =>
    cases hoperands
    exact .inl ⟨_, Nat.le_refl _, h, nofun⟩
  | read hprimitive | unread hprimitive => cases hprimitive
  | opt_taken h => exact .inl ⟨_, Nat.le_refl _, h, nofun⟩
  | opt_left h => exact .inr ⟨_, rfl, h, rfl⟩

theorem of_node (h : Spends scope (.node id operand) ahead ending n) :
    ∃ m, n ≤ m + 1 ∧ Spends scope operand ahead ending m := by
  cases h with
  | refused => exact ⟨1, Nat.le_succ 1, .refused⟩
  | abandoned hoperands h =>
    cases hoperands
    exact ⟨_, Nat.le_refl _, h⟩
  | read hprimitive | unread hprimitive => cases hprimitive
  | node_failed h | node_matched h => exact ⟨_, Nat.le_refl _, h⟩

theorem of_recursive {key : String} {target : Rule} (htarget : scope.target id key = some target)
    (h : Spends scope (.recursive id key) ahead ending n) :
    ∃ m, n ≤ m + 1 ∧ Spends scope target ahead ending m := by
  cases h with
  | refused => exact ⟨1, Nat.le_succ 1, .refused⟩
  | abandoned hoperands => cases hoperands
  | read hprimitive | unread hprimitive => cases hprimitive
  | recursive htarget' h =>
    rw [htarget] at htarget'
    cases htarget'
    exact ⟨_, Nat.le_refl _, h⟩

/-- A repetition ends where its operand does not read anything, or behind what it reads. -/
theorem of_zeroOrMore (h : Spends scope (.zeroOrMore id operand) ahead ending n) :
    (∃ m ending', n ≤ m + 1 ∧ Spends scope operand ahead ending' m ∧
        (∀ mid, ending' = .matched mid → ¬mid.length < ahead.length) ∧
        (ending = .abandoned ∨ ending' ≠ .abandoned ∧ ending = .matched ahead)) ∨
      ∃ mid m k, n = m + k ∧ Spends scope operand ahead (.matched mid) m ∧
        mid.length < ahead.length ∧ Spends scope (.zeroOrMore id operand) mid ending k := by
  cases h with
  | refused => exact .inl ⟨1, _, Nat.le_succ 1, .refused, nofun, .inl rfl⟩
  | abandoned hoperands h =>
    cases hoperands
    exact .inl ⟨_, _, Nat.le_refl _, h, nofun, .inl rfl⟩
  | read hprimitive | unread hprimitive => cases hprimitive
  | zeroOrMore_ended h => exact .inl ⟨_, _, Nat.le_refl _, h, nofun, .inr ⟨nofun, rfl⟩⟩
  | zeroOrMore_next h hlt h' => exact .inr ⟨_, _, _, rfl, h, hlt, h'⟩
  | zeroOrMore_stalled h hnot =>
    refine .inl ⟨_, _, Nat.le_refl _, h, fun mid heq => ?_, .inr ⟨nofun, rfl⟩⟩
    cases heq
    exact hnot

theorem of_oneOrMore (h : Spends scope (.oneOrMore id operand) ahead ending n) :
    (∃ m, n ≤ m + 1 ∧ Spends scope operand ahead ending m ∧
        ∀ mid, ending = .matched mid → ¬mid.length < ahead.length) ∨
      ∃ mid m k, n = m + k ∧ Spends scope operand ahead (.matched mid) m ∧
        mid.length < ahead.length ∧ Spends scope (.zeroOrMore id operand) mid ending k := by
  cases h with
  | refused => exact .inl ⟨1, Nat.le_succ 1, .refused, nofun⟩
  | abandoned hoperands h =>
    cases hoperands
    exact .inl ⟨_, Nat.le_refl _, h, nofun⟩
  | read hprimitive | unread hprimitive => cases hprimitive
  | oneOrMore_failed h => exact .inl ⟨_, Nat.le_refl _, h, nofun⟩
  | oneOrMore_next h hlt h' => exact .inr ⟨_, _, _, rfl, h, hlt, h'⟩
  | oneOrMore_stalled h hnot =>
    refine .inl ⟨_, Nat.le_refl _, h, fun mid heq => ?_⟩
    cases heq
    exact hnot

/-- A repetition never fails. -/
theorem not_failed_zeroOrMore : ¬Spends scope (.zeroOrMore id operand) ahead .failed n := by
  intro h
  generalize hwhole : Rule.zeroOrMore id operand = whole at h
  generalize hending : Ending.failed = ending at h
  induction h with
  | zeroOrMore_next _ _ _ _ ih =>
    cases hwhole
    exact ih rfl hending
  | unread hprimitive =>
    cases hwhole
    cases hprimitive
  | _ => first | (cases hending; done) | cases hwhole

/-- An option never fails. -/
theorem not_failed_opt : ¬Spends scope (.opt id operand) ahead .failed n := by
  intro h
  rcases h.of_opt with ⟨m, -, -, hnot⟩ | ⟨m, -, -, heq⟩
  · exact hnot rfl
  · cases heq

end Spends

/-! ## A constant -/

/-- Anywhere the rule spends `w` applications at most. -/
structure Light (scope : Scope) (w : Nat) (rule : Rule) : Prop where
  spent : ∀ {ahead ending n}, Spends scope rule ahead ending n → n ≤ w

namespace Light

theorem primitive (h : rule.isPrimitive = true) : Light scope 1 rule :=
  ⟨fun hspends => Nat.le_of_eq (hspends.of_isPrimitive h)⟩

theorem char {accepted : CharClass} : Light scope 1 (.char id accepted) := primitive rfl

theorem literal {text : String} : Light scope 1 (.literal id text) := primitive rfl

theorem endOfInput : Light scope 1 (.endOfInput id) := primitive rfl

theorem mono {w' : Nat} (h : Light scope w rule) (hle : w ≤ w') : Light scope w' rule :=
  ⟨fun hspends => Nat.le_trans (h.spent hspends) hle⟩

theorem seq (h : ∀ rule ∈ rules, Light scope w rule) :
    Light scope (w * rules.length + 1) (.seq id rules) := by
  induction rules with
  | nil => exact ⟨fun hspends => Nat.le_of_eq hspends.of_seq_nil.1⟩
  | cons rule rules ih =>
    obtain ⟨hrule, hrules⟩ := List.forall_mem_cons.1 h
    refine ⟨fun hspends => ?_⟩
    rw [List.length_cons, Nat.mul_succ]
    rcases hspends.of_seq_cons with ⟨m, hle, hfirst, -⟩ | ⟨mid, m, k, rfl, hfirst, hrest⟩
    · have := hrule.spent hfirst
      omega
    · have := hrule.spent hfirst
      have := (ih hrules).spent hrest
      omega

theorem choice (h : ∀ rule ∈ rules, Light scope w rule) :
    Light scope (w * rules.length + 1) (.choice id rules) := by
  induction rules with
  | nil => exact ⟨fun hspends => Nat.le_of_eq hspends.of_choice_nil.1⟩
  | cons rule rules ih =>
    obtain ⟨hrule, hrules⟩ := List.forall_mem_cons.1 h
    refine ⟨fun hspends => ?_⟩
    rw [List.length_cons, Nat.mul_succ]
    rcases hspends.of_choice_cons with ⟨m, hle, hfirst, -⟩ | ⟨m, k, rfl, hfirst, hrest⟩
    · have := hrule.spent hfirst
      omega
    · have := hrule.spent hfirst
      have := (ih hrules).spent hrest
      omega

theorem notAhead (h : Light scope w operand) : Light scope (w + 1) (.notAhead id operand) := by
  refine ⟨fun hspends => ?_⟩
  obtain ⟨m, ending', hle, hoperand⟩ := hspends.of_notAhead
  exact Nat.le_trans hle (Nat.succ_le_succ (h.spent hoperand))

theorem node (h : Light scope w operand) : Light scope (w + 1) (.node id operand) := by
  refine ⟨fun hspends => ?_⟩
  obtain ⟨m, hle, hoperand⟩ := hspends.of_node
  exact Nat.le_trans hle (Nat.succ_le_succ (h.spent hoperand))

theorem opt (h : Light scope w operand) : Light scope (w + 1) (.opt id operand) := by
  refine ⟨fun hspends => ?_⟩
  rcases hspends.of_opt with ⟨m, hle, hoperand, -⟩ | ⟨m, rfl, hoperand, -⟩
  · exact Nat.le_trans hle (Nat.succ_le_succ (h.spent hoperand))
  · exact Nat.succ_le_succ (h.spent hoperand)

end Light

/-! ## Prompt failure -/

/-- In front of `ahead` the rule does not match, and spends `k` applications at most. -/
structure Rejects (scope : Scope) (k : Nat) (rule : Rule) (ahead : List Char) : Prop where
  spent : ∀ {ending n}, Spends scope rule ahead ending n → n ≤ k
  not_matched : ∀ {rest n}, ¬Spends scope rule ahead (.matched rest) n

namespace Rejects

variable {accepted : CharClass} {text : String}

theorem mono {k' : Nat} (h : Rejects scope k rule ahead) (hle : k ≤ k') :
    Rejects scope k' rule ahead :=
  ⟨fun hspends => Nat.le_trans (h.spent hspends) hle, h.not_matched⟩

theorem char (h : Avoids accepted.accepts ahead) : Rejects scope 1 (.char id accepted) ahead where
  spent := Light.char.spent
  not_matched hspends := by
    obtain ⟨read, rfl, hread⟩ := hspends.generates rfl
    obtain ⟨c, rfl, hc⟩ := hread.of_char
    rw [h c rfl] at hc
    cases hc

theorem literal (h : ¬text.toList <+: ahead) : Rejects scope 1 (.literal id text) ahead where
  spent := Light.literal.spent
  not_matched hspends := by
    obtain ⟨read, rfl, hread⟩ := hspends.generates rfl
    exact h ⟨_, by rw [hread.of_literal]⟩

theorem endOfInput (h : ahead ≠ []) : Rejects scope 1 (.endOfInput id) ahead where
  spent := Light.endOfInput.spent
  not_matched hspends := by
    obtain ⟨read, rfl, hread⟩ := hspends.generates rfl
    obtain ⟨rfl, rfl⟩ := hread.of_endOfInput
    exact h rfl

theorem seq_cons (h : Rejects scope k rule ahead) :
    Rejects scope (k + 1) (.seq id (rule :: rules)) ahead where
  spent hspends := by
    rcases hspends.of_seq_cons with ⟨m, hle, hfirst, -⟩ | ⟨mid, m, k, -, hfirst, -⟩
    · exact Nat.le_trans hle (Nat.succ_le_succ (h.spent hfirst))
    · exact absurd hfirst h.not_matched
  not_matched hspends := by
    rcases hspends.of_seq_cons with ⟨m, -, hfirst, hnot⟩ | ⟨mid, m, k, -, hfirst, -⟩
    · exact hnot _ rfl
    · exact h.not_matched hfirst

/-- A sequence fails behind its first part as well. -/
theorem seq_next (h : Light scope w rule)
    (hnext : ∀ {mid n}, Spends scope rule ahead (.matched mid) n →
      Rejects scope k (.seq id rules) mid) :
    Rejects scope (w + k + 1) (.seq id (rule :: rules)) ahead where
  spent hspends := by
    rcases hspends.of_seq_cons with ⟨m, hle, hfirst, -⟩ | ⟨mid, m, l, rfl, hfirst, hrest⟩
    · have := h.spent hfirst
      omega
    · have := h.spent hfirst
      have := (hnext hfirst).spent hrest
      omega
  not_matched hspends := by
    rcases hspends.of_seq_cons with ⟨m, -, -, hnot⟩ | ⟨mid, m, l, -, hfirst, hrest⟩
    · exact hnot _ rfl
    · exact (hnext hfirst).not_matched hrest

theorem choice_nil : Rejects scope 1 (.choice id []) ahead where
  spent hspends := Nat.le_of_eq hspends.of_choice_nil.1
  not_matched hspends := hspends.of_choice_nil.2 _ rfl

theorem choice (h : ∀ rule ∈ rules, Rejects scope k rule ahead) :
    Rejects scope (k * rules.length + 1) (.choice id rules) ahead := by
  induction rules with
  | nil => exact choice_nil.mono (Nat.le_add_left ..)
  | cons rule rules ih =>
    obtain ⟨hrule, hrules⟩ := List.forall_mem_cons.1 h
    have hrest := ih hrules
    constructor
    case spent =>
      intro ending n hspends
      rw [List.length_cons, Nat.mul_succ]
      rcases hspends.of_choice_cons with ⟨m, hle, hfirst, -⟩ | ⟨m, k, rfl, hfirst, hmore⟩
      · have := hrule.spent hfirst
        omega
      · have := hrule.spent hfirst
        have := hrest.spent hmore
        omega
    case not_matched =>
      intro rest n hspends
      rcases hspends.of_choice_cons with ⟨m, -, hfirst, -⟩ | ⟨m, k, -, -, hmore⟩
      · exact hrule.not_matched hfirst
      · exact hrest.not_matched hmore

theorem node (h : Rejects scope k operand ahead) :
    Rejects scope (k + 1) (.node id operand) ahead where
  spent hspends := by
    obtain ⟨m, hle, hoperand⟩ := hspends.of_node
    exact Nat.le_trans hle (Nat.succ_le_succ (h.spent hoperand))
  not_matched hspends := by
    obtain ⟨m, -, hoperand⟩ := hspends.of_node
    exact h.not_matched hoperand

theorem recursive {key : String} {target : Rule} (htarget : scope.target id key = some target)
    (h : Rejects scope k target ahead) : Rejects scope (k + 1) (.recursive id key) ahead where
  spent hspends := by
    obtain ⟨m, hle, hoperand⟩ := hspends.of_recursive htarget
    exact Nat.le_trans hle (Nat.succ_le_succ (h.spent hoperand))
  not_matched hspends := by
    obtain ⟨m, -, hoperand⟩ := hspends.of_recursive htarget
    exact h.not_matched hoperand

theorem oneOrMore (h : Rejects scope k operand ahead) :
    Rejects scope (k + 1) (.oneOrMore id operand) ahead where
  spent hspends := by
    rcases hspends.of_oneOrMore with ⟨m, hle, hoperand, -⟩ | ⟨mid, m, k, -, hoperand, -⟩
    · exact Nat.le_trans hle (Nat.succ_le_succ (h.spent hoperand))
    · exact absurd hoperand h.not_matched
  not_matched hspends := by
    rcases hspends.of_oneOrMore with ⟨m, -, hoperand, -⟩ | ⟨mid, m, k, -, hoperand, -⟩
    · exact h.not_matched hoperand
    · exact h.not_matched hoperand

end Rejects

/-! ## Linear budgets -/

/-- A text has no more characters than bytes. -/
theorem Text.length_le_utf8ByteSize (s : String) : s.toList.length ≤ s.utf8ByteSize := by
  rw [← Text.utf8Length_toList]
  induction s.toList with
  | nil => exact Nat.le_refl 0
  | cons c rest ih =>
    have := c.utf8Size_pos
    simp only [List.length_cons, Text.utf8Length_cons]
    omega

/-- A longer text is worth more. -/
theorem worth_le (s : Nat) {short long : Nat} (h : short ≤ long) : (s : Int) * short ≤ s * long :=
  Int.mul_le_mul_of_nonneg_left (Int.ofNat_le.2 h) (Int.natCast_nonneg s)

/-- No condition on where a match stops. -/
def Anywhere (_ : List Char) : Prop := True

/-- In front of `ahead` the rule spends `s` for each character ahead, and `most` besides. Where
it matches and stops in front of a text in `stops`, it spends `s` for each character that it
reads, and `debt` besides. A debt below zero is fuel for what comes next. -/
structure Linear (scope : Scope) (s : Nat) (most debt : Int) (stops : List Char → Prop)
    (rule : Rule) (ahead : List Char) : Prop where
  spent : ∀ {ending n}, Spends scope rule ahead ending n → (n : Int) ≤ s * ahead.length + most
  matched : ∀ {rest n}, Spends scope rule ahead (.matched rest) n → stops rest →
    (n : Int) + s * rest.length ≤ s * ahead.length + debt

namespace Linear

variable {s d : Nat} {most most' debt debt' : Int} {stops stops' : List Char → Prop}

theorem of_light (h : Light scope w rule) : Linear scope s w w stops rule ahead where
  spent hspends := by
    have := h.spent hspends
    have := worth_le s (Nat.zero_le ahead.length)
    omega
  matched hspends _ := by
    have := h.spent hspends
    have := worth_le s hspends.length_le
    omega

theorem of_rejects (h : Rejects scope k rule ahead) : Linear scope s k debt stops rule ahead where
  spent hspends := by
    have := h.spent hspends
    have := worth_le s (Nat.zero_le ahead.length)
    omega
  matched hspends := absurd hspends h.not_matched

theorem mono (h : Linear scope s most debt stops rule ahead) (hmost : most ≤ most')
    (hdebt : debt ≤ debt') : Linear scope s most' debt' stops rule ahead where
  spent hspends := by
    have := h.spent hspends
    omega
  matched hspends hstops := by
    have := h.matched hspends hstops
    omega

/-- More fuel for each character leaves the more over, the more a match reads. -/
theorem earn (h : Linear scope s most debt stops rule ahead) (d least : Nat)
    (hread : ∀ {rest n}, Spends scope rule ahead (.matched rest) n →
      rest.length + least ≤ ahead.length) :
    Linear scope (s + d) most (debt - d * least) stops rule ahead where
  spent hspends := by
    have := h.spent hspends
    have := worth_le d (Nat.zero_le ahead.length)
    rw [Int.natCast_add, Int.add_mul]
    omega
  matched {rest n} hspends hstops := by
    have hmatched := h.matched hspends hstops
    have hworth := worth_le d (hread hspends)
    rw [Int.natCast_add, Int.mul_add] at hworth
    rw [Int.natCast_add, Int.add_mul, Int.add_mul]
    omega

theorem node (h : Linear scope s most debt stops operand ahead) :
    Linear scope s (most + 1) (debt + 1) stops (.node id operand) ahead where
  spent hspends := by
    obtain ⟨m, hle, hoperand⟩ := hspends.of_node
    have := h.spent hoperand
    omega
  matched hspends hstops := by
    obtain ⟨m, hle, hoperand⟩ := hspends.of_node
    have := h.matched hoperand hstops
    omega

theorem recursive {key : String} {target : Rule} (htarget : scope.target id key = some target)
    (h : Linear scope s most debt stops target ahead) :
    Linear scope s (most + 1) (debt + 1) stops (.recursive id key) ahead where
  spent hspends := by
    obtain ⟨m, hle, hoperand⟩ := hspends.of_recursive htarget
    have := h.spent hoperand
    omega
  matched hspends hstops := by
    obtain ⟨m, hle, hoperand⟩ := hspends.of_recursive htarget
    have := h.matched hoperand hstops
    omega

/-- An option that is left out reads nothing, so a match that stops there must cost little. -/
theorem opt (h : Linear scope s most debt stops operand ahead)
    (hleft : stops ahead → Rejects scope k operand ahead) :
    Linear scope s (most + 1) (max debt k + 1) stops (.opt id operand) ahead where
  spent hspends := by
    rcases hspends.of_opt with ⟨m, hle, hoperand, -⟩ | ⟨m, rfl, hoperand, -⟩
    all_goals
      have := h.spent hoperand
      omega
  matched hspends hstops := by
    rcases hspends.of_opt with ⟨m, hle, hoperand, -⟩ | ⟨m, rfl, hoperand, heq⟩
    · have := h.matched hoperand hstops
      omega
    · cases heq
      have := (hleft hstops).spent hoperand
      omega

theorem seq_nil : Linear scope s 1 1 stops (.seq id []) ahead :=
  of_light ⟨fun hspends => Nat.le_of_eq hspends.of_seq_nil.1⟩

/-- A sequence whose first part stops where the rest goes on, or where the rest fails. -/
theorem seq_stop (h : Linear scope s most debt stops rule ahead)
    (hnext : ∀ {mid n}, Spends scope rule ahead (.matched mid) n → stops mid →
      Linear scope s most' debt' stops' (.seq id rules) mid)
    (hends : ∀ {mid}, ¬stops mid → Rejects scope k (.seq id rules) mid) :
    Linear scope s (max (most + k + 1) (debt + most')) (debt + debt') stops'
      (.seq id (rule :: rules)) ahead where
  spent hspends := by
    rcases hspends.of_seq_cons with ⟨m, hle, hfirst, -⟩ | ⟨mid, m, k, rfl, hfirst, hrest⟩
    · have := h.spent hfirst
      omega
    · by_cases hstops : stops mid
      · have := h.matched hfirst hstops
        have := (hnext hfirst hstops).spent hrest
        omega
      · have := h.spent hfirst
        have := (hends hstops).spent hrest
        omega
  matched hspends hstops' := by
    rcases hspends.of_seq_cons with ⟨m, -, -, hnot⟩ | ⟨mid, m, k, rfl, hfirst, hrest⟩
    · exact absurd rfl (hnot _)
    · by_cases hstops : stops mid
      · have := h.matched hfirst hstops
        have := (hnext hfirst hstops).matched hrest hstops'
        omega
      · exact absurd hrest (hends hstops).not_matched

/-- A sequence whose first part may stop anywhere. -/
theorem seq_cons (h : Linear scope s most debt Anywhere rule ahead)
    (hnext : ∀ {mid n}, Spends scope rule ahead (.matched mid) n →
      Linear scope s most' debt' stops (.seq id rules) mid) :
    Linear scope s (max (most + 1) (debt + most')) (debt + debt') stops
      (.seq id (rule :: rules)) ahead :=
  have hall := h.seq_stop (k := 0) (fun hspends _ => hnext hspends)
    fun hnot => absurd trivial hnot
  hall.mono (by omega) (Int.le_refl _)

/-- A sequence of one part stops where that stops. -/
theorem seq_singleton (h : Linear scope s most debt stops rule ahead) :
    Linear scope s (most + 1) (debt + 1) stops (.seq id [rule]) ahead where
  spent hspends := by
    rcases hspends.of_seq_cons with ⟨m, hle, hfirst, -⟩ | ⟨mid, m, l, rfl, hfirst, hrest⟩
    · have := h.spent hfirst
      omega
    · have := h.spent hfirst
      have := hrest.of_seq_nil.1
      omega
  matched hspends hstops := by
    rcases hspends.of_seq_cons with ⟨m, -, -, hnot⟩ | ⟨mid, m, l, rfl, hfirst, hrest⟩
    · exact absurd rfl (hnot _)
    · obtain ⟨rfl, -, hrest⟩ := hrest.of_seq_nil
      obtain rfl := hrest _ rfl
      have := h.matched hfirst hstops
      omega

theorem choice_cons (h : Linear scope s most debt stops rule ahead)
    (hafter : Rejects scope k (.choice id rules) ahead) :
    Linear scope s (most + k) (debt + 1) stops (.choice id (rule :: rules)) ahead where
  spent hspends := by
    have hpos := hafter.spent .refused
    rcases hspends.of_choice_cons with ⟨m, hle, hfirst, -⟩ | ⟨m, k, rfl, hfirst, hrest⟩
    · have := h.spent hfirst
      omega
    · have := h.spent hfirst
      have := hafter.spent hrest
      omega
  matched hspends hstops := by
    rcases hspends.of_choice_cons with ⟨m, hle, hfirst, -⟩ | ⟨m, k, rfl, hfirst, hrest⟩
    · have := h.matched hfirst hstops
      omega
    · exact absurd hrest hafter.not_matched

theorem choice_append {before : List Rule} (hbefore : ∀ rule ∈ before, Rejects scope k rule ahead)
    (h : Linear scope s most debt stops (.choice id rules) ahead) :
    Linear scope s (most + k * before.length) (debt + k * before.length) stops
      (.choice id (before ++ rules)) ahead := by
  induction before with
  | nil => simpa using h
  | cons rule before ih =>
    obtain ⟨hrule, hbefore⟩ := List.forall_mem_cons.1 hbefore
    have hrest := ih hbefore
    rw [List.length_cons, Int.natCast_add, Int.mul_add, List.cons_append]
    constructor
    case spent =>
      intro ending n hspends
      rcases hspends.of_choice_cons with ⟨m, hle, hfirst, -⟩ | ⟨m, l, rfl, hfirst, hmore⟩
      · have := hrule.spent hfirst
        have := hrest.spent .refused
        omega
      · have := hrule.spent hfirst
        have := hrest.spent hmore
        omega
    case matched =>
      intro rest n hspends hstops
      rcases hspends.of_choice_cons with ⟨m, hle, hfirst, -⟩ | ⟨m, l, rfl, hfirst, hmore⟩
      · exact absurd hfirst hrule.not_matched
      · have := hrule.spent hfirst
        have := hrest.matched hmore hstops
        omega

/-- A repetition may go on as long as each match pays for itself. -/
theorem zeroOrMore
    (hspent : ∀ {mid ending n}, mid.length ≤ ahead.length → Spends scope operand mid ending n →
      (n : Int) ≤ s * mid.length + most)
    (hnext : ∀ {mid rest n}, mid.length ≤ ahead.length → rest.length < mid.length →
      Spends scope operand mid (.matched rest) n → (n : Int) + s * rest.length ≤ s * mid.length)
    (hends : ∀ {mid ending n}, stops mid → Spends scope operand mid ending n →
      (∀ rest, ending = .matched rest → ¬rest.length < mid.length) → n ≤ k) :
    Linear scope s (most + 1) (k + 1) stops (.zeroOrMore id operand) ahead := by
  induction hlen : ahead.length using Nat.strongRecOn generalizing ahead with
  | ind length ih =>
    subst hlen
    -- what is left behind a match is shorter
    have hrest {mid : List Char} (hlt : mid.length < ahead.length) :
        Linear scope s (most + 1) (k + 1) stops (.zeroOrMore id operand) mid :=
      ih _ hlt (fun hle => hspent (by omega)) (fun hle => hnext (by omega)) rfl
    constructor
    case spent =>
      intro ending n hspends
      rcases hspends.of_zeroOrMore with ⟨m, ending', hle, hoperand, -, -⟩ |
        ⟨mid, m, l, rfl, hoperand, hlt, hmore⟩
      · have := hspent (Nat.le_refl _) hoperand
        omega
      · have := hnext (Nat.le_refl _) hlt hoperand
        have := (hrest hlt).spent hmore
        omega
    case matched =>
      intro rest n hspends hstops
      rcases hspends.of_zeroOrMore with ⟨m, ending', hle, hoperand, hnot, hended⟩ |
        ⟨mid, m, l, rfl, hoperand, hlt, hmore⟩
      · obtain heq | ⟨-, heq⟩ := hended
        · cases heq
        · cases heq
          have := hends hstops hoperand hnot
          omega
      · have := hnext (Nat.le_refl _) hlt hoperand
        have := (hrest hlt).matched hmore hstops
        omega

/-- What spends a constant for each match pays that with what the match reads. -/
theorem zeroOrMore_light (h : Light scope w operand) :
    Linear scope w (w + 1) (w + 1) stops (.zeroOrMore id operand) ahead := by
  refine zeroOrMore (fun {mid _ _} _ hspends => ?_) (fun {mid rest _} _ hlt hspends => ?_)
    fun _ hspends _ => h.spent hspends
  · have := h.spent hspends
    have := worth_le w (Nat.zero_le mid.length)
    omega
  · have := h.spent hspends
    have := worth_le w hlt
    rw [Int.natCast_succ, Int.mul_add] at this
    omega

theorem oneOrMore_light (h : Light scope w operand) :
    Linear scope w (w + 1) (w + 1) stops (.oneOrMore id operand) ahead where
  spent hspends := by
    rcases hspends.of_oneOrMore with ⟨m, hle, hoperand, -⟩ | ⟨mid, m, l, rfl, hoperand, hlt, hmore⟩
    · have := h.spent hoperand
      have := worth_le w (Nat.zero_le ahead.length)
      omega
    · have := h.spent hoperand
      have := worth_le w hlt
      have hrest : Linear scope w (w + 1) (w + 1) stops (.zeroOrMore id operand) mid :=
        zeroOrMore_light h
      have := hrest.spent hmore
      rw [Int.natCast_succ, Int.mul_add] at *
      omega
  matched hspends hstops := by
    rcases hspends.of_oneOrMore with ⟨m, hle, hoperand, -⟩ | ⟨mid, m, l, rfl, hoperand, hlt, hmore⟩
    · have := h.spent hoperand
      have := worth_le w hspends.length_le
      omega
    · have := h.spent hoperand
      have := worth_le w hlt
      have := (zeroOrMore_light h).matched hmore hstops
      rw [Int.natCast_succ, Int.mul_add] at *
      omega

/-- A repetition of what is in debt for no match, up to where it fails promptly. -/
theorem zeroOrMore_paid
    (h : ∀ {mid}, mid.length ≤ ahead.length → Linear scope s most debt Anywhere operand mid)
    (hdebt : debt ≤ 0) (hends : ∀ {mid}, stops mid → Rejects scope k operand mid) :
    Linear scope s (most + 1) (k + 1) stops (.zeroOrMore id operand) ahead := by
  refine zeroOrMore (fun hle hspends => (h hle).spent hspends) (fun hle _ hspends => ?_)
    fun hstops hspends _ => (hends hstops).spent hspends
  have := (h hle).matched hspends trivial
  omega

/-- A root rule with a linear budget spends in proportion to the input. -/
theorem le_of_spends {root : Rule} {input : String}
    (h : Linear scope s most debt stops root input.toList) (hmost : most ≤ s)
    (hspends : Spends scope root input.toList ending n) : n ≤ s * (input.utf8ByteSize + 1) := by
  have hspent := h.spent hspends
  have hworth : s * input.toList.length ≤ s * input.utf8ByteSize :=
    Nat.mul_le_mul_left s (Text.length_le_utf8ByteSize input)
  rw [Nat.mul_succ]
  omega

/-- **Fuel in proportion to the input does not run out**, for a root rule with a linear budget. -/
theorem run_ne_execFuel {root : Rule} {limits : Limits} {input : String} {complete : Bool}
    {error : UInt32} (h : Linear scope s most debt stops root input.toList) (hmost : most ≤ s)
    (hresolves : scope.Resolves root)
    (hfuel : ∀ fuel, limits.execFuel = some fuel → s * (input.utf8ByteSize + 1) ≤ fuel.toNat) :
    (Parser.run ⟨root, limits, false⟩ scope input complete).result ≠
      .ok (.error (.limit (.execFuel error))) :=
  Parser.run_ne_execFuel hresolves (h.le_of_spends hmost) hfuel

end Linear

end Packrat
