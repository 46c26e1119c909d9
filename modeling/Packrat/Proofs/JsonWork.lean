import Packrat.Proofs.JsonReading
import Packrat.Proofs.LexicalWork

/-!
# The fuel that JSON texts take

The alternatives of a value begin with different characters, numbers aside, so at most one of
them reads much of what lies ahead, and what is inside a bracket is read only behind it. Where
the items of a container are given up after some of the text has been read for them, they stop
in front of an item or of a comma. No bracket closes there, so the container fails at once, as
does all around it, and nothing is read again.

- `JsonValue.Rules.Composed.rejects_of_avoids`: an alternative fails at once in front of what
  it does not begin with.
- `JsonValue.Rules.Composed.linear_atom`: values that hold no values.
- `JsonValue.IsContainer.linear`, `JsonValue.Rules.Composed.linear_pair`: what holds values,
  given what these spend.
- `JsonValue.Rules.Composed.linear_value`, `linear_json`: values and documents.
-/

namespace Packrat

namespace JsonValue

open Builder Lexical
open Text (Avoids)

variable {scope : Scope} {r : Rules} {kind : Kind} {item rule : Rule} {unsigned : Builder Rule}
  {ahead rest text mark : List Char} {n s k : Nat}

/-! ## Where alternatives fail at once -/

theorem rejects_mark {c : Char} {mark : Rule} (h : (symbol (String.singleton c)).Makes mark)
    (hrest : Avoids (· == c) ahead) : Rejects scope 2 mark ahead := by
  refine rejects_symbol h ?_
  rw [toList_singleton]
  exact Text.not_prefix_of_avoids hrest

theorem IsContainer.rejects (h : IsContainer kind item rule)
    (hrest : Avoids (· == kind.opening) ahead) : Rejects scope 4 rule ahead := by
  obtain ⟨id, id', opening, lexeme, comma, items, closing, hopening, -, -, -, rfl⟩ := h
  exact (rejects_mark hopening hrest).seq_cons.node

theorem rejects_wordNode {id : RuleId} {word : Rule} {c : Char} {text : String}
    {letters : List Char} (h : (Lexical.word text).Makes word) (htext : text.toList = c :: letters)
    (hrest : Avoids (· == c) ahead) : Rejects scope 3 (.node id word) ahead := by
  refine (rejects_word h ?_).node
  rw [htext]
  exact Text.not_prefix_of_avoids hrest

/-- What is left behind the sign does not depend on the rule that reads it. -/
theorem exists_unsigned (scope : Scope) (ahead : List Char) :
    ∃ text, text.length ≤ ahead.length ∧ (Avoids (· == '-') ahead → text = ahead) ∧
      ∀ {perhaps minus : RuleId} {rest : List Char} {n : Nat},
        Spends scope (.opt perhaps (.char minus (.single '-'))) ahead (.matched rest) n →
          rest = text := by
  by_cases hminus : Avoids (· == '-') ahead
  · refine ⟨ahead, Nat.le_refl _, fun _ => rfl, fun hspends => ?_⟩
    rcases hspends.of_opt with ⟨m, -, hchar, -⟩ | ⟨m, -, -, heq⟩
    · obtain ⟨c, hc, rfl⟩ := hchar.of_char_matched
      have hnot : (CharClass.single '-').accepts c = false := hminus c rfl
      rw [hnot] at hc
      cases hc
    · exact Ending.matched.inj heq
  · obtain ⟨c, more, rfl, -⟩ := Text.exists_cons_of_not_avoids hminus
    refine ⟨more, Nat.le_succ _, fun h => absurd h hminus, fun hspends => ?_⟩
    rcases hspends.of_opt with ⟨m, -, hchar, -⟩ | ⟨m, -, hchar, -⟩
    · obtain ⟨c', -, heq⟩ := hchar.of_char_matched
      exact (List.cons.inj heq).2.symm
    · exact absurd hchar.of_char_failed hminus

theorem IsSigned.rejects (h : IsSigned unsigned rule) (hminus : Avoids (· == '-') ahead)
    (hunsigned : ∀ number, unsigned.Makes number → Rejects scope k number ahead) :
    Rejects scope (k + 5) rule ahead := by
  obtain ⟨id, id', perhaps, minus, number, hnumber, rfl⟩ := h
  obtain ⟨text, -, hsame, hrest⟩ := exists_unsigned scope ahead
  obtain rfl := hsame hminus
  refine (Rejects.seq_next (k := k + 1) (.opt .char) fun hspends => ?_).node.mono (by omega)
  obtain rfl := hrest hspends
  exact (hunsigned number hnumber).seq_cons

namespace Rules.Composed

theorem rejects_string (h : r.Composed) (hrest : Avoids isQuote ahead) :
    Rejects scope 6 r.string ahead := by
  obtain ⟨id, id', double, single, hdouble, hsingle, heq⟩ := h.string
  have hnot : ∀ c, ahead.head? = some c → (c == '"') = false ∧ (c == '\x27') = false :=
    fun c hc => Bool.or_eq_false_iff.1 (hrest c hc)
  have hboth : ∀ quoted ∈ [double, single], Rejects scope 2 quoted ahead :=
    List.forall_mem_cons.2 ⟨rejects_quotedString hdouble fun c hc => (hnot c hc).1,
      List.forall_mem_singleton.2 (rejects_quotedString hsingle fun c hc => (hnot c hc).2)⟩
  rw [heq]
  exact (Rejects.choice hboth).node

/-- An alternative fails at once in front of what it does not begin with. -/
theorem rejects_of_avoids (h : r.Composed) :
    ∀ entry ∈ r.alternatives, Avoids entry.2 ahead → Rejects scope 8 entry.1 ahead := by
  have hnumber (hrest : Avoids beginsNumber ahead) :
      Avoids (· == '-') ahead ∧ Avoids Char.isDigit ahead :=
    ⟨fun c hc => (Bool.or_eq_false_iff.1 (hrest c hc)).1,
      fun c hc => (Bool.or_eq_false_iff.1 (hrest c hc)).2⟩
  obtain ⟨member, harray⟩ := h.array
  simp only [alternatives, List.forall_mem_cons]
  refine ⟨fun hrest => (h.object.rejects hrest).mono (by decide),
    fun hrest => (harray.rejects hrest).mono (by decide),
    fun hrest => (h.rejects_string hrest).mono (by decide), fun hrest => ?_, fun hrest => ?_,
    fun hrest => ?_, fun hrest => ?_, fun hrest => ?_, List.forall_mem_nil _⟩
  · obtain ⟨hminus, hdigit⟩ := hnumber hrest
    exact h.float.rejects hminus fun _ hmakes => rejects_float hmakes hdigit
  · obtain ⟨hminus, hdigit⟩ := hnumber hrest
    exact h.integer.rejects hminus fun _ hmakes => rejects_integer hmakes hdigit
  · obtain ⟨id, word, hword, heq⟩ := h.trueWord
    exact heq ▸ (rejects_wordNode hword rfl hrest).mono (by decide)
  · obtain ⟨id, word, hword, heq⟩ := h.falseWord
    exact heq ▸ (rejects_wordNode hword rfl hrest).mono (by decide)
  · obtain ⟨id, word, hword, heq⟩ := h.nullWord
    exact heq ▸ (rejects_wordNode hword rfl hrest).mono (by decide)

/-- Several alternatives fail at once where none of them begins. -/
theorem rejects_alternatives (h : r.Composed) {entries : List (Rule × (Char → Bool))}
    (hsub : entries ⊆ r.alternatives) (hrest : ∀ entry ∈ entries, Avoids entry.2 ahead) :
    ∀ rule ∈ entries.map (·.1), Rejects scope 8 rule ahead := by
  intro rule hmem
  obtain ⟨entry, hentry, rfl⟩ := List.mem_map.1 hmem
  exact h.rejects_of_avoids entry (hsub hentry) (hrest entry hentry)

/-- Neither a pair nor a value begins with the bracket behind such items. -/
theorem rejects_closing (h : r.Composed) (kind : Kind) :
    Rejects scope 65 (r.item kind) (kind.closing :: rest) := by
  cases kind with
  | pair =>
    obtain ⟨id, id', key, colon, value, hkey, -, heq⟩ := h.pair
    have hstring : Rejects scope 6 r.string ('\x7d' :: rest) :=
      h.rejects_string (Text.avoids_cons.2 rfl)
    rw [item, heq]
    exact (rejects_lexeme hkey hstring).seq_cons.node.mono (by decide)
  | value =>
    obtain ⟨id, heq⟩ := h.value_eq
    rw [item, heq]
    refine Rejects.choice (k := 8) (h.rejects_alternatives (List.Subset.refl _) ?_)
    simp only [alternatives, List.forall_mem_cons, Kind.closing, Text.avoids_cons]
    exact ⟨rfl, rfl, rfl, rfl, rfl, rfl, rfl, rfl, List.forall_mem_nil _⟩

end Rules.Composed

/-! ## Values that hold no values -/

/-- A signed number is marked as it is without its sign. -/
theorem IsSigned.marked (h : IsSigned unsigned rule) (hle : text.length ≤ ahead.length)
    (htext : ∀ {perhaps minus : RuleId} {rest : List Char} {n : Nat},
      Spends scope (.opt perhaps (.char minus (.single '-'))) ahead (.matched rest) n → rest = text)
    (hunsigned : ∀ number, unsigned.Makes number → Marked scope s k number text mark) :
    Marked scope s (k + 4) rule ahead mark := by
  obtain ⟨id, id', perhaps, minus, number, hnumber, rfl⟩ := h
  have hmarked := hunsigned number hnumber
  have hsign : Marked scope s 2 (.opt perhaps (.char minus (.single '-'))) ahead ahead :=
    .of_light (.opt .char)
  have hbody : Marked scope s (2 + (k + 1))
      (.seq id' [.opt perhaps (.char minus (.single '-')), number]) ahead mark := by
    refine hsign.seq_cons (Nat.succ_pos k) (Nat.le_trans hmarked.mark_le hle) fun hspends => ?_
    obtain rfl := htext hspends
    exact hmarked.seq_singleton
  have hsum : k + 4 = 2 + (k + 1) + 1 := by omega
  rw [hsum]
  exact hbody.node

/-- The characters of a string and of its quotes are read once. -/
theorem Rules.Composed.linear_string (h : r.Composed) :
    Linear scope 55 63 63 Anywhere r.string ahead := by
  obtain ⟨id, id', double, single, hdouble, hsingle, heq⟩ := h.string
  rw [heq]
  by_cases hquote : Avoids (· == '"') ahead
  · have hbefore : ∀ rule ∈ [double], Rejects scope 2 rule ahead :=
      List.forall_mem_singleton.2 (rejects_quotedString hdouble hquote)
    have hsecond : Linear scope 55 59 59 Anywhere single ahead := linear_quotedString hsingle
    have hboth : Linear scope 55 62 62 Anywhere (.choice id' [double, single]) ahead :=
      .choice_append hbefore (hsecond.choice_cons .choice_nil)
    exact hboth.node
  · have hsingleQuote : Avoids (· == '\x27') ahead := by
      obtain ⟨c, more, rfl, hc⟩ := Text.exists_cons_of_not_avoids hquote
      obtain rfl := eq_of_beq hc
      exact Text.avoids_cons.2 rfl
    have hafter : Rejects scope 3 (.choice id' [single]) ahead :=
      Rejects.choice (k := 2)
        (List.forall_mem_singleton.2 (rejects_quotedString hsingle hsingleQuote))
    have hfirst : Linear scope 55 59 59 Anywhere double ahead := linear_quotedString hdouble
    exact (hfirst.choice_cons hafter).node.mono (by decide) (by decide)

/-- Digits are read once as a float and once as an integer. -/
theorem Rules.Composed.linear_numbers (h : r.Composed) {id : RuleId} {words : List Rule}
    (hwords : Rejects scope k (.choice id words) ahead) :
    Linear scope 5 (34 + k) (34 + k) Anywhere (.choice id (r.float :: r.integer :: words))
      ahead := by
  obtain ⟨text, hle, -, htext⟩ := exists_unsigned scope ahead
  have hfloat : Marked scope 3 25 r.float ahead (text.dropWhile Char.isDigit) :=
    h.float.marked hle htext fun _ => marked_float
  have hinteger : Marked scope 2 9 r.integer ahead (text.dropWhile Char.isDigit) :=
    h.integer.marked hle htext fun _ => marked_integer
  have hrest : Marked scope 0 k (.choice id words) ahead (text.dropWhile Char.isDigit) :=
    .of_rejects hwords hfloat.mark_le
  have hpos : 0 < k := hwords.spent .refused
  have hboth := hfloat.choice_cons (Nat.add_pos_right 9 hpos) (hinteger.choice_cons hpos hrest)
  exact hboth.linear.mono (by omega) (by omega)

/-! ## Containers -/

/-- What lies ahead is the bracket behind the items. -/
def Kind.Closes (kind : Kind) (rest : List Char) : Prop := rest.head? = some kind.closing

theorem Kind.avoids_of_not_closes (h : ¬kind.Closes rest) : Avoids (· == kind.closing) rest :=
  fun c hc => beq_false_of_ne fun heq => h (by rw [Kind.Closes, hc, heq])

/-- The items of a container spend what they are worth if they end where the bracket is. -/
theorem linear_items {lexeme comma items : Rule} (hlexeme : (Lexical.lexeme item).Makes lexeme)
    (hcomma : (symbol ",").Makes comma) (hitems : (list lexeme comma).Makes items)
    (hitem : ∀ {mid}, mid.length ≤ ahead.length → Linear scope 256 121 (-49) Anywhere item mid)
    (hclosing : ∀ rest, Rejects scope 66 item (kind.closing :: rest)) :
    Linear scope 256 124 69 kind.Closes items ahead := by
  obtain ⟨id, id', tail, ⟨outer, inner, rfl⟩, rfl⟩ := makes_list hitems
  have hfirst {mid : List Char} (hle : mid.length ≤ ahead.length) :
      Linear scope 256 122 (-46) Anywhere lexeme mid :=
    (linear_lexeme hlexeme (by decide) (hitem hle)).mono (by decide) (by decide)
  have hcloses {mid : List Char} (hmid : kind.Closes mid) : Rejects scope 66 item mid := by
    obtain ⟨more, rfl⟩ := List.head?_eq_some_iff.1 hmid
    exact hclosing more
  have hstep {mid : List Char} (hle : mid.length ≤ ahead.length) :
      Linear scope 256 5 (-296) Anywhere (.seq inner [comma, lexeme]) mid := by
    have hmark : Linear scope 256 4 (-251) Anywhere comma mid :=
      linear_symbol hcomma (by decide) (by decide)
    have hrest {stop : List Char} (hlen : stop.length ≤ mid.length) :
        Linear scope 256 123 (-45) Anywhere (.seq inner [lexeme]) stop :=
      (hfirst (Nat.le_trans hlen hle)).seq_singleton
    exact (hmark.seq_cons fun hspends => hrest hspends.length_le).mono (by decide) (by decide)
  have hended {mid : List Char} (hmid : kind.Closes mid) :
      Rejects scope 3 (.seq inner [comma, lexeme]) mid := by
    obtain ⟨more, rfl⟩ := List.head?_eq_some_iff.1 hmid
    refine (rejects_symbol hcomma (Text.not_prefix_of_avoids (Text.avoids_cons.2 ?_))).seq_cons
    cases kind <;> rfl
  have htail {mid : List Char} (hle : mid.length ≤ ahead.length) :
      Linear scope 256 6 4 kind.Closes (.zeroOrMore outer (.seq inner [comma, lexeme])) mid :=
    .zeroOrMore_paid (fun hle' => hstep (Nat.le_trans hle' hle)) (by decide) hended
  have hall : Linear scope 256 123 (-41) kind.Closes
      (.seq id' [lexeme, .zeroOrMore outer (.seq inner [comma, lexeme])]) ahead := by
    have hmore {mid : List Char} (hle : mid.length ≤ ahead.length) :
        Linear scope 256 7 5 kind.Closes
          (.seq id' [.zeroOrMore outer (.seq inner [comma, lexeme])]) mid :=
      (htail hle).seq_singleton
    exact ((hfirst (Nat.le_refl _)).seq_cons fun hspends => hmore hspends.length_le).mono
      (by decide) (by decide)
  -- without items the option reads nothing that could pay, but no item begins with the bracket
  have hnone (hmid : kind.Closes ahead) : Rejects scope 68
      (.seq id' [lexeme, .zeroOrMore outer (.seq inner [comma, lexeme])]) ahead :=
    (rejects_lexeme hlexeme (hcloses hmid)).seq_cons
  exact (hall.opt hnone).mono (by decide) (by decide)

/-- **A container pays with its bracket for what is tried inside it.** -/
theorem IsContainer.linear (h : IsContainer kind item rule)
    (hitem : ∀ {mid}, mid.length < ahead.length → Linear scope 256 121 (-49) Anywhere item mid)
    (hclosing : ∀ rest, Rejects scope 66 item (kind.closing :: rest)) :
    Linear scope 256 6 (-179) Anywhere rule ahead := by
  obtain ⟨id, id', opening, lexeme, comma, items, closing, hopening, hlexeme, hcomma, hitems,
    rfl⟩ := h
  have hmark : Linear scope 256 4 (-251) Anywhere opening ahead :=
    linear_symbol hopening (by decide) (by simp)
  have hbracket (mid : List Char) : Linear scope 256 2 2 Anywhere
      (.seq id' [.literal closing (String.singleton kind.closing)]) mid :=
    (Linear.of_light .literal).seq_singleton
  have hwrong {mid : List Char} (hmid : ¬kind.Closes mid) : Rejects scope 2
      (.seq id' [.literal closing (String.singleton kind.closing)]) mid := by
    refine (Rejects.literal ?_).seq_cons
    rw [toList_singleton]
    exact Text.not_prefix_of_avoids (Kind.avoids_of_not_closes hmid)
  have hinside {mid : List Char} (hlt : mid.length < ahead.length) :
      Linear scope 256 127 71 Anywhere
        (.seq id' [items, .literal closing (String.singleton kind.closing)]) mid := by
    have hitems := linear_items hlexeme hcomma hitems
      (fun hle => hitem (Nat.lt_of_le_of_lt hle hlt)) hclosing
    exact (hitems.seq_stop (fun _ _ => hbracket _) hwrong).mono (by decide) (by decide)
  exact (hmark.seq_cons fun hspends =>
    hinside (length_lt_of_symbol hopening (by simp) hspends)).node.mono (by decide) (by decide)

namespace StandsFor

variable {most debt : Int} {stops : List Char → Prop}

theorem linear (h : StandsFor scope rule item) (hrule : Linear scope s most debt stops rule ahead) :
    Linear scope s (most + 1) (debt + 1) stops item ahead := by
  rcases h with rfl | ⟨id, key, rfl, htarget⟩
  · exact hrule.mono (by omega) (by omega)
  · exact hrule.recursive htarget

theorem rejects (h : StandsFor scope rule item) (hrule : Rejects scope k rule ahead) :
    Rejects scope (k + 1) item ahead := by
  rcases h with rfl | ⟨id, key, rfl, htarget⟩
  · exact hrule.mono (Nat.le_succ k)
  · exact hrule.recursive htarget

end StandsFor

/-! ## Values -/

/-- No word begins as a number does. -/
theorem not_begins_word_of_beginsNumber {c : Char} (h : beginsNumber c = true) :
    c ≠ 't' ∧ c ≠ 'f' ∧ c ≠ 'n' := by
  refine ⟨?_, ?_, ?_⟩
  all_goals
    rintro rfl
    cases h

/-- No item is empty. -/
theorem Spells.ne_nil {phrase : Phrase} (h : Spells phrase text) : text ≠ [] := by
  rintro rfl
  have hblank : isBlank ' ' = false := h.avoids_isBlank [' '] ' ' rfl
  cases hblank

namespace Rules.Composed

/-- A value reads something. -/
theorem length_lt_of_value (h : r.Composed) (hknown : scope.Knows r.draft.rules)
    (hspends : Spends scope r.value ahead (.matched rest) n) : rest.length + 1 ≤ ahead.length := by
  obtain ⟨read, rfl, hread⟩ := hspends.generates rfl
  obtain ⟨tree, hspells⟩ := h.spells_value hknown _ (Nat.lt_succ_self _) hread
  have := List.length_pos_of_ne_nil hspells.ne_nil
  rw [List.length_append]
  omega

/-- The alternatives of which none begins with what lies ahead cost a constant. -/
theorem linear_alternative (h : r.Composed) {entry : Rule × (Char → Bool)} {most debt : Int}
    {stops : List Char → Prop} (before after : List (Rule × (Char → Bool)))
    (hsplit : r.alternatives = before ++ entry :: after)
    (hrest : ∀ other ∈ before ++ after, Avoids other.2 ahead)
    (hentry : Linear scope s most debt stops entry.1 ahead) :
    Linear scope s (most + 57) (debt + 57) stops r.value ahead := by
  obtain ⟨id, heq⟩ := h.value_eq
  obtain ⟨hbefore, hafter⟩ := List.forall_mem_append.1 hrest
  have hsub : before ++ entry :: after ⊆ r.alternatives := hsplit ▸ List.Subset.refl _
  have hfailed : ∀ rule ∈ before.map (·.1), Rejects scope 8 rule ahead :=
    h.rejects_alternatives (fun _ hmem => hsub (List.mem_append_left _ hmem)) hbefore
  have hothers : Rejects scope (8 * (after.map (·.1)).length + 1) (.choice id (after.map (·.1)))
      ahead :=
    .choice (h.rejects_alternatives
      (fun _ hmem => hsub (List.mem_append_right _ (List.mem_cons_of_mem _ hmem))) hafter)
  have hlength : before.length + after.length = 7 := by
    have hsum := congrArg List.length hsplit
    simp only [List.length_append, List.length_cons] at hsum
    exact Nat.succ.inj hsum.symm
  rw [heq, hsplit, List.map_append, List.map_cons]
  have hall := Linear.choice_append hfailed (hentry.choice_cons hothers)
  rw [List.length_map, List.length_map] at hall
  exact hall.mono (by omega) (by omega)

/-- Values that hold no values have no part that is read more than twice. -/
theorem linear_atom (h : r.Composed) (hobject : Avoids (· == '\x7b') ahead)
    (harray : Avoids (· == '[') ahead) : Linear scope 55 120 120 Anywhere r.value ahead := by
  obtain ⟨id, heq⟩ := h.value
  by_cases hquote : Avoids isQuote ahead
  case neg =>
    obtain ⟨c, more, rfl, hc⟩ := Text.exists_cons_of_not_avoids hquote
    refine h.linear_alternative [_, _] _ rfl ?_ h.linear_string
    simp only [isQuote, Bool.or_eq_true, beq_iff_eq] at hc
    rcases hc with rfl | rfl <;> simp [Text.avoids_cons, beginsNumber]
  have hfirst : ∀ rule ∈ (r.alternatives.take 3).map (·.1), Rejects scope 8 rule ahead :=
    h.rejects_alternatives (List.take_subset _ _) (by simp [alternatives, hobject, harray, hquote])
  by_cases hnumber : Avoids beginsNumber ahead
  case neg =>
    obtain ⟨c, more, rfl, hc⟩ := Text.exists_cons_of_not_avoids hnumber
    obtain ⟨ht, hf, hn⟩ := not_begins_word_of_beginsNumber hc
    have hwords : Rejects scope 25 (.choice id [r.trueWord, r.falseWord, r.nullWord]) (c :: more) :=
      .choice (k := 8) (h.rejects_alternatives (List.drop_subset 5 _)
        (by simp [alternatives, Text.avoids_cons, ht, hf, hn]))
    have hrest : Linear scope 5 83 83 Anywhere r.value (c :: more) := by
      rw [heq]
      exact Linear.choice_append hfirst (h.linear_numbers hwords)
    exact (hrest.earn 50 0 fun hspends => hspends.length_le).mono (by decide) (by decide)
  · have hnumbers : ∀ rule ∈ (r.alternatives.take 5).map (·.1), Rejects scope 8 rule ahead :=
      h.rejects_alternatives (List.take_subset _ _)
        (by simp [alternatives, hobject, harray, hquote, hnumber])
    obtain ⟨_, _, htrue, heqTrue⟩ := h.trueWord
    obtain ⟨_, _, hfalse, heqFalse⟩ := h.falseWord
    obtain ⟨_, _, hnull, heqNull⟩ := h.nullWord
    have hword : ∀ rule ∈ [r.trueWord, r.falseWord, r.nullWord], Light scope 6 rule := by
      simp only [List.forall_mem_cons]
      exact ⟨heqTrue ▸ (light_word htrue).node, heqFalse ▸ (light_word hfalse).node,
        heqNull ▸ (light_word hnull).node, List.forall_mem_nil _⟩
    have hwords : Light scope 19 (.choice id [r.trueWord, r.falseWord, r.nullWord]) := .choice hword
    have hrest : Linear scope 55 59 59 Anywhere r.value ahead := by
      rw [heq]
      exact Linear.choice_append hnumbers (.of_light hwords)
    exact hrest.mono (by decide) (by decide)

/-- A pair is paid for by its key and its colon, whatever its value has left over. -/
theorem linear_pair (h : r.Composed) (hknown : scope.Knows r.draft.rules)
    (hvalue : ∀ {mid}, mid.length < ahead.length →
      Linear scope 256 120 (-50) Anywhere r.value mid) :
    Linear scope 256 68 (-433) Anywhere r.pair ahead := by
  obtain ⟨id, id', key, colon, member, hkey, hcolon, hmember, heq⟩ := h.pair_member hknown
  have hshort {mid : List Char} {n : Nat} (hspends : Spends scope key ahead (.matched mid) n) :
      mid.length + 1 ≤ ahead.length := by
    obtain ⟨read, rfl, hread⟩ := hspends.generates rfl
    obtain ⟨text, blank, rfl, -, htext⟩ := generates_lexeme hkey hread
    obtain ⟨c, more, rfl, -⟩ := (h.spells_string htext).exists_cons
    simp only [List.length_append, List.length_cons]
    omega
  have hfirst : Linear scope 256 66 (-135) Anywhere key ahead :=
    (linear_lexeme hkey (by decide) h.linear_string).earn 201 1 hshort
  have hmark (mid : List Char) : Linear scope 256 4 (-251) Anywhere colon mid :=
    linear_symbol hcolon (by decide) (by decide)
  have hlast {mid : List Char} (hlt : mid.length < ahead.length) :
      Linear scope 256 122 (-48) Anywhere (.seq id' [member]) mid :=
    (hmember.linear (hvalue hlt)).seq_singleton
  have hrest {mid : List Char} (hlt : mid.length < ahead.length) :
      Linear scope 256 5 (-299) Anywhere (.seq id' [colon, member]) mid :=
    (hmark mid).seq_cons fun hspends => hlast (Nat.lt_of_le_of_lt hspends.length_le hlt)
  rw [heq]
  exact (hfirst.seq_cons fun hspends => hrest (hshort hspends)).node

/-- **No value is read over and over**: what is spent in front of it is linear in what lies
ahead, however deep containers are nested there. What a match leaves over is for the blanks
behind the value and for the rules around it. -/
theorem linear_value (h : r.Composed) (hknown : scope.Knows r.draft.rules) :
    Linear scope 256 120 (-50) Anywhere r.value ahead := by
  induction hlen : ahead.length using Nat.strongRecOn generalizing ahead with
  | ind length ih =>
    subst hlen
    have hvalue {mid : List Char} (hlt : mid.length < ahead.length) :
        Linear scope 256 120 (-50) Anywhere r.value mid := ih _ hlt rfl
    have hitems (kind : Kind) {mid : List Char} (hlt : mid.length < ahead.length) :
        Linear scope 256 120 (-50) Anywhere (r.item kind) mid := by
      cases kind with
      | pair =>
        have hpair := h.linear_pair hknown fun hshort => hvalue (Nat.lt_trans hshort hlt)
        exact hpair.mono (by decide) (by decide)
      | value => exact hvalue hlt
    have hcontainer (kind : Kind) :
        Linear scope 256 6 (-179) Anywhere (r.container kind) ahead := by
      obtain ⟨item, hstands, hmade, -⟩ := h.container hknown kind
      exact hmade.linear (fun hlt => hstands.linear (hitems kind hlt))
        fun rest => hstands.rejects (h.rejects_closing kind)
    -- which of the alternatives may read anything is a matter of the first character
    by_cases hobject : Avoids (· == '\x7b') ahead
    case neg =>
      obtain ⟨c, more, rfl, hc⟩ := Text.exists_cons_of_not_avoids hobject
      obtain rfl := eq_of_beq hc
      have hall := h.linear_alternative [] _ rfl
        (by simp [Text.avoids_cons, isQuote, beginsNumber]) (hcontainer .pair)
      exact hall.mono (by decide) (by decide)
    by_cases harray : Avoids (· == '[') ahead
    case neg =>
      obtain ⟨c, more, rfl, hc⟩ := Text.exists_cons_of_not_avoids harray
      obtain rfl := eq_of_beq hc
      have hall := h.linear_alternative [_] _ rfl
        (by simp [Text.avoids_cons, isQuote, beginsNumber]) (hcontainer .value)
      exact hall.mono (by decide) (by decide)
    exact ((h.linear_atom hobject harray).earn 201 1 (h.length_lt_of_value hknown)).mono
      (Int.le_refl _) (by decide)

/-- **What a document spends is linear in the text**, whether it is one or not. -/
theorem linear_json (h : r.Composed) (hknown : scope.Knows r.draft.rules) :
    Linear scope 256 123 123 Anywhere r.json ahead := by
  obtain ⟨id, before, after, stop, hbefore, hafter, heq⟩ := h.json
  have hend (mid : List Char) : Linear scope 256 2 2 Anywhere (.seq id [.endOfInput stop]) mid :=
    (Linear.of_light .endOfInput).seq_singleton
  have hclosing (mid : List Char) :
      Linear scope 256 4 4 Anywhere (.seq id [after, .endOfInput stop]) mid :=
    (linear_blanks hafter (by decide)).seq_cons fun _ => hend _
  have hvalue (mid : List Char) :
      Linear scope 256 121 (-46) Anywhere (.seq id [r.value, after, .endOfInput stop]) mid :=
    (h.linear_value hknown).seq_cons fun _ => hclosing _
  have hblanks : Linear scope 256 2 2 Anywhere before ahead := linear_blanks hbefore (by decide)
  rw [heq]
  exact (hblanks.seq_cons fun _ => hvalue _).mono (by decide) (by decide)

end Rules.Composed

end JsonValue

end Packrat
