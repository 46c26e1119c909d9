import Packrat.Proofs.JsonLanguage

/-!
# Reading JSON documents

Order, greed and lookahead keep the rules of the JSON grammar from no text of the
language: whatever alternative a text is for, those before it fail in front of it, and
what follows an item goes on with none.

- `JsonValue.Follows`: what may stand behind an item.
- `JsonValue.Rules.Composed.refuses_of_avoids`: an alternative fails in front of what it
  does not begin with.
- `JsonValue.Spells.reads`, `JsonValue.Rules.Composed.reads_document`: the rules read the
  texts of the language, with their tokens.
-/

namespace Packrat

namespace JsonValue

open Builder Lexical
open Text (Avoids)

variable {scope : Scope} {r : Rules}

/-! ## What may follow -/

/-- What may stand behind an item: a blank, a comma or a closing bracket. -/
def isFollower (c : Char) : Bool := isBlank c || c == ',' || c == ']' || c == '\x7d'

/-- What lies ahead is nothing, or something that may stand behind an item. -/
def Follows (rest : List Char) : Prop := ∀ c, rest.head? = some c → isFollower c = true

theorem isFollower_cases {c : Char} (h : isFollower c = true) :
    c = ' ' ∨ c = '\t' ∨ c = '\r' ∨ c = '\n' ∨ c = ',' ∨ c = ']' ∨ c = '\x7d' := by
  simpa [isFollower, isBlank, or_assoc] using h

theorem Kind.isFollower_closing (kind : Kind) : isFollower kind.closing = true := by
  cases kind <;> rfl

namespace Follows

variable {rest blank : List Char}

theorem nil : Follows [] := fun _ h => nomatch h

theorem cons {c : Char} (h : isFollower c = true) : Follows (c :: rest) := by
  intro c' hc
  cases hc
  exact h

theorem blank_append (hblank : Blank blank) (h : Follows rest) : Follows (blank ++ rest) := by
  cases blank with
  | nil => exact h
  | cons c more =>
    have hc : isBlank c = true := hblank c List.mem_cons_self
    exact .cons (by simp [isFollower, hc])

/-- No number goes on there. -/
theorem avoids_isNumeric (h : Follows rest) : Avoids isNumeric rest := by
  intro c hc
  rcases isFollower_cases (h c hc) with rfl | rfl | rfl | rfl | rfl | rfl | rfl <;> rfl

/-- No word goes on there. -/
theorem avoids_isAlphanumeric (h : Follows rest) : Avoids Unicode.isAlphanumeric rest := by
  intro c hc
  rcases isFollower_cases (h c hc) with rfl | rfl | rfl | rfl | rfl | rfl | rfl <;> decide +kernel

end Follows

/-! ## Where the rules fail -/

variable {kind : Kind} {item rule : Rule} {unsigned : Builder Rule}
  {read rest sign blank items : List Char} {trees : List Tree} {c : Char}

theorem IsContainer.refuses (h : IsContainer kind item rule)
    (hrest : Avoids (· == kind.opening) rest) : Refuses scope rule rest := by
  obtain ⟨id, id', opening, lexeme, comma, items, closing, hopening, -, -, -, rfl⟩ := h
  exact .node (refuses_mark hopening hrest).seq_failed

/-- Whether a string begins with `c`. -/
def isQuote (c : Char) : Bool := c == '"' || c == '\x27'

theorem Rules.Composed.refuses_string (h : r.Composed) (hrest : Avoids isQuote rest) :
    Refuses scope r.string rest := by
  obtain ⟨id, id', double, single, hdouble, hsingle, heq⟩ := h.string
  have hnot : ∀ c, rest.head? = some c → (c == '"') = false ∧ (c == '\x27') = false :=
    fun c hc => Bool.or_eq_false_iff.1 (hrest c hc)
  rw [heq]
  exact .node (.choice_next (refuses_quotedString hdouble fun c hc => (hnot c hc).1)
    (.choice_next (refuses_quotedString hsingle fun c hc => (hnot c hc).2) .choice_nil))

/-- Behind the sign, if there is one, nothing that the unsigned rule reads. -/
theorem IsSigned.refuses (h : IsSigned unsigned rule) (hsign : Optionally (· = ['-']) sign)
    (hminus : sign = [] → Avoids (· == '-') rest)
    (hunsigned : ∀ number, unsigned.Makes number → Refuses scope number rest) :
    Refuses scope rule (sign ++ rest) := by
  obtain ⟨id, id', perhaps, minus, number, hnumber, rfl⟩ := h
  have hperhaps : Reads scope (.opt perhaps (.char minus (.single '-'))) sign rest [] := by
    rcases hsign with rfl | rfl
    · exact .opt_left (.char (hminus rfl))
    · exact .opt_taken (.char rfl)
  exact .node (.seq_next hperhaps (hunsigned number hnumber).seq_failed)

theorem refuses_wordNode {id : RuleId} {word : Rule} {text : String} {letters : List Char}
    (h : (Lexical.word text).Makes word) (htext : text.toList = c :: letters)
    (hrest : Avoids (· == c) rest) : Refuses scope (.node id word) rest := by
  refine .node (refuses_word h ?_)
  rw [htext]
  exact Text.not_prefix_of_avoids hrest

/-- Whether a number begins with `c`. -/
def beginsNumber (c : Char) : Bool := c == '-' || c.isDigit

namespace Rules

/-- The alternatives of a value, each with the characters with which it begins. -/
def alternatives (r : Rules) : List (Rule × (Char → Bool)) :=
  [(r.object, (· == '\x7b')), (r.array, (· == '[')), (r.string, isQuote), (r.float, beginsNumber),
    (r.integer, beginsNumber), (r.trueWord, (· == 't')), (r.falseWord, (· == 'f')),
    (r.nullWord, (· == 'n'))]

namespace Composed

/-- An alternative fails in front of what it does not begin with. -/
theorem refuses_of_avoids (h : r.Composed) :
    ∀ entry ∈ r.alternatives, Avoids entry.2 rest → Refuses scope entry.1 rest := by
  have hnumber (hrest : Avoids beginsNumber rest) :
      Avoids (· == '-') rest ∧ Avoids Char.isDigit rest :=
    ⟨fun c hc => (Bool.or_eq_false_iff.1 (hrest c hc)).1,
      fun c hc => (Bool.or_eq_false_iff.1 (hrest c hc)).2⟩
  obtain ⟨member, harray⟩ := h.array
  simp only [alternatives, List.forall_mem_cons]
  refine ⟨h.object.refuses, harray.refuses, h.refuses_string, fun hrest => ?_, fun hrest => ?_,
    fun hrest => ?_, fun hrest => ?_, fun hrest => ?_, List.forall_mem_nil _⟩
  · obtain ⟨hminus, hdigit⟩ := hnumber hrest
    exact h.float.refuses (.inl rfl) (fun _ => hminus) fun _ hmakes => refuses_float hmakes hdigit
  · obtain ⟨hminus, hdigit⟩ := hnumber hrest
    exact h.integer.refuses (.inl rfl) (fun _ => hminus) fun _ hmakes =>
      refuses_integer hmakes hdigit
  · obtain ⟨id, word, hword, heq⟩ := h.trueWord
    exact heq ▸ refuses_wordNode hword rfl hrest
  · obtain ⟨id, word, hword, heq⟩ := h.falseWord
    exact heq ▸ refuses_wordNode hword rfl hrest
  · obtain ⟨id, word, hword, heq⟩ := h.nullWord
    exact heq ▸ refuses_wordNode hword rfl hrest

theorem value_eq (h : r.Composed) : ∃ id, r.value = .choice id (r.alternatives.map (·.1)) := h.value

/-- No value begins with a closing bracket. -/
theorem refuses_value (h : r.Composed) (hrest : ∀ entry ∈ r.alternatives, Avoids entry.2 rest) :
    Refuses scope r.value rest := by
  obtain ⟨id, heq⟩ := h.value_eq
  rw [heq]
  refine .choice fun rule hmem => ?_
  obtain ⟨entry, hentry, rfl⟩ := List.mem_map.1 hmem
  exact h.refuses_of_avoids entry hentry (hrest entry hentry)

/-- A value is read by an alternative if those before it fail. -/
theorem reads_value (h : r.Composed) {entry : Rule × (Char → Bool)}
    (before after : List (Rule × (Char → Bool)))
    (hsplit : r.alternatives = before ++ entry :: after)
    (hbefore : ∀ other ∈ before, Refuses scope other.1 (read ++ rest))
    (hread : Reads scope entry.1 read rest trees) : Reads scope r.value read rest trees := by
  obtain ⟨id, heq⟩ := h.value_eq
  rw [heq, hsplit, List.map_append, List.map_cons]
  refine .choice_of_refuses _ (fun rule hmem => ?_) hread
  obtain ⟨other, hother, rfl⟩ := List.mem_map.1 hmem
  exact hbefore other hother

/-- The alternatives that do not begin with the first character ahead fail. -/
theorem refuses_before (h : r.Composed) {before : List (Rule × (Char → Bool))}
    (hsub : before ⊆ r.alternatives) (hbefore : ∀ other ∈ before, other.2 c = false) :
    ∀ other ∈ before, Refuses scope other.1 (c :: rest) :=
  fun other hmem => h.refuses_of_avoids other (hsub hmem) (Text.avoids_cons.2 (hbefore other hmem))

/-- Neither a pair nor a value begins with the bracket behind such items. -/
theorem refuses_closing (h : r.Composed) (kind : Kind) :
    Refuses scope (r.item kind) (kind.closing :: rest) := by
  cases kind with
  | pair =>
    obtain ⟨id, id', key, colon, value, hkey, -, heq⟩ := h.pair
    have hstring : Refuses scope r.string ('\x7d' :: rest) :=
      h.refuses_string (Text.avoids_cons.2 rfl)
    rw [item, heq]
    exact .node (refuses_lexeme hkey hstring).seq_failed
  | value =>
    refine h.refuses_value ?_
    simp only [alternatives, List.forall_mem_cons, Kind.closing, Text.avoids_cons]
    exact ⟨rfl, rfl, rfl, rfl, rfl, rfl, rfl, rfl, List.forall_mem_nil _⟩

end Composed

end Rules

/-! ## Texts of the language are read -/

theorem IsSigned.reads {name : String} (h : IsSigned unsigned rule)
    (hname : scope.name rule.id = some name) (hsign : Optionally (· = ['-']) sign)
    (hminus : Avoids (· == '-') (read ++ rest))
    (hunsigned : ∀ number, unsigned.Makes number → Reads scope number read rest []) :
    Reads scope rule (sign ++ read) rest [branch name (sign ++ read) []] := by
  obtain ⟨id, id', perhaps, minus, number, hnumber, rfl⟩ := h
  have hperhaps : Reads scope (.opt perhaps (.char minus (.single '-'))) sign (read ++ rest) [] := by
    rcases hsign with rfl | rfl
    · exact .opt_left (.char hminus)
    · exact .opt_taken (.char rfl)
  exact .node hname (hperhaps.seq_cons (hunsigned number hnumber).seq_singleton)

/-- A digit is no minus sign. -/
theorem avoids_minus {digits more : List Char} (h : Digits digits) :
    Avoids (· == '-') (digits ++ more) := by
  obtain ⟨c, digits, rfl⟩ := List.exists_cons_of_ne_nil h.1
  have hc : c.isDigit = true := h.2 c List.mem_cons_self
  refine Text.avoids_cons.2 (beq_false_of_ne ?_)
  rintro rfl
  cases hc

/-- The items are those that `lexeme` reads first and `tail` reads then. -/
def ReadsItems (scope : Scope) (lexeme tail : Rule) (items rest : List Char) (trees : List Tree) :
    Prop :=
  ∃ first more trees₁ trees₂, items = first ++ more ∧ trees = trees₁ ++ trees₂ ∧
    Reads scope lexeme first (more ++ rest) trees₁ ∧ Reads scope tail more rest trees₂

theorem ReadsItems.seq {lexeme tail : Rule} {id : RuleId}
    (h : ReadsItems scope lexeme tail items rest trees) :
    Reads scope (.seq id [lexeme, tail]) items rest trees := by
  obtain ⟨first, more, trees₁, trees₂, rfl, rfl, hfirst, hmore⟩ := h
  exact hfirst.seq_cons hmore.seq_singleton

namespace IsContainer

theorem reads_empty (h : IsContainer kind item rule) (hname : scope.name rule.id = some kind.container)
    (hblank : Blank blank) (hitem : Refuses scope item (kind.closing :: rest)) :
    Reads scope rule (kind.opening :: (blank ++ [kind.closing])) rest
      [branch kind.container (kind.opening :: (blank ++ [kind.closing])) []] := by
  obtain ⟨id, id', opening, lexeme, comma, items, closing, hopening, hlexeme, -, hitems, rfl⟩ := h
  have hlast : Reads scope (.literal closing (String.singleton kind.closing)) [kind.closing] rest [] := by
    rw [← toList_singleton]
    exact .literal _
  have hnone : Reads scope items [] ([kind.closing] ++ rest) [] :=
    reads_list_nil hitems (refuses_lexeme hlexeme hitem)
  have hfirst : Reads scope opening (kind.opening :: blank) ([kind.closing] ++ rest) [] := by
    refine reads_mark hopening hblank (Text.avoids_cons.2 ?_)
    cases kind <;> rfl
  exact .node hname (hfirst.seq_cons (hnone.seq_cons hlast.seq_singleton))

theorem reads_filled (h : IsContainer kind item rule)
    (hname : scope.name rule.id = some kind.container) (hblank : Blank blank)
    (hitems : ∀ lexeme comma tail, (Lexical.lexeme item).Makes lexeme → (symbol ",").Makes comma →
      IsTail lexeme comma tail → ReadsItems scope lexeme tail items (kind.closing :: rest) trees)
    (hbegins : Avoids isBlank (items ++ kind.closing :: rest)) :
    Reads scope rule (kind.opening :: (blank ++ (items ++ [kind.closing]))) rest
      [branch kind.container (kind.opening :: (blank ++ (items ++ [kind.closing]))) trees] := by
  obtain ⟨id, id', opening, lexeme, comma, list, closing, hopening, hlexeme, hcomma, hlist, rfl⟩ := h
  obtain ⟨id₁, id₂, tail, htail, rfl⟩ := makes_list hlist
  have hlast : Reads scope (.literal closing (String.singleton kind.closing)) [kind.closing] rest [] := by
    rw [← toList_singleton]
    exact .literal _
  have hsome : Reads scope (.opt id₁ (.seq id₂ [lexeme, tail])) items ([kind.closing] ++ rest) trees :=
    .opt_taken (hitems lexeme comma tail hlexeme hcomma htail).seq
  have hfirst : Reads scope opening (kind.opening :: blank) (items ++ [kind.closing] ++ rest) [] := by
    refine reads_mark hopening hblank ?_
    rwa [List.append_assoc]
  have hrest : Reads scope (.seq id' [_, _]) (items ++ [kind.closing]) rest (trees ++ []) :=
    hsome.seq_cons hlast.seq_singleton
  have hall := hfirst.seq_cons hrest
  rw [List.append_nil] at hall
  exact .node hname hall

end IsContainer

/-- A string begins with its quote. -/
theorem StringText.exists_cons (h : StringText read) :
    ∃ c more, read = c :: more ∧ isQuote c = true := by
  rcases h with ⟨units, -, rfl⟩ | ⟨units, -, rfl⟩ <;> exact ⟨_, _, rfl, rfl⟩

/-- A number begins with its sign or with a digit. -/
theorem exists_cons_of_number {digits : List Char} (more : List Char)
    (hsign : Optionally (· = ['-']) sign) (hdigits : Digits digits) :
    ∃ c rest, sign ++ (digits ++ more) = c :: rest ∧ beginsNumber c = true := by
  rcases hsign with rfl | rfl
  · obtain ⟨c, digits, rfl⟩ := List.exists_cons_of_ne_nil hdigits.1
    have hc : c.isDigit = true := hdigits.2 c List.mem_cons_self
    exact ⟨c, _, rfl, by simp [beginsNumber, hc]⟩
  · exact ⟨'-', _, rfl, rfl⟩

/-- A character with which a number begins is none with which another value does. -/
theorem not_begins_of_beginsNumber (h : beginsNumber c = true) :
    c ≠ '\x7b' ∧ c ≠ '[' ∧ isQuote c = false ∧ isBlank c = false := by
  refine ⟨?_, ?_, Bool.eq_false_iff.2 fun hc => ?_, Bool.eq_false_iff.2 fun hc => ?_⟩
  · rintro rfl
    cases h
  · rintro rfl
    cases h
  · simp only [isQuote, Bool.or_eq_true, beq_iff_eq] at hc
    rcases hc with rfl | rfl <;> cases h
  · simp only [isBlank, Bool.or_eq_true, beq_iff_eq, or_assoc] at hc
    rcases hc with rfl | rfl | rfl | rfl <;> cases h

namespace Rules.Composed

theorem reads_string (h : r.Composed) (hknown : scope.Knows r.draft.rules) (htext : StringText read) :
    Reads scope r.string read rest [branch "String" read []] := by
  have hname := hknown.name_eq ("String", r.string) (by simp [draft])
  obtain ⟨id, id', double, single, hdouble, hsingle, heq⟩ := h.string
  rw [heq] at hname ⊢
  refine .node hname ?_
  rcases htext with hquoted | hquoted
  · exact .choice_first (reads_quotedString hdouble (by decide) hquoted)
  · have hnot : Refuses scope double (read ++ rest) := by
      obtain ⟨units, -, rfl⟩ := hquoted
      exact refuses_quotedString hdouble (Text.avoids_cons.2 rfl)
    exact .choice_next hnot (.choice_first (reads_quotedString hsingle (by decide) hquoted))

theorem value_string (h : r.Composed) (hknown : scope.Knows r.draft.rules) (htext : StringText read) :
    Reads scope r.value read rest [branch "String" read []] := by
  refine h.reads_value [_, _] _ rfl ?_ (h.reads_string hknown htext)
  obtain ⟨c, more, rfl, hc⟩ := htext.exists_cons
  refine h.refuses_before (by simp [alternatives]) ?_
  simp only [isQuote, Bool.or_eq_true, beq_iff_eq] at hc
  rcases hc with rfl | rfl <;> simp

theorem value_float {digits fraction power : List Char} (h : r.Composed)
    (hknown : scope.Knows r.draft.rules) (hsign : Optionally (· = ['-']) sign)
    (hcut : Cut digits fraction power rest) (hsome : fraction ++ power ≠ []) :
    Reads scope r.value (sign ++ (digits ++ (fraction ++ power))) rest
      [branch "Float" (sign ++ (digits ++ (fraction ++ power))) []] := by
  have hname := hknown.name_eq ("Float", r.float) (by simp [draft])
  have hminus : Avoids (· == '-') (digits ++ (fraction ++ power) ++ rest) := by
    rw [List.append_assoc]
    exact avoids_minus hcut.digits
  have hread := h.float.reads hname hsign hminus fun number hnumber =>
    reads_float hnumber hcut hsome
  refine h.reads_value [_, _, _] _ rfl ?_ hread
  obtain ⟨c, more, heq, hc⟩ := exists_cons_of_number (fraction ++ power) hsign hcut.digits
  obtain ⟨hbrace, hbracket, hquote, -⟩ := not_begins_of_beginsNumber hc
  rw [heq]
  exact h.refuses_before (by simp [alternatives]) (by simp [hbrace, hbracket, hquote])

/-- A float begins as an integer does, and fails where the digits end. -/
theorem refuses_float_of_cut {digits : List Char} (h : r.Composed)
    (hsign : Optionally (· = ['-']) sign) (hcut : Cut digits [] [] rest) :
    Refuses scope r.float (sign ++ (digits ++ rest)) :=
  h.float.refuses hsign (fun _ => avoids_minus hcut.digits) fun _ hnumber =>
    refuses_float_of_digits hnumber hcut

theorem value_integer {digits : List Char} (h : r.Composed) (hknown : scope.Knows r.draft.rules)
    (hsign : Optionally (· = ['-']) sign) (hcut : Cut digits [] [] rest)
    (hpoint : Avoids (· == '.') rest) :
    Reads scope r.value (sign ++ digits) rest [branch "Integer" (sign ++ digits) []] := by
  have hname := hknown.name_eq ("Integer", r.integer) (by simp [draft])
  have hread := h.integer.reads hname hsign (avoids_minus hcut.digits) fun number hnumber =>
    reads_integer hnumber hcut.digits hcut.ends hpoint
  have hfloat : Refuses scope r.float (sign ++ digits ++ rest) := by
    rw [List.append_assoc]
    exact h.refuses_float_of_cut hsign hcut
  refine h.reads_value [_, _, _, _] _ rfl ?_ hread
  obtain ⟨c, more, heq, hc⟩ := exists_cons_of_number rest hsign hcut.digits
  obtain ⟨hbrace, hbracket, hquote, -⟩ := not_begins_of_beginsNumber hc
  have hbefore : ∀ other ∈ r.alternatives.take 3, Refuses scope other.1 (c :: more) :=
    h.refuses_before (List.take_subset _ _) (by simp [alternatives, hbrace, hbracket, hquote])
  rw [← heq, ← List.append_assoc] at hbefore
  simp only [alternatives, List.take_succ_cons, List.take_zero, List.forall_mem_cons] at hbefore ⊢
  exact ⟨hbefore.1, hbefore.2.1, hbefore.2.2.1, hfloat, List.forall_mem_nil _⟩

theorem value_wordNode {id : RuleId} {word : Rule} {name text : String} (h : r.Composed)
    (c : Char) (letters : List Char) (before after : List (Rule × (Char → Bool)))
    (hsplit : r.alternatives = before ++ (rule, (· == c)) :: after)
    (htext : text.toList = c :: letters) (hbefore : ∀ other ∈ before, other.2 c = false)
    (hword : (Lexical.word text).Makes word) (hrule : rule = .node id word)
    (hname : scope.name rule.id = some name) (hrest : Follows rest) :
    Reads scope r.value text.toList rest [branch name text.toList []] := by
  have hread : Reads scope rule text.toList rest [branch name text.toList []] := by
    rw [hrule] at hname ⊢
    exact .node hname (reads_word hword hrest.avoids_isAlphanumeric)
  refine h.reads_value before after hsplit ?_ hread
  rw [htext]
  exact h.refuses_before (hsplit ▸ List.subset_append_left _ _) hbefore

theorem value_word {name text : String} (h : r.Composed) (hknown : scope.Knows r.draft.rules)
    (hword : (name, text) ∈ words) (hrest : Follows rest) :
    Reads scope r.value text.toList rest [branch name text.toList []] := by
  simp only [words, List.mem_cons, Prod.mk.injEq, List.not_mem_nil, or_false] at hword
  rcases hword with ⟨rfl, rfl⟩ | ⟨rfl, rfl⟩ | ⟨rfl, rfl⟩
  · have hname := hknown.name_eq ("True", r.trueWord) (by simp [draft])
    obtain ⟨id, word, hmakes, heq⟩ := h.trueWord
    exact h.value_wordNode 't' _ [_, _, _, _, _] _ rfl rfl
      (by simp [isQuote, beginsNumber]) hmakes heq hname hrest
  · have hname := hknown.name_eq ("False", r.falseWord) (by simp [draft])
    obtain ⟨id, word, hmakes, heq⟩ := h.falseWord
    exact h.value_wordNode 'f' _ [_, _, _, _, _, _] _ rfl rfl
      (by simp [isQuote, beginsNumber]) hmakes heq hname hrest
  · have hname := hknown.name_eq ("Null", r.nullWord) (by simp [draft])
    obtain ⟨id, word, hmakes, heq⟩ := h.nullWord
    exact h.value_wordNode 'n' _ [_, _, _, _, _, _, _] _ rfl rfl
      (by simp [isQuote, beginsNumber]) hmakes heq hname hrest

theorem value_container (h : r.Composed)
    (hread : Reads scope (r.container kind) (kind.opening :: read) rest trees) :
    Reads scope r.value (kind.opening :: read) rest trees := by
  cases kind with
  | pair => exact h.reads_value [] _ rfl (List.forall_mem_nil _) hread
  | value =>
    refine h.reads_value [_] _ rfl ?_ hread
    exact h.refuses_before (by simp [alternatives]) (by simp [Kind.opening])

theorem reads_pair {key blank' value : List Char} {tree : Tree} (h : r.Composed)
    (hknown : scope.Knows r.draft.rules) (hkey : StringText key) (hblank : Blank blank)
    (hblank' : Blank blank') (hbegins : Avoids isBlank (value ++ rest))
    (hvalue : Reads scope r.value value rest [tree]) :
    Reads scope r.pair (key ++ blank ++ ':' :: (blank' ++ value)) rest
      [branch "Pair" (key ++ blank ++ ':' :: (blank' ++ value)) [branch "String" key [], tree]] := by
  have hname := hknown.name_eq ("Pair", r.pair) (by simp [draft])
  obtain ⟨id, id', lexeme, colon, member, hlexeme, hcolon, hmember, heq⟩ := h.pair_member hknown
  rw [heq] at hname ⊢
  have hlast : Reads scope member value rest [tree] := hmember.reads hvalue
  have hmark : Reads scope colon (':' :: blank') (value ++ rest) [] :=
    reads_symbol hcolon hblank' hbegins
  have hfirst : Reads scope lexeme (key ++ blank) (':' :: (blank' ++ value) ++ rest)
      [branch "String" key []] :=
    reads_lexeme hlexeme (h.reads_string hknown hkey) hblank (Text.avoids_cons.2 rfl)
  exact .node hname (hfirst.seq_cons (hmark.seq_cons hlast.seq_singleton))

end Rules.Composed

/-- What an item begins with is no blank. -/
theorem Spells.avoids_isBlank {phrase : Phrase} (h : Spells phrase read) :
    ∀ rest, Avoids isBlank (read ++ rest) := by
  induction h with
  | string htext =>
    intro rest
    obtain ⟨c, more, rfl, hc⟩ := htext.exists_cons
    simp only [isQuote, Bool.or_eq_true, beq_iff_eq] at hc
    rcases hc with rfl | rfl <;> exact Text.avoids_cons.2 rfl
  | @integer sign digits hsign hdigits =>
    intro rest
    obtain ⟨c, more, heq, hc⟩ := exists_cons_of_number rest hsign hdigits
    rw [List.append_assoc, heq]
    exact Text.avoids_cons.2 (not_begins_of_beginsNumber hc).2.2.2
  | @float sign digits fraction power hsign hdigits =>
    intro rest
    obtain ⟨c, more, heq, hc⟩ := exists_cons_of_number (fraction ++ power) hsign hdigits
    rw [heq]
    exact Text.avoids_cons.2 (not_begins_of_beginsNumber hc).2.2.2
  | word hword =>
    intro rest
    simp only [words, List.mem_cons, Prod.mk.injEq, List.not_mem_nil, or_false] at hword
    rcases hword with ⟨-, rfl⟩ | ⟨-, rfl⟩ | ⟨-, rfl⟩ <;> exact Text.avoids_cons.2 rfl
  | @empty kind | @filled kind => intro rest; cases kind <;> exact Text.avoids_cons.2 rfl
  | pair hkey =>
    intro rest
    obtain ⟨c, more, rfl, hc⟩ := hkey.exists_cons
    simp only [isQuote, Bool.or_eq_true, beq_iff_eq] at hc
    rcases hc with rfl | rfl <;> exact Text.avoids_cons.2 rfl
  | last _ _ ih => intro rest; rw [List.append_assoc]; exact ih _
  | next _ _ _ _ ih => intro rest; rw [List.append_assoc, List.append_assoc]; exact ih _

/-- What it means that the rules read a phrase. -/
def Phrase.ReadBy (scope : Scope) (r : Rules) : Phrase → List Char → Prop
  | .one kind tree, text => ∀ rest, Follows rest → Reads scope (r.item kind) text rest [tree]
  | .several kind trees, text =>
    ∀ item lexeme comma tail rest, StandsFor scope (r.item kind) item →
      (Lexical.lexeme item).Makes lexeme → (symbol ",").Makes comma → IsTail lexeme comma tail →
      ReadsItems scope lexeme tail text (kind.closing :: rest) trees

/-- **The rules read the texts of the language**: each with its tokens, and all of it
in front of what may follow. -/
theorem Spells.reads {phrase : Phrase} (h : Spells phrase read) (hmade : r.Composed)
    (hknown : scope.Knows r.draft.rules) : phrase.ReadBy scope r read := by
  induction h with
  | string htext => exact fun rest _ => hmade.value_string hknown htext
  | integer hsign hdigits =>
    intro rest hrest
    have hbehind : Avoids isNumeric rest := hrest.avoids_isNumeric
    exact hmade.value_integer hknown hsign (cut_of_avoids hdigits (.inl rfl) (.inl rfl) hbehind)
      (avoids_point hbehind)
  | float hsign hdigits hfraction hpower hsome =>
    exact fun rest hrest =>
      hmade.value_float hknown hsign
        (cut_of_avoids hdigits hfraction hpower hrest.avoids_isNumeric) hsome
  | word hword => exact fun rest hrest => hmade.value_word hknown hword hrest
  | @empty kind blank hblank =>
    intro rest hrest
    obtain ⟨item, hitem, hcontainer, -⟩ := hmade.container hknown kind
    refine hmade.value_container (hcontainer.reads_empty (Rules.name_container hknown kind) hblank ?_)
    exact hitem.refuses (hmade.refuses_closing kind)
  | @filled kind blank items trees hblank hitems ih =>
    intro rest hrest
    obtain ⟨item, hitem, hcontainer, -⟩ := hmade.container hknown kind
    refine hmade.value_container (hcontainer.reads_filled (Rules.name_container hknown kind) hblank ?_
      (hitems.avoids_isBlank _))
    exact fun lexeme comma tail => ih item lexeme comma tail rest hitem
  | @pair key blank blank' value tree hkey hblank hblank' hvalue ih =>
    intro rest hrest
    exact hmade.reads_pair hknown hkey hblank hblank' (hvalue.avoids_isBlank rest) (ih rest hrest)
  | @last kind item blank tree hitem hblank ih =>
    intro rule lexeme comma tail rest hrule hlexeme hcomma htail
    have hclosing : Follows (kind.closing :: rest) := .cons kind.isFollower_closing
    have hread : Reads scope rule item (blank ++ kind.closing :: rest) [tree] :=
      hrule.reads (ih _ (hclosing.blank_append hblank))
    refine ⟨item ++ blank, [], [tree], [], by simp, rfl, ?_, htail.reads_nil ?_⟩
    · refine reads_lexeme hlexeme hread hblank (Text.avoids_cons.2 ?_)
      cases kind <;> rfl
    · refine refuses_symbol hcomma (Text.not_prefix_of_avoids (Text.avoids_cons.2 ?_))
      cases kind <;> rfl
  | @next kind item blank blank' items tree trees hitem hblank hblank' hitems ih ih' =>
    intro rule lexeme comma tail rest hrule hlexeme hcomma htail
    obtain ⟨first, more, trees₁, trees₂, rfl, rfl, hfirst, hmore⟩ :=
      ih' rule lexeme comma tail rest hrule hlexeme hcomma htail
    have hfollows : Follows (',' :: (blank' ++ (first ++ more)) ++ kind.closing :: rest) := .cons rfl
    have hread : Reads scope rule item (blank ++ (',' :: (blank' ++ (first ++ more)) ++
        kind.closing :: rest)) [tree] :=
      hrule.reads (ih _ (hfollows.blank_append hblank))
    have hcommas : Reads scope comma (',' :: blank') (first ++ (more ++ kind.closing :: rest)) [] := by
      refine reads_symbol hcomma hblank' ?_
      rw [← List.append_assoc]
      exact hitems.avoids_isBlank _
    refine ⟨item ++ blank, ',' :: (blank' ++ (first ++ more)), [tree], trees₁ ++ trees₂, rfl, rfl,
      reads_lexeme hlexeme hread hblank (Text.avoids_cons.2 rfl), ?_⟩
    have htails := htail.reads_cons hcommas hfirst hmore
    simpa using htails

theorem Rules.Composed.reads_document {before value after : List Char} {tree : Tree}
    (h : r.Composed) (hknown : scope.Knows r.draft.rules) (hbefore : Blank before) (hafter : Blank after)
    (hvalue : Spells (.one .value tree) value) :
    Reads scope r.json (before ++ (value ++ after)) [] [tree] := by
  obtain ⟨id, leading, trailing, stop, hleading, htrailing, heq⟩ := h.json
  have hend : Reads scope (.endOfInput stop) [] [] [] := .endOfInput
  have hlast : Reads scope trailing after ([] ++ []) [] :=
    reads_blanks htrailing hafter (Text.avoids_nil _)
  have hread : Reads scope r.value value (after ++ [] ++ []) [tree] :=
    hvalue.reads h hknown _ (by simpa using Follows.nil.blank_append hafter)
  have hfirst : Reads scope leading before (value ++ (after ++ []) ++ []) [] :=
    reads_blanks hleading hbefore (by simpa using hvalue.avoids_isBlank after)
  have hall : Reads scope (.seq id [leading, r.value, trailing, .endOfInput stop]) _ [] _ :=
    hfirst.seq_cons (hread.seq_cons (hlast.seq_cons hend.seq_singleton))
  rw [heq]
  simpa using hall

end JsonValue

end Packrat
