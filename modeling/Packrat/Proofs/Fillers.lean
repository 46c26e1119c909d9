import Packrat.Proofs.Comments
import Packrat.Proofs.Lexemes
import Packrat.Proofs.Stalling

/-!
# Blanks and comments

What may stand between lexemes where comments are allowed. Three rules take turns: one for
blanks, one for line comments and one for block comments. Each goes on up to an end of its own,
and a block comment that is not closed is not taken at all, however much of it was read.

- `Lexical.Filler skipped rest`: in front of `rest`, `skipped` is made of blanks and comments.
  `Lexical.Clear rest`: no blank and no comment begins there.
- `Lexical.SkipsTo text n`: the first `n` bytes of the text are blanks and comments, and what is
  behind them is clear. Every text is cut in this way (`Lexical.exists_filler`).
- `Lexical.reads_blanksAndComments`: the rule reads just that much.
- `Lexical.steady_blanksAndComments`: each turn reads something, so nothing stalls.
- `Lexical.blanksAndComments_exact`: **blanks and comments are skipped completely.**
-/

namespace Packrat

open Text (utf8Length Avoids)

namespace Text

variable {mark body rest : List Char} {c : Char}

theorem freeOf_singleton_iff : FreeOf [c] body rest ↔ c ∉ body := by
  induction body with
  | nil => simp [FreeOf]
  | cons d body ih => simp [FreeOf, ih]

/-- The text is cut in front of the first mark, or is free of it. -/
theorem exists_first_or_freeOf (mark text : List Char) :
    (∃ body after, text = body ++ (mark ++ after) ∧ FreeOf mark body (mark ++ after)) ∨
      FreeOf mark text [] := by
  obtain ⟨body, rest, rfl, hfree, rfl | ⟨after, rfl⟩⟩ := exists_freeOf mark text
  · rw [List.append_nil]
    exact .inr hfree
  · exact .inl ⟨body, after, rfl, hfree⟩

theorem FreeOf.ne_append {text after : List Char} (hfree : FreeOf mark text [])
    (hsome : mark ≠ []) : text ≠ body ++ (mark ++ after) := by
  intro htext
  have hnone : ¬OccursAt mark ([] ++ text) (utf8Length body) :=
    hfree.not_occursAt hsome (Nat.zero_le _)
  exact hnone ⟨body, after, htext, rfl⟩

end Text

namespace Builder.Keeps

open Lexical

theorem blanksAndComments {needs : List Rule} : Keeps needs blanksAndComments ([·]) :=
  (of (.oneOf _) (List.nil_subset _)).bind fun _ => (of (.oneOrMore _) (by simp)).bind fun _ =>
    (lineComment _).bind fun _ => (blockComment _ _).bind fun _ =>
    (of (.choice _) (by simp)).bind fun _ => of (.zeroOrMore _) (by simp)

end Builder.Keeps

namespace Lexical

open Builder Text

variable {scope : Scope} {rule : Rule} {blank body more skipped rest : List Char}
  {opening closing : String}

/-! ## Texts -/

/-- Blanks and comments in any order, in front of `rest`. A line comment goes up to a newline
or to the end, a block comment up to its first end. -/
inductive Filler : List Char → List Char → Prop where
  | nil {rest : List Char} : Filler [] rest
  | blank {c : Char} {more rest : List Char} :
      isBlank c = true → Filler more rest → Filler (c :: more) rest
  | line {body more rest : List Char} :
      '\n' ∉ body → (more ++ rest = [] ∨ ['\n'] <+: more ++ rest) → Filler more rest →
      Filler ("//".toList ++ (body ++ more)) rest
  | block {body more rest : List Char} :
      FreeOf "*/".toList body ("*/".toList ++ (more ++ rest)) → Filler more rest →
      Filler ("/*".toList ++ (body ++ ("*/".toList ++ more))) rest

/-- The text begins with no blank, with no line comment, and with no block comment that is
closed somewhere. -/
structure Clear (rest : List Char) : Prop where
  blank : Avoids isBlank rest
  line : ¬"//".toList <+: rest
  block : ∀ body after, rest ≠ "/*".toList ++ (body ++ ("*/".toList ++ after))

/-- The first `n` bytes of the text are all the blanks and comments that it begins with. -/
def SkipsTo (text : List Char) (n : Nat) : Prop :=
  ∃ skipped rest, text = skipped ++ rest ∧ Filler skipped rest ∧ Clear rest ∧
    utf8Length skipped = n

/-- What is not clear begins with a blank or with a comment, which ends first where it ends. -/
theorem clear_or_begins (text : List Char) :
    Clear text ∨ (∃ c more, text = c :: more ∧ isBlank c = true) ∨
      (∃ body more, text = "//".toList ++ (body ++ more) ∧ '\n' ∉ body ∧
        (more = [] ∨ ['\n'] <+: more)) ∨
      ∃ body more, text = "/*".toList ++ (body ++ ("*/".toList ++ more)) ∧
        FreeOf "*/".toList body ("*/".toList ++ more) := by
  by_cases hblank : Avoids isBlank text
  swap
  · exact .inr (.inl (exists_cons_of_not_avoids hblank))
  by_cases hline : "//".toList <+: text
  · obtain ⟨behind, rfl⟩ := hline
    obtain ⟨body, more, rfl, hfree, hend⟩ := exists_freeOf ['\n'] behind
    exact .inr (.inr (.inl ⟨body, more, rfl, freeOf_singleton_iff.1 hfree, hend⟩))
  by_cases hopened : "/*".toList <+: text
  · obtain ⟨behind, rfl⟩ := hopened
    rcases exists_first_or_freeOf "*/".toList behind with ⟨body, more, rfl, hfree⟩ | hfree
    · exact .inr (.inr (.inr ⟨body, more, rfl, hfree⟩))
    · refine .inl ⟨hblank, hline, fun body after heq => ?_⟩
      exact hfree.ne_append (by decide) (List.append_cancel_left heq)
  · exact .inl ⟨hblank, hline, fun body after heq => hopened ⟨_, heq.symm⟩⟩

/-- **Every text is cut behind the blanks and comments that it begins with.** -/
theorem exists_filler (text : List Char) :
    ∃ skipped rest, text = skipped ++ rest ∧ Filler skipped rest ∧ Clear rest := by
  -- what has been skipped makes the text shorter
  induction hlen : text.length using Nat.strong_induction_on generalizing text with
  | _ n ih =>
    subst hlen
    rcases clear_or_begins text with hclear | ⟨c, more, rfl, hc⟩ | ⟨body, more, rfl, hbody, hend⟩ |
      ⟨body, more, rfl, hfree⟩
    · exact ⟨[], text, rfl, .nil, hclear⟩
    · have hless : more.length < (c :: more).length := Nat.lt_succ_self _
      obtain ⟨skipped, rest, rfl, hfiller, hclear⟩ := ih _ hless more rfl
      exact ⟨c :: skipped, rest, rfl, .blank hc hfiller, hclear⟩
    · have hless : more.length < ("//".toList ++ (body ++ more)).length := by
        simp
        omega
      obtain ⟨skipped, rest, rfl, hfiller, hclear⟩ := ih _ hless more rfl
      exact ⟨"//".toList ++ (body ++ skipped), rest, by simp, .line hbody hend hfiller, hclear⟩
    · have hless : more.length < ("/*".toList ++ (body ++ ("*/".toList ++ more))).length := by
        simp
        omega
      obtain ⟨skipped, rest, rfl, hfiller, hclear⟩ := ih _ hless more rfl
      exact ⟨"/*".toList ++ (body ++ ("*/".toList ++ skipped)), rest, by simp,
        .block hfree hfiller, hclear⟩

/-! ## The rule -/

theorem detached_blanksAndComments : Detached blanksAndComments :=
  (Detached.oneOf (by decide)).bind fun _ h₁ => (Detached.oneOrMore h₁).bind fun _ h₂ =>
    (detached_lineComment (by decide)).bind fun _ h₃ =>
    (detached_blockComment (by decide) (by decide)).bind fun _ h₄ =>
    (Detached.choice (by simp) (by simp [h₂, h₃, h₄])).bind fun _ h₅ => .zeroOrMore h₅

theorem makes_blanksAndComments (h : blanksAndComments.Makes rule) :
    ∃ id turn first char line block, (lineComment "//").Makes line ∧
      (blockComment "/*" "*/").Makes block ∧ rule = .zeroOrMore id
        (.choice turn [.oneOrMore first (.char char (.oneOf " \t\r\n")), line, block]) := by
  obtain ⟨blank, hblank, h⟩ := h.bind
  obtain ⟨char, rfl⟩ := makes_oneOf hblank
  obtain ⟨blanks, hblanks, h⟩ := h.bind
  obtain ⟨first, rfl⟩ := makes_oneOrMore hblanks
  obtain ⟨line, hline, h⟩ := h.bind
  obtain ⟨block, hblock, h⟩ := h.bind
  obtain ⟨choice, hchoice, h⟩ := h.bind
  obtain ⟨turn, rfl⟩ := makes_choice hchoice
  obtain ⟨id, rfl⟩ := makes_zeroOrMore h
  exact ⟨id, turn, first, char, line, block, hline, hblock, rfl⟩

theorem refuses_blank {first char : RuleId} (h : Avoids isBlank rest) :
    Refuses scope (.oneOrMore first (.char char (.oneOf " \t\r\n"))) rest :=
  .oneOrMore (.char (accepts_blank ▸ h))

/-- No block comment is taken where none is closed. -/
theorem Clear.refuses_block (h : Clear rest) (hblock : (blockComment "/*" "*/").Makes rule) :
    Refuses scope rule rest := by
  by_cases hopened : "/*".toList <+: rest
  · obtain ⟨behind, rfl⟩ := hopened
    rcases exists_first_or_freeOf "*/".toList behind with ⟨body, after, rfl, -⟩ | hfree
    · exact absurd rfl (h.block body after)
    · exact refuses_blockComment_unclosed hblock (by decide) hfree
  · exact refuses_blockComment hblock hopened

/-- In front of what is clear the turns are over. -/
theorem Clear.reads_nil (h : Clear rest) (hrule : blanksAndComments.Makes rule) :
    Reads scope rule [] rest [] := by
  obtain ⟨id, turn, first, char, line, block, hline, hblock, rfl⟩ := makes_blanksAndComments hrule
  exact .zeroOrMore_ended (.choice_next (refuses_blank h.blank)
    (.choice_next (refuses_lineComment hline h.line)
      (.choice_next (h.refuses_block hblock) .choice_nil)))

/-- One turn takes all blanks that there are. -/
theorem reads_blank_turn (hrule : blanksAndComments.Makes rule) (hblank : Blank blank)
    (hmore : Avoids isBlank (more ++ rest)) (hread : Reads scope rule more rest []) :
    Reads scope rule (blank ++ more) rest [] := by
  by_cases hnone : blank = []
  · rwa [hnone, List.nil_append]
  · obtain ⟨id, turn, first, char, line, block, hline, hblock, rfl⟩ :=
      makes_blanksAndComments hrule
    have hall : Reads scope (.oneOrMore first (.char char (.oneOf " \t\r\n"))) blank
        (more ++ rest) [] :=
      .oneOrMore_char hnone (accepts_blank ▸ hblank) (accepts_blank ▸ hmore)
    exact hall.choice_first.zeroOrMore_next hread

theorem reads_line_turn (hrule : blanksAndComments.Makes rule) (hbody : '\n' ∉ body)
    (hend : more ++ rest = [] ∨ ['\n'] <+: more ++ rest) (hread : Reads scope rule more rest []) :
    Reads scope rule ("//".toList ++ (body ++ more)) rest [] := by
  obtain ⟨id, turn, first, char, line, block, hline, hblock, rfl⟩ := makes_blanksAndComments hrule
  have hcomment : Reads scope line ("//".toList ++ body) (more ++ rest) [] :=
    reads_lineComment hline (freeOf_singleton_iff.2 hbody) hend
  rw [← List.append_assoc]
  refine Reads.zeroOrMore_next (.choice_next (refuses_blank ?_) hcomment.choice_first) hread
  exact avoids_cons.2 (by decide)

theorem reads_block_turn (hrule : blanksAndComments.Makes rule)
    (hfree : FreeOf "*/".toList body ("*/".toList ++ (more ++ rest)))
    (hread : Reads scope rule more rest []) :
    Reads scope rule ("/*".toList ++ (body ++ ("*/".toList ++ more))) rest [] := by
  obtain ⟨id, turn, first, char, line, block, hline, hblock, rfl⟩ := makes_blanksAndComments hrule
  have hcomment : Reads scope block ("/*".toList ++ (body ++ "*/".toList)) (more ++ rest) [] :=
    reads_blockComment hblock (by decide) hfree
  have hcut : "/*".toList ++ (body ++ ("*/".toList ++ more)) =
      "/*".toList ++ (body ++ "*/".toList) ++ more := by simp
  rw [hcut]
  refine Reads.zeroOrMore_next (.choice_next (refuses_blank ?_)
    (.choice_next (refuses_lineComment hline ?_) hcomment.choice_first)) hread
  · exact avoids_cons.2 (by decide)
  · simp

/-- **All blanks and comments are read, in front of what is clear of them.** -/
theorem reads_blanksAndComments (hrule : blanksAndComments.Makes rule)
    (hfiller : Filler skipped rest) (hclear : Clear rest) : Reads scope rule skipped rest [] := by
  -- blanks side by side are one turn, so they are collected until something else follows
  suffices h : ∃ blank more, skipped = blank ++ more ∧ Blank blank ∧
      Avoids isBlank (more ++ rest) ∧ Reads scope rule more rest [] by
    obtain ⟨blank, more, rfl, hblank, hmore, hread⟩ := h
    exact reads_blank_turn hrule hblank hmore hread
  induction hfiller with
  | nil => exact ⟨[], [], rfl, List.forall_mem_nil _, hclear.blank, hclear.reads_nil hrule⟩
  | blank hc _ ih =>
    obtain ⟨blank, more, rfl, hblank, hmore, hread⟩ := ih hclear
    exact ⟨_ :: blank, more, rfl, List.forall_mem_cons.2 ⟨hc, hblank⟩, hmore, hread⟩
  | line hbody hend _ ih =>
    obtain ⟨blank, more, rfl, hblank, hmore, hread⟩ := ih hclear
    refine ⟨[], _, rfl, List.forall_mem_nil _, avoids_cons.2 (by decide), ?_⟩
    exact reads_line_turn hrule hbody hend (reads_blank_turn hrule hblank hmore hread)
  | block hfree _ ih =>
    obtain ⟨blank, more, rfl, hblank, hmore, hread⟩ := ih hclear
    refine ⟨[], _, rfl, List.forall_mem_nil _, avoids_cons.2 (by decide), ?_⟩
    exact reads_block_turn hrule hfree (reads_blank_turn hrule hblank hmore hread)

/-! ## Nothing stalls -/

theorem IsBody.steady {stop : Rule} (h : IsBody stop rule) (hstop : scope.Steady stop) :
    scope.Steady rule := by
  obtain ⟨id, step, ahead, any, rfl⟩ := h
  refine .zeroOrMore (.seq ?_) (.seq (List.mem_cons_of_mem _ List.mem_cons_self) .char)
  simp only [List.forall_mem_cons]
  exact ⟨.notAhead hstop, .primitive rfl, List.forall_mem_nil _⟩

theorem steady_lineComment (h : (lineComment opening).Makes rule) : scope.Steady rule := by
  obtain ⟨id, mark, newline, body, hbody, rfl⟩ := makes_lineComment h
  refine .seq ?_
  simp only [List.forall_mem_cons]
  exact ⟨.primitive rfl, hbody.steady (.primitive rfl), List.forall_mem_nil _⟩

theorem advances_lineComment (h : (lineComment opening).Makes rule) (hsome : opening ≠ "") :
    rule.Advances scope := by
  obtain ⟨id, mark, newline, body, hbody, rfl⟩ := makes_lineComment h
  exact .seq List.mem_cons_self (.literal hsome)

theorem steady_blockComment (h : (blockComment opening closing).Makes rule) :
    scope.Steady rule := by
  obtain ⟨id, mark, stop, body, last, hbody, rfl⟩ := makes_blockComment h
  refine .seq ?_
  simp only [List.forall_mem_cons]
  exact ⟨.primitive rfl, hbody.steady (.primitive rfl), .primitive rfl, List.forall_mem_nil _⟩

theorem advances_blockComment (h : (blockComment opening closing).Makes rule)
    (hsome : opening ≠ "") : rule.Advances scope := by
  obtain ⟨id, mark, stop, body, last, hbody, rfl⟩ := makes_blockComment h
  exact .seq List.mem_cons_self (.literal hsome)

/-- Every turn reads something, and so does every step inside a comment. -/
theorem steady_blanksAndComments (h : blanksAndComments.Makes rule) : scope.Steady rule := by
  obtain ⟨id, turn, first, char, line, block, hline, hblock, rfl⟩ := makes_blanksAndComments h
  refine .zeroOrMore (.choice ?_) (.choice ?_)
  · simp only [List.forall_mem_cons]
    exact ⟨.oneOrMore (.primitive rfl) .char, steady_lineComment hline, steady_blockComment hblock,
      List.forall_mem_nil _⟩
  · simp only [List.forall_mem_cons]
    exact ⟨.oneOrMore .char, advances_lineComment hline (by decide),
      advances_blockComment hblock (by decide), List.forall_mem_nil _⟩

/-! ## Skipping -/

/-- A parse finds blanks and comments up to where there are no more. -/
theorem finds_iff_skipsTo {p : Parser} {input : String} (h : blanksAndComments.Makes p.root)
    (halone : p.root.Alone) (hlimit : p.StaysWithin scope input) (n : Nat) :
    p.Finds scope input n ↔ SkipsTo input.toList n := by
  have hfinds {m : Nat} : SkipsTo input.toList m → p.Finds scope input m := by
    rintro ⟨skipped, rest, hinput, hfiller, hclear, rfl⟩
    exact Parser.finds_of_reads (halone.fit scope) hlimit hinput
      (reads_blanksAndComments h hfiller hclear)
  refine ⟨fun hfound => ?_, hfinds⟩
  obtain ⟨skipped, rest, hinput, hfiller, hclear⟩ := exists_filler input.toList
  have hskips : SkipsTo input.toList (utf8Length skipped) :=
    ⟨skipped, rest, hinput, hfiller, hclear, rfl⟩
  exact (hfinds hskips).unique hfound ▸ hskips

theorem not_findsNone_blanksAndComments {p : Parser} {input : String}
    (h : blanksAndComments.Makes p.root) (halone : p.root.Alone) : ¬p.FindsNone scope input := by
  intro hnone
  -- nothing is found only where no limit is met
  have hlimit : p.StaysWithin scope input := by
    obtain ⟨failure, hresult⟩ := hnone
    intro error hmet
    rw [hresult] at hmet
    cases hmet
  obtain ⟨skipped, rest, hinput, hfiller, hclear⟩ := exists_filler input.toList
  have hfound := (finds_iff_skipsTo h halone hlimit _).2
    ⟨skipped, rest, hinput, hfiller, hclear, rfl⟩
  exact hfound.not_findsNone hnone

/-- An application takes all blanks and comments, and one after it takes nothing. -/
theorem apply_blanksAndComments {setting : Setting} {root : Rule} {room : Nat} {st : ParseState}
    {cx : Context} (h : blanksAndComments.Makes rule) (hresolves : setting.scope.Resolves root)
    (hidentifies : setting.scope.Identifies root) (hrule : root.Reaches setting.scope rule)
    (hcx : cx.Reachable setting root st.input)
    (hroom : setting.limits.recursionLimit.toNat ≤ room + cx.depth) :
    ∃ matched after cx', apply setting room rule st cx = .ok (matched, after) cx' ∧
      (cx'.HasStalled → cx.HasStalled) ∧
      (cx'.fatal = none → matched = true ∧
        (∃ n, SkipsTo st.remainder n ∧ after.position = st.position + n) ∧
        ∃ matched' after' cx'', apply setting room rule after cx' = .ok (matched', after') cx'' ∧
          (cx''.fatal = none → matched' = true ∧ after' = after)) := by
  obtain ⟨matched, after, cx', happly, hexec⟩ :=
    exists_apply_eq_ok hresolves hrule hcx.memoLaid hroom
  have hflows := hexec.flows hidentifies hrule (steady_blanksAndComments h) .refl trivial trivial
    (hcx.trusted hidentifies)
  refine ⟨matched, after, cx', happly, hflows.hasStalled, fun hfatal => ?_⟩
  obtain ⟨skipped, rest, hrest, hfiller, hclear⟩ := exists_filler st.remainder
  obtain ⟨rfl, hstop, hbehind, tokens, hext, -⟩ := realized_of_reads hidentifies hrule hcx hroom
    happly hfatal hrest (reads_blanksAndComments h hfiller hclear)
  refine ⟨rfl, ⟨_, ⟨skipped, rest, hrest, hfiller, hclear, rfl⟩, hstop⟩, ?_⟩
  -- the second application begins in front of what is clear
  have hcx' : cx'.Reachable setting root after.input :=
    hext.input_eq ▸ hcx.applied hrule rfl hroom happly
  have hroom' : setting.limits.recursionLimit.toNat ≤ room + cx'.depth :=
    hexec.frame.depth_eq ▸ hroom
  obtain ⟨matched', after', cx'', happly', -⟩ :=
    exists_apply_eq_ok hresolves hrule hcx'.memoLaid hroom'
  refine ⟨matched', after', cx'', happly', fun hfatal' => ?_⟩
  have hnothing : after.remainder = [] ++ rest := hbehind
  obtain ⟨rfl, hstop', -, tokens', hext', hnone⟩ := realized_of_reads hidentifies hrule hcx' hroom'
    happly' hfatal' hnothing (hclear.reads_nil h)
  obtain rfl : tokens' = [] := by
    cases tokens' with
    | nil => rfl
    | cons => cases hnone
  exact ⟨rfl, hext'.unique (.refl _) hstop'⟩

/-- **Blanks and comments are skipped completely.** A parse for them never fails and never
stalls, and without a limit it finds the blanks and comments that the input begins with, up to
where neither begins. In any parse, an application that follows one of the same rule consumes
nothing. -/
theorem blanksAndComments_exact (start : RuleId) :
    ∃ rule stop, blanksAndComments start = .ok (rule, stop) ∧
      (∀ p : Parser, p.root = rule → ∀ (scope : Scope) (input : String),
        ¬p.FindsNone scope input ∧
        (∀ other pos, Event.stalled other pos ∉ (p.parse scope input).events) ∧
        (p.StaysWithin scope input → (∃ n, p.Finds scope input n) ∧
          ∀ n, p.Finds scope input n ↔ SkipsTo input.toList n)) ∧
      ∀ (setting : Setting) (root : Rule) (room : Nat) (st : ParseState) (cx : Context),
        setting.scope.Resolves root → setting.scope.Identifies root →
        root.Reaches setting.scope rule → cx.Reachable setting root st.input →
        setting.limits.recursionLimit.toNat ≤ room + cx.depth →
        ∃ matched after cx', apply setting room rule st cx = .ok (matched, after) cx' ∧
          (cx'.HasStalled → cx.HasStalled) ∧
          (cx'.fatal = none → matched = true ∧
            (∃ n, SkipsTo st.remainder n ∧ after.position = st.position + n) ∧
            ∃ matched' after' cx'',
              apply setting room rule after cx' = .ok (matched', after') cx'' ∧
                (cx''.fatal = none → matched' = true ∧ after' = after)) := by
  obtain ⟨rule, stop, hbuild, hmakes, halone⟩ :=
    detached_blanksAndComments.exists_alone .blanksAndComments start
  refine ⟨rule, stop, hbuild, fun p hroot scope input => ?_, ?_⟩
  · subst hroot
    refine ⟨not_findsNone_blanksAndComments hmakes halone, fun other pos => ?_, fun hlimit => ?_⟩
    · exact p.not_stalled_of_steady (halone.resolves scope) (halone.identifies scope)
        (steady_blanksAndComments hmakes) input false other pos
    · obtain ⟨skipped, rest, hinput, hfiller, hclear⟩ := exists_filler input.toList
      have hexact := finds_iff_skipsTo hmakes halone hlimit
      exact ⟨⟨_, (hexact _).2 ⟨skipped, rest, hinput, hfiller, hclear, rfl⟩⟩, hexact⟩
  · intro setting root room st cx hresolves hidentifies hrule hcx hroom
    exact apply_blanksAndComments hmakes hresolves hidentifies hrule hcx hroom

/-- A comment that is not closed stays where it is, and is not begun again. -/
theorem blanksAndComments_exact_unclosed :
    ∃ rule stop, blanksAndComments 0 = .ok (rule, stop) ∧
      (Parser.ofRule rule).Finds .empty "/**/ /*é" 5 ∧
      ∃ after cx', apply ⟨.empty, .standard⟩ 1024 rule (.start "/**/ /*é") (.start false) =
          .ok (true, after) cx' ∧ after.position = 5 ∧
        ∃ cx'', apply ⟨.empty, .standard⟩ 1024 rule after cx' = .ok (true, after) cx'' := by
  obtain ⟨rule, stop, hbuild, hparse, happlied⟩ := blanksAndComments_exact 0
  obtain ⟨_, _, hbuild', -, halone⟩ :=
    detached_blanksAndComments.exists_alone .blanksAndComments 0
  rw [hbuild] at hbuild'
  cases hbuild'
  have hlimit : (Parser.ofRule rule).StaysWithin .empty "/**/ /*é" :=
    Parser.staysWithin_of_isSome hbuild (by decide +kernel)
  have hgoing : (blanksAndComments 0).toOption.map (fun made =>
      EStateM.run' (do
        let first ← apply ⟨.empty, .standard⟩ 1024 made.1 (.start "/**/ /*é")
        let _ ← apply ⟨.empty, .standard⟩ 1024 made.1 first.2
        return (← get).fatal) (.start false)) = some (some none) := by
    decide +kernel
  rw [hbuild] at hgoing
  have hfree : FreeOf "*/".toList ['é'] [] := ⟨by decide, trivial⟩
  have hclear : Clear "/*é".toList := ⟨avoids_cons.2 (by decide), by decide,
    fun _ _ heq => hfree.ne_append (by decide)
      (@List.append_cancel_left _ "/*".toList ['é'] _ heq)⟩
  have hfiller : Filler "/**/ ".toList "/*é".toList :=
    @Filler.block [] [' '] _ trivial (.blank rfl .nil)
  have hskips : SkipsTo "/**/ /*é".toList 5 :=
    ⟨"/**/ ".toList, "/*é".toList, rfl, hfiller, hclear, rfl⟩
  obtain ⟨-, hexact⟩ := (hparse _ rfl .empty "/**/ /*é").2.2 hlimit
  obtain ⟨matched, after, cx', happly, -, hmore⟩ := happlied ⟨.empty, .standard⟩ rule 1024
    (.start "/**/ /*é") (.start false) (halone.resolves _) (halone.identifies _) .refl
    (.start false) (by decide)
  have hfatal : cx'.fatal = none := by
    rw [Parser.StaysWithin, Parser.parse, Parser.run_eq_of_apply (.ofRule rule) happly] at hlimit
    exact Parser.fatal_eq_none_of_verdict hlimit
  obtain ⟨rfl, ⟨n, hn, hstop⟩, matched', after', cx'', happly', hagain⟩ := hmore hfatal
  have hfatal' : cx''.fatal = none := by
    have hboth := Option.some.inj hgoing
    dsimp only at hboth
    delta EStateM.run' EStateM.run at hboth
    rw [Run.bind_eq_of_ok happly, Run.bind_eq_of_ok happly'] at hboth
    exact Option.some.inj hboth
  obtain ⟨rfl, rfl⟩ := hagain hfatal'
  obtain rfl : n = 5 := ((hexact n).2 hn).unique ((hexact 5).2 hskips)
  exact ⟨rule, stop, hbuild, (hexact 5).2 hskips, after', cx', happly, hstop, cx'', happly'⟩

end Lexical

end Packrat
