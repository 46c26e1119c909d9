import Mathlib.Order.Bounds.Basic
import Packrat.Proofs.Alone
import Packrat.Proofs.Leaves

/-!
# Comments

A comment is read by taking characters one by one as long as no end of it begins. So the end
that is found is the first one at all, also where it overlaps itself or the beginning of the
comment.

- `Text.OccursAt mark text n`: the mark stands in the text from byte `n` on.
  `Text.FirstFrom mark text start n`: that is the first place from `start` on.
- `Text.FreeOf mark body rest`: in front of `rest`, the mark begins nowhere in `body`. Every
  text is cut by `Text.exists_freeOf`, and `Text.FreeOf.le_of_occursAt` is the invariant of the
  search: no mark begins in what has been passed over.
- `Lexical.IsMark`, `Lexical.IsBody.reads`: rules that read a mark, and the repetition that
  stops in front of it.
- `Lexical.comments_exact`: **comments end where their first end is.**
-/

namespace Packrat

open Text (utf8Length)

/-! ## Searching -/

namespace Text

variable {mark body rest text opening : List Char} {n start : Nat}

/-- The mark stands in the text from byte `n` on. -/
def OccursAt (mark text : List Char) (n : Nat) : Prop :=
  ∃ before after, text = before ++ (mark ++ after) ∧ utf8Length before = n

/-- From byte `start` on, the mark stands in the text at byte `n` first. -/
def FirstFrom (mark text : List Char) (start n : Nat) : Prop :=
  IsLeast {k | start ≤ k ∧ OccursAt mark text k} n

/-- In front of `rest`, the mark begins nowhere in `body`. -/
def FreeOf (mark : List Char) : List Char → List Char → Prop
  | [], _ => True
  | c :: body, rest => ¬mark <+: c :: (body ++ rest) ∧ FreeOf mark body rest

/-- Every text is cut where the mark begins first, or at its end. -/
theorem exists_freeOf (mark : List Char) : ∀ text : List Char,
    ∃ body rest, text = body ++ rest ∧ FreeOf mark body rest ∧ (rest = [] ∨ mark <+: rest)
  | [] => ⟨[], [], rfl, trivial, .inl rfl⟩
  | c :: text => by
    by_cases hmark : mark <+: c :: text
    · exact ⟨[], c :: text, rfl, trivial, .inr hmark⟩
    · obtain ⟨body, rest, rfl, hfree, hend⟩ := exists_freeOf mark text
      exact ⟨c :: body, rest, rfl, ⟨hmark, hfree⟩, hend⟩

/-- **No mark begins in what is free of it.** -/
theorem FreeOf.le_of_occursAt (hfree : FreeOf mark body rest) (h : OccursAt mark (body ++ rest) n) :
    utf8Length body ≤ n := by
  obtain ⟨before, after, htext, rfl⟩ := h
  induction body generalizing before with
  | nil => exact Nat.zero_le _
  | cons c body ih =>
    obtain ⟨hfirst, hmore⟩ := hfree
    cases before with
    | nil => exact absurd ⟨after, htext.symm⟩ hfirst
    | cons c' before =>
      obtain ⟨rfl, hbehind⟩ := List.cons.inj htext
      have hle := ih hmore before hbehind
      simp only [utf8Length_cons]
      omega

/-- A mark that begins behind the opening begins behind what is free of it. -/
theorem FreeOf.le_of_occursAt_append (hfree : FreeOf mark body rest)
    (h : OccursAt mark (opening ++ (body ++ rest)) n) (hle : utf8Length opening ≤ n) :
    utf8Length opening + utf8Length body ≤ n := by
  obtain ⟨before, after, htext, rfl⟩ := h
  obtain ⟨gap, rfl, hgap⟩ := exists_append_of_le htext hle
  have hbody := hfree.le_of_occursAt ⟨gap, after, hgap, rfl⟩
  rw [utf8Length_append]
  omega

/-- **What is free of the mark ends where the mark is first.** -/
theorem FreeOf.firstFrom (hfree : FreeOf mark body rest) (hmark : mark <+: rest) :
    FirstFrom mark (opening ++ (body ++ rest)) (utf8Length opening)
      (utf8Length opening + utf8Length body) := by
  obtain ⟨after, rfl⟩ := hmark
  refine ⟨⟨Nat.le_add_right _ _, opening ++ body, after, by simp, utf8Length_append _ _⟩, ?_⟩
  rintro k ⟨hle, hoccurs⟩
  exact hfree.le_of_occursAt_append hoccurs hle

/-- Where all of the text behind the opening is free of the mark, it does not occur there. -/
theorem FreeOf.not_occursAt (hsome : mark ≠ []) (hfree : FreeOf mark body [])
    (hle : utf8Length opening ≤ n) : ¬OccursAt mark (opening ++ body) n := by
  intro hoccurs
  have hbody := hfree.le_of_occursAt_append (by rwa [List.append_nil]) hle
  obtain ⟨before, after, htext, rfl⟩ := hoccurs
  -- the mark would have to fit behind the end
  have hlen := congrArg utf8Length htext
  simp only [utf8Length_append] at hlen
  exact hsome (utf8Length_eq_zero.1 (by omega))

theorem FirstFrom.unique {n m : Nat} (h : FirstFrom mark text start n)
    (h' : FirstFrom mark text start m) : n = m := IsLeast.unique h h'

end Text

/-! ## Rules for comments -/

namespace Builder.Keeps

open Lexical

variable {needs : List Rule}

theorem lineComment (opening : String) : Keeps needs (lineComment opening) ([·]) :=
  (of (.literal _) (List.nil_subset _)).bind fun _ => (of (.ch _) (List.nil_subset _)).bind fun _ =>
    (of (.notAhead _) (by simp)).bind fun _ => (of .any (List.nil_subset _)).bind fun _ =>
    (of (.seq _) (by simp)).bind fun _ => (of (.zeroOrMore _) (by simp)).bind fun _ =>
    of (.seq _) (by simp)

theorem blockComment (opening closing : String) :
    Keeps needs (blockComment opening closing) ([·]) :=
  (of (.literal _) (List.nil_subset _)).bind fun _ =>
    (of (.literal _) (List.nil_subset _)).bind fun _ =>
    (of (.notAhead _) (by simp)).bind fun _ => (of .any (List.nil_subset _)).bind fun _ =>
    (of (.seq _) (by simp)).bind fun _ => (of (.zeroOrMore _) (by simp)).bind fun _ =>
    (of (.literal _) (List.nil_subset _)).bind fun _ => of (.seq _) (by simp)

end Builder.Keeps

namespace Lexical

open Builder Text

variable {scope : Scope} {rule stop : Rule} {mark body rest text : List Char} {id : RuleId}
  {opening closing : String} {c : Char}

theorem detached_lineComment (h : opening ≠ "") : Detached (lineComment opening) :=
  (Detached.literal h).bind fun _ h₁ => (Detached.ch _).bind fun _ h₂ =>
    (Detached.notAhead h₂).bind fun _ h₃ => Detached.any.bind fun _ h₄ =>
    (Detached.seq (by simp [h₃, h₄])).bind fun _ h₅ => (Detached.zeroOrMore h₅).bind fun _ h₆ =>
    .seq (by simp [h₁, h₆])

theorem detached_blockComment (h : opening ≠ "") (h' : closing ≠ "") :
    Detached (blockComment opening closing) :=
  (Detached.literal h).bind fun _ h₁ => (Detached.literal h').bind fun _ h₂ =>
    (Detached.notAhead h₂).bind fun _ h₃ => Detached.any.bind fun _ h₄ =>
    (Detached.seq (by simp [h₃, h₄])).bind fun _ h₅ => (Detached.zeroOrMore h₅).bind fun _ h₆ =>
    (Detached.literal h').bind fun _ h₇ => .seq (by simp [h₁, h₆, h₇])

/-- The rule reads the mark and nothing else. -/
structure IsMark (mark : List Char) (rule : Rule) : Prop where
  ne_nil : mark ≠ []
  reads : ∀ {scope rest}, Reads scope rule mark rest []
  refuses : ∀ {scope rest}, ¬mark <+: rest → Refuses scope rule rest

theorem isMark_literal (h : opening ≠ "") : IsMark opening.toList (.literal id opening) where
  ne_nil := by simpa using h
  reads := .literal opening
  refuses := .literal

theorem isMark_single : IsMark [c] (.char id (.single c)) where
  ne_nil := List.cons_ne_nil _ _
  reads := .char (beq_self_eq_true c)
  refuses := fun {_ rest} h => by
    refine .char fun c' hc' => beq_false_of_ne fun heq => h ?_
    subst heq
    obtain ⟨more, rfl⟩ := List.head?_eq_some_iff.1 hc'
    exact ⟨more, rfl⟩

theorem IsMark.refuses_nil (h : IsMark mark rule) : Refuses scope rule [] :=
  h.refuses fun hnil => h.ne_nil (List.prefix_nil.1 hnil)

/-- The rule takes characters as long as the mark is not ahead. -/
def IsBody (stop rule : Rule) : Prop :=
  ∃ id step ahead any,
    rule = .zeroOrMore id (.seq step [.notAhead ahead stop, .char any .any])

/-- **Characters are read up to the mark, or to the end.** -/
theorem IsBody.reads (h : IsBody stop rule) (hmark : IsMark mark stop)
    (hfree : FreeOf mark body rest) (hend : rest = [] ∨ mark <+: rest) :
    Reads scope rule body rest [] := by
  obtain ⟨id, step, ahead, any, rfl⟩ := h
  induction body with
  | nil =>
    refine .zeroOrMore_ended ?_
    rcases hend with rfl | ⟨after, rfl⟩
    · -- at the end there is no mark, but no character either
      exact .seq_next (.notAhead hmark.refuses_nil) (.seq_failed (.char (avoids_nil _)))
    · exact .seq_failed (.notAhead hmark.reads)
  | cons c body ih =>
    obtain ⟨hfirst, hmore⟩ := hfree
    have hahead : Reads scope (.notAhead ahead stop) [] ([c] ++ (body ++ rest)) [] :=
      .notAhead (hmark.refuses hfirst)
    have hchar : Reads scope (.char any .any) [c] (body ++ rest) [] := .char rfl
    exact (hahead.seq_cons hchar.seq_singleton).zeroOrMore_next (ih hmore)

theorem makes_body {next : Rule → Builder Rule}
    (h : (notAhead stop >>= fun ahead => any >>= fun any => seq [ahead, any] >>= fun step =>
      zeroOrMore step >>= next).Makes rule) :
    ∃ body, IsBody stop body ∧ (next body).Makes rule := by
  obtain ⟨check, hcheck, h⟩ := h.bind
  obtain ⟨ahead, rfl⟩ := makes_notAhead hcheck
  obtain ⟨character, hcharacter, h⟩ := h.bind
  obtain ⟨any, rfl⟩ := makes_any hcharacter
  obtain ⟨both, hboth, h⟩ := h.bind
  obtain ⟨step, rfl⟩ := makes_seq hboth
  obtain ⟨body, hbody, h⟩ := h.bind
  obtain ⟨id, rfl⟩ := makes_zeroOrMore hbody
  exact ⟨_, ⟨id, step, ahead, any, rfl⟩, h⟩

theorem makes_lineComment (h : (lineComment opening).Makes rule) :
    ∃ id mark newline body, IsBody (.char newline (.single '\n')) body ∧
      rule = .seq id [.literal mark opening, body] := by
  obtain ⟨first, hfirst, h⟩ := h.bind
  obtain ⟨mark, rfl⟩ := makes_literal hfirst
  obtain ⟨stop, hstop, h⟩ := h.bind
  obtain ⟨newline, rfl⟩ := makes_ch hstop
  obtain ⟨body, hbody, h⟩ := makes_body h
  obtain ⟨id, rfl⟩ := makes_seq h
  exact ⟨id, mark, newline, body, hbody, rfl⟩

theorem makes_blockComment (h : (blockComment opening closing).Makes rule) :
    ∃ id mark stop body last, IsBody (.literal stop closing) body ∧
      rule = .seq id [.literal mark opening, body, .literal last closing] := by
  obtain ⟨first, hfirst, h⟩ := h.bind
  obtain ⟨mark, rfl⟩ := makes_literal hfirst
  obtain ⟨close, hclose, h⟩ := h.bind
  obtain ⟨stop, rfl⟩ := makes_literal hclose
  obtain ⟨body, hbody, h⟩ := makes_body h
  obtain ⟨close', hclose', h⟩ := h.bind
  obtain ⟨last, rfl⟩ := makes_literal hclose'
  obtain ⟨id, rfl⟩ := makes_seq h
  exact ⟨id, mark, stop, body, last, hbody, rfl⟩

theorem reads_lineComment (h : (lineComment opening).Makes rule) (hfree : FreeOf ['\n'] body rest)
    (hend : rest = [] ∨ ['\n'] <+: rest) :
    Reads scope rule (opening.toList ++ body) rest [] := by
  obtain ⟨id, mark, newline, inside, hinside, rfl⟩ := makes_lineComment h
  have hopening : Reads scope (.literal mark opening) opening.toList (body ++ rest) [] :=
    .literal opening
  exact hopening.seq_cons (hinside.reads isMark_single hfree hend).seq_singleton

theorem refuses_lineComment (h : (lineComment opening).Makes rule)
    (hrest : ¬opening.toList <+: rest) : Refuses scope rule rest := by
  obtain ⟨id, mark, newline, inside, -, rfl⟩ := makes_lineComment h
  exact .seq_failed (.literal hrest)

theorem reads_blockComment (h : (blockComment opening closing).Makes rule) (hsome : closing ≠ "")
    (hfree : FreeOf closing.toList body (closing.toList ++ rest)) :
    Reads scope rule (opening.toList ++ (body ++ closing.toList)) rest [] := by
  obtain ⟨id, mark, stop, inside, last, hinside, rfl⟩ := makes_blockComment h
  have hopening : Reads scope (.literal mark opening) opening.toList
      (body ++ closing.toList ++ rest) [] := .literal opening
  have hbody : Reads scope inside body (closing.toList ++ rest) [] :=
    hinside.reads (isMark_literal hsome) hfree (.inr (List.prefix_append _ _))
  have hclosing : Reads scope (.literal last closing) closing.toList rest [] := .literal closing
  exact hopening.seq_cons (hbody.seq_cons hclosing.seq_singleton)

theorem refuses_blockComment (h : (blockComment opening closing).Makes rule)
    (hrest : ¬opening.toList <+: rest) : Refuses scope rule rest := by
  obtain ⟨id, mark, stop, inside, last, -, rfl⟩ := makes_blockComment h
  exact .seq_failed (.literal hrest)

/-- Without an end the comment is refused as a whole, however much of it has been read. -/
theorem refuses_blockComment_unclosed (h : (blockComment opening closing).Makes rule)
    (hsome : closing ≠ "") (hfree : FreeOf closing.toList body []) :
    Refuses scope rule (opening.toList ++ body) := by
  obtain ⟨id, mark, stop, inside, last, hinside, rfl⟩ := makes_blockComment h
  have hbody : Reads scope inside body [] [] :=
    hinside.reads (isMark_literal hsome) hfree (.inl rfl)
  have hlast : Refuses scope (.literal last closing) [] := (isMark_literal hsome).refuses_nil
  have hmore : Refuses scope (.seq id [inside, .literal last closing]) (body ++ []) :=
    .seq_next hbody (.seq_failed hlast)
  rw [List.append_nil] at hmore
  exact .seq_next (.literal opening) hmore

/-! ## Where comments end -/

/-- The line that byte `start` of the text is on ends at byte `n`: in front of its newline, or
with the text. -/
def LineEnds (text : List Char) (start n : Nat) : Prop :=
  FirstFrom ['\n'] text start n ∨
    (∀ k, start ≤ k → ¬OccursAt ['\n'] text k) ∧ n = utf8Length text

theorem LineEnds.unique {start n m : Nat} (h : LineEnds text start n) (h' : LineEnds text start m) :
    n = m := by
  rcases h with h | ⟨hnone, rfl⟩
  · rcases h' with h' | ⟨hnone', rfl⟩
    · exact h.unique h'
    · exact absurd h.1.2 (hnone' n h.1.1)
  · rcases h' with h' | ⟨-, rfl⟩
    · exact absurd h'.1.2 (hnone m h'.1.1)
    · rfl

/-- **A line comment goes up to the end of its line.** There is one wherever it begins. -/
theorem decides_lineComment {p : Parser} {input : String} (h : (lineComment opening).Makes p.root)
    (hfit : p.root.Fit scope) (hlimit : p.StaysWithin scope input) :
    (p.Decides scope input fun n => opening.toList <+: input.toList ∧
      LineEnds input.toList opening.utf8ByteSize n) ∧
    (p.FindsNone scope input ↔ ¬opening.toList <+: input.toList) := by
  by_cases hopening : opening.toList <+: input.toList
  · obtain ⟨behind, hinput⟩ := hopening
    obtain ⟨body, rest, rfl, hfree, hend⟩ := exists_freeOf ['\n'] behind
    rw [← List.append_assoc] at hinput
    have hfound := Parser.finds_of_reads hfit hlimit hinput.symm (reads_lineComment h hfree hend)
    have hline : LineEnds input.toList opening.utf8ByteSize
        (utf8Length (opening.toList ++ body)) := by
      rw [← hinput, ← utf8Length_toList, List.append_assoc, utf8Length_append]
      rcases hend with rfl | hnewline
      · rw [List.append_nil]
        exact .inr ⟨fun k hle => hfree.not_occursAt (List.cons_ne_nil _ _) hle,
          (utf8Length_append _ _).symm⟩
      · exact .inl (hfree.firstFrom hnewline)
    have hbegins : opening.toList <+: input.toList := ⟨body ++ rest, by simp [← hinput]⟩
    refine ⟨hfound.decides ⟨hbegins, hline⟩ ?_, ?_, ?_⟩
    · rintro m ⟨-, hm⟩
      exact hm.unique hline
    · exact fun hnone => absurd hnone hfound.not_findsNone
    · exact fun hnot => absurd hbegins hnot
  · have hnone := Parser.findsNone_of_refuses hfit hlimit (refuses_lineComment h hopening)
    refine ⟨hnone.decides ?_, fun _ => hopening, fun _ => hnone⟩
    rintro m ⟨hm, -⟩
    exact hopening hm

/-- **A block comment goes up to its first end**, and there is none where that is missing. -/
theorem decides_blockComment {p : Parser} {input : String}
    (h : (blockComment opening closing).Makes p.root) (hsome : closing ≠ "")
    (hfit : p.root.Fit scope) (hlimit : p.StaysWithin scope input) :
    (p.Decides scope input fun n => opening.toList <+: input.toList ∧
      ∃ k, FirstFrom closing.toList input.toList opening.utf8ByteSize k ∧
        n = k + closing.utf8ByteSize) ∧
    (p.FindsNone scope input ↔ ¬(opening.toList <+: input.toList ∧
      ∃ k, opening.utf8ByteSize ≤ k ∧ OccursAt closing.toList input.toList k)) := by
  by_cases hopening : opening.toList <+: input.toList
  · obtain ⟨behind, hinput⟩ := hopening
    obtain ⟨body, rest, rfl, hfree, hend⟩ := exists_freeOf closing.toList behind
    rcases hend with rfl | hclosing
    · -- all the rest of the input has been passed over
      rw [List.append_nil] at hinput
      have hnone := Parser.findsNone_of_refuses hfit hlimit
        (hinput ▸ refuses_blockComment_unclosed h hsome hfree)
      have hmissing : ∀ k, opening.utf8ByteSize ≤ k → ¬OccursAt closing.toList input.toList k := by
        intro k hle
        rw [← utf8Length_toList] at hle
        rw [← hinput]
        exact hfree.not_occursAt (by simpa using hsome) hle
      refine ⟨hnone.decides ?_, ?_, fun _ => hnone⟩
      · rintro m ⟨-, k, hfirst, -⟩
        exact hmissing k hfirst.1.1 hfirst.1.2
      · rintro - ⟨-, k, hle, hoccurs⟩
        exact hmissing k hle hoccurs
    · have hfirst : FirstFrom closing.toList input.toList opening.utf8ByteSize
          (utf8Length opening.toList + utf8Length body) := by
        rw [← hinput, ← utf8Length_toList]
        exact hfree.firstFrom hclosing
      obtain ⟨after, rfl⟩ := hclosing
      have hcut : input.toList = opening.toList ++ (body ++ closing.toList) ++ after := by
        rw [← hinput]
        simp
      have hfound := Parser.finds_of_reads hfit hlimit hcut (reads_blockComment h hsome hfree)
      have hlen : utf8Length (opening.toList ++ (body ++ closing.toList)) =
          utf8Length opening.toList + utf8Length body + closing.utf8ByteSize := by
        rw [utf8Length_append, utf8Length_append, utf8Length_toList closing, Nat.add_assoc]
      have hbegins : opening.toList <+: input.toList := ⟨_, hinput⟩
      refine ⟨hfound.decides ⟨hbegins, _, hfirst, hlen⟩ ?_, ?_, ?_⟩
      · rintro m ⟨-, k, hk, rfl⟩
        rw [hlen, hk.unique hfirst]
      · exact fun hnone => absurd hnone hfound.not_findsNone
      · exact fun hmissing => absurd ⟨hbegins, _, hfirst.1⟩ hmissing
  · have hnone := Parser.findsNone_of_refuses hfit hlimit (refuses_blockComment h hopening)
    refine ⟨hnone.decides ?_, fun _ hclosed => hopening hclosed.1, fun _ => hnone⟩
    rintro m ⟨hm, -⟩
    exact hopening hm

/-- **Comments end where their first end is.** A parse of a block comment finds what the input
begins with up to the first closing text that begins behind the opening one, overlap or not,
and nothing if there is none. A parse of a line comment finds what the input begins with up to
the first newline behind the opening text, or all of the input; it finds nothing only if the
input does not begin with the opening text. -/
theorem comments_exact (start : RuleId) :
    (∀ opening closing : String, opening ≠ "" → closing ≠ "" →
      ∃ rule stop, blockComment opening closing start = .ok (rule, stop) ∧
        ∀ p : Parser, p.root = rule → ∀ (scope : Scope) (input : String),
          p.StaysWithin scope input →
            (p.Decides scope input fun n => opening.toList <+: input.toList ∧
              ∃ k, FirstFrom closing.toList input.toList opening.utf8ByteSize k ∧
                n = k + closing.utf8ByteSize) ∧
            (p.FindsNone scope input ↔ ¬(opening.toList <+: input.toList ∧
              ∃ k, opening.utf8ByteSize ≤ k ∧ OccursAt closing.toList input.toList k))) ∧
    ∀ opening : String, opening ≠ "" →
      ∃ rule stop, lineComment opening start = .ok (rule, stop) ∧
        ∀ p : Parser, p.root = rule → ∀ (scope : Scope) (input : String),
          p.StaysWithin scope input →
            (p.Decides scope input fun n => opening.toList <+: input.toList ∧
              LineEnds input.toList opening.utf8ByteSize n) ∧
            (p.FindsNone scope input ↔ ¬opening.toList <+: input.toList) := by
  constructor
  · intro opening closing hopening hclosing
    obtain ⟨rule, stop, hbuild, hmakes, halone⟩ :=
      (detached_blockComment hopening hclosing).exists_alone (.blockComment opening closing) start
    refine ⟨rule, stop, hbuild, fun p hroot scope input hlimit => ?_⟩
    subst hroot
    exact decides_blockComment hmakes hclosing (halone.fit scope) hlimit
  · intro opening hopening
    obtain ⟨rule, stop, hbuild, hmakes, halone⟩ :=
      (detached_lineComment hopening).exists_alone (.lineComment opening) start
    refine ⟨rule, stop, hbuild, fun p hroot scope input hlimit => ?_⟩
    subst hroot
    exact decides_lineComment hmakes (halone.fit scope) hlimit

/-- The end of a comment does not overlap its opening, and text need not be ASCII. -/
theorem comments_exact_overlap :
    ∃ rule stop rule' stop', blockComment "/*" "*/" 0 = .ok (rule, stop) ∧
      (Parser.ofRule rule).Finds .empty "/*/é*/*/" 7 ∧ lineComment "//" 0 = .ok (rule', stop') ∧
      (Parser.ofRule rule').Finds .empty "//é" 4 := by
  obtain ⟨hblock, hline⟩ := comments_exact 0
  obtain ⟨rule, stop, hbuild, hexact⟩ := hblock "/*" "*/" (by decide) (by decide)
  obtain ⟨rule', stop', hbuild', hexact'⟩ := hline "//" (by decide)
  have hlimit : (Parser.ofRule rule).StaysWithin .empty "/*/é*/*/" :=
    Parser.staysWithin_of_isSome hbuild (by decide +kernel)
  have hlimit' : (Parser.ofRule rule').StaysWithin .empty "//é" :=
    Parser.staysWithin_of_isSome hbuild' (by decide +kernel)
  have hfree : FreeOf ['*', '/'] ['/', 'é'] ['*', '/', '*', '/'] := ⟨by decide, by decide, trivial⟩
  have hfirst : FirstFrom ['*', '/'] ("/*".toList ++ (['/', 'é'] ++ ['*', '/', '*', '/'])) 2 5 :=
    hfree.firstFrom ⟨['*', '/'], rfl⟩
  have hfree' : FreeOf ['\n'] ['é'] [] := ⟨by decide, trivial⟩
  have hnone : ∀ k, 2 ≤ k → ¬OccursAt ['\n'] ("//".toList ++ ['é']) k :=
    fun k hle => hfree'.not_occursAt (List.cons_ne_nil _ _) hle
  have hends : LineEnds "//é".toList 2 4 := .inr ⟨hnone, by decide⟩
  exact ⟨rule, stop, rule', stop', hbuild,
    ((hexact _ rfl _ _ hlimit).1.1 7).2 ⟨by decide, 5, hfirst, by decide⟩, hbuild',
    ((hexact' _ rfl _ _ hlimit').1.1 4).2 ⟨by decide, hends⟩⟩

end Lexical

end Packrat
