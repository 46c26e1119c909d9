import Packrat.Proofs.Correctness
import Packrat.Proofs.Reading
import Packrat.Proofs.Verdict

/-!
# Runs and what they read

What the reading of rules says about runs, up to limits.

- `realized_of_reads`: where a rule reads what lies ahead, applying it does just this.
- `Tree.root`: the tree over all of a text.
- `Parser.run_of_reads`: where the root rule reads the whole input, a run finds a token
  with the trees that the rule gives.
- `Parser.run_generates`: what a run finds to match, the root rule generates.
- `Parser.run_decides`: where the root rule reads a language, and generates nothing else,
  a run decides it.
-/

namespace Packrat

open Text (utf8Length)

/-- The tree over a text: the only tree, if it covers the text, or else one of the
given name over all of them. -/
def Tree.root (name text : String) : List Tree → Tree
  | [.mk only covered children] =>
    if covered = text then .mk only covered children
    else .mk name text [.mk only covered children]
  | trees => .mk name text trees

namespace Token

variable {source : String} {t : Token}

/-- A sound token covers a part of its source. -/
theorem Sound.exists_splits (h : t.Sound source) :
    ∃ before rest, source.toList = before ++ (t.text.toList ++ rest) ∧
      utf8Length before = t.start ∧ t.start + utf8Length t.text.toList = t.stop := by
  obtain ⟨name, _, ⟨start, stop⟩, children⟩ := t
  obtain ⟨rfl, hle, hstart, hstop, -⟩ := h
  obtain ⟨ahead, hahead⟩ := Text.isBoundary_iff_dropBytes?.1 hstart
  obtain ⟨after, hafter⟩ := Text.isBoundary_iff_dropBytes?.1 hstop
  obtain ⟨part, rfl, hpart⟩ :=
    Text.dropBytes?_eq_some_iff.1 (Text.exists_dropBytes?_sub hle hahead hafter)
  obtain ⟨before, hsource, hbefore⟩ := Text.dropBytes?_eq_some_iff.1 hahead
  rename_i source
  have hsplit : source = String.ofList before ++ String.ofList part ++ String.ofList after := by
    rw [← String.ofList_append, ← String.ofList_append, List.append_assoc, ← hsource,
      String.ofList_toList]
  have hslice : Text.slice? start stop source = some (String.ofList part) := by
    refine Text.slice?_eq_some_iff.2 ⟨_, _, hsplit, ?_, ?_⟩
    · rw [← Text.utf8Length_toList, String.toList_ofList, hbefore]
    · rw [← Text.utf8Length_toList, String.toList_ofList, hpart, Nat.add_sub_of_le hle]
  have htext : text ⟨name, source, ⟨start, stop⟩, children⟩ = String.ofList part := by
    show (Text.slice? start stop source).getD "" = _
    rw [hslice]
    rfl
  rw [htext, String.toList_ofList]
  exact ⟨before, after, hsource, hbefore, by rw [hpart]; exact Nat.add_sub_of_le hle⟩

/-- A sound token spans all of its source if its text is all of it. -/
theorem Sound.span_eq_iff (h : t.Sound source) :
    t.span = ⟨0, source.utf8ByteSize⟩ ↔ t.text = source := by
  obtain ⟨before, after, hsource, hstart, hstop⟩ := h.exists_splits
  have hlen : source.utf8ByteSize = t.start + utf8Length t.text.toList + utf8Length after := by
    rw [← Text.utf8Length_toList, hsource, Text.utf8Length_append, Text.utf8Length_append, hstart,
      Nat.add_assoc]
  constructor
  · intro hspan
    have hzero : t.start = 0 := congrArg Span.start hspan
    have hend : t.stop = source.utf8ByteSize := congrArg Span.stop hspan
    have hbefore : before = [] := Text.utf8Length_eq_zero.1 (by omega)
    have hafter : after = [] := Text.utf8Length_eq_zero.1 (by omega)
    rw [hbefore, hafter, List.nil_append, List.append_nil] at hsource
    exact String.toList_injective hsource.symm
  · intro htext
    rw [htext, Text.utf8Length_toList] at hlen hstop
    have hspan : t.span = ⟨t.start, t.stop⟩ := rfl
    rw [hspan, Span.mk.injEq]
    omega

theorem tree_eq (t : Token) : t.tree = .mk t.name t.text (trees t.children) := by
  cases t
  rfl

end Token

/-- Where the rule reads what lies ahead, an application that is not abandoned takes it. -/
theorem realized_of_reads {setting : Setting} {root rule : Rule} {st after : ParseState}
    {cx cx' : Context} {matched : Bool} {room : Nat} {read rest : List Char} {trees : List Tree}
    (hidentifies : setting.scope.Identifies root) (hrule : root.Reaches setting.scope rule)
    (hcx : cx.Reachable setting root st.input)
    (hroom : setting.limits.recursionLimit.toNat ≤ room + cx.depth)
    (happly : apply setting room rule st cx = .ok (matched, after) cx') (hfatal : cx'.fatal = none)
    (hrest : st.remainder = read ++ rest) (hreads : Reads setting.scope rule read rest trees) :
    matched = true ∧ after.position = st.position + utf8Length read ∧ after.remainder = rest ∧
      ∃ tokens, st.Extends tokens after ∧ Token.trees tokens = trees := by
  obtain ⟨before, hinput, hbefore⟩ := Text.dropBytes?_eq_some_iff.1 st.splits
  obtain ⟨tokens, hderives, htrees⟩ := hreads before
  rw [← hrest, ← hinput, String.ofList_toList, hbefore] at hderives
  obtain ⟨wants', heval'⟩ := hderives.evaluates
  obtain ⟨outcome, wants, heval, hreal⟩ :=
    exists_evaluates hidentifies hrule hcx hroom happly hfatal
  have hsame : some (st.position + utf8Length read, tokens) = outcome :=
    ((heval'.mono False.elim).det heval).1
  subst hsame
  obtain ⟨rfl, hstop, hext⟩ := hreal.of_some
  have hdrop : Text.dropBytes? (utf8Length read) st.remainder = some rest := by
    rw [hrest, Text.dropBytes?_append]
  have hbehind := Text.dropBytes?_add st.splits hdrop
  rw [← hstop, ← hext.input_eq, after.splits] at hbehind
  exact ⟨rfl, hstop, Option.some.inj hbehind, tokens, hext, htrees⟩

namespace Parser

variable {scope : Scope} {input : String} {st : ParseState} {tokens : List Token}
  {trees : List Tree}

/-- The root token of a match of all input has the tree over it. -/
theorem exists_rootToken_tree (scope : Scope) (root : Rule)
    (hext : (ParseState.start input).Extends tokens st) (hend : st.position = input.utf8ByteSize) :
    ∃ token, rootToken scope root st = .ok token ∧
      token.tree = Tree.root ((scope.name root.id).getD unnamedRoot) input (Token.trees tokens) := by
  have hinput : st.input = input := hext.input_eq
  have hlog : st.emitted.toList = tokens := hext.toList_eq rfl
  have hordered : Token.Ordered input 0 tokens st.position := hext.ordered
  have hspan : Span.make 0 st.position = .ok ⟨0, st.position⟩ :=
    Span.make_eq_ok_iff.2 ⟨Nat.zero_le _, rfl⟩
  obtain ⟨hmake, hsound⟩ := hordered.make_eq_ok ((scope.name root.id).getD unnamedRoot)
    (Text.isBoundary_zero input) (hinput ▸ st.isBoundary_position)
  have htext := hsound.span_eq_iff.1 (by rw [hend])
  have hwrapped : Token.tree ⟨(scope.name root.id).getD unnamedRoot, input, ⟨0, st.position⟩, tokens⟩ =
      .mk ((scope.name root.id).getD unnamedRoot) input (Token.trees tokens) := by
    rw [Token.tree_eq, htext]
  unfold rootToken
  rw [hspan, hlog, hinput]
  simp only [bind, Except.bind, pure, Except.pure, hmake]
  split
  · rename_i only
    have honly : only.span = ⟨0, st.position⟩ ↔ only.text = input := by
      rw [hend]
      exact hordered.2.1.span_eq_iff
    rw [Token.trees_cons, Token.trees_nil, only.tree_eq, Tree.root]
    split
    · rename_i hcovers
      refine ⟨only, rfl, ?_⟩
      rw [if_pos (honly.1 hcovers), only.tree_eq]
    · rename_i hcovers
      refine ⟨_, rfl, ?_⟩
      rw [if_neg (mt honly.2 hcovers), hwrapped, Token.trees_cons, Token.trees_nil, only.tree_eq]
  · rename_i hmany
    refine ⟨_, rfl, hwrapped.trans ?_⟩
    cases tokens with
    | nil => rfl
    | cons first rest =>
      cases rest with
      | nil => exact absurd rfl (hmany first)
      | cons => rw [Token.trees_cons, Token.trees_cons, first.tree_eq]; rfl

/-- **Where the root rule reads all of the input, a run finds its tokens**, or meets a
limit. -/
theorem run_of_reads (p : Parser) (hresolves : scope.Resolves p.root)
    (hidentifies : scope.Identifies p.root) (hreads : Reads scope p.root input.toList [] trees)
    (complete : Bool) :
    (∃ error, (p.run scope input complete).result = .ok (.error (.limit error))) ∨
      ∃ token, (p.run scope input complete).result = .ok (.ok token) ∧
        token.tree = Tree.root ((scope.name p.root.id).getD unnamedRoot) input trees := by
  obtain ⟨matched, st, cx, happly, -⟩ := p.exists_run hresolves input
  rw [p.run_eq_of_apply happly]
  cases hfatal : cx.fatal with
  | some error => exact .inl ⟨error, verdict_limit hfatal⟩
  | none =>
    have hrest : (ParseState.start input).remainder = input.toList ++ [] :=
      (List.append_nil _).symm
    obtain ⟨rfl, hstop, -, tokens, hext, rfl⟩ := realized_of_reads hidentifies .refl
      (.start p.memoize) (Nat.le_add_right _ _) happly hfatal hrest hreads
    rw [Text.utf8Length_toList] at hstop
    have hstop : st.position = input.utf8ByteSize := hstop.trans (Nat.zero_add _)
    obtain ⟨token, htoken, htree⟩ := exists_rootToken_tree scope p.root hext hstop
    refine .inr ⟨token, ?_, htree⟩
    have hatEnd : st.isAtEnd = true := by
      rw [ParseState.isAtEnd, hext.input_eq]
      exact beq_iff_eq.2 hstop
    unfold verdict
    rw [hfatal]
    simp [hatEnd, htoken, Except.map]

/-- **What a run finds to match, the root rule generates**: if a run succeeds, or input
remains. -/
theorem run_generates (p : Parser) (hresolves : scope.Resolves p.root)
    (hidentifies : scope.Identifies p.root) (input : String) (complete : Bool) :
    (∃ error, (p.run scope input complete).result = .ok (.error (.limit error))) ∨
      (∃ failure, (p.run scope input complete).result = .ok (.error (.noMatch failure))) ∨
      ∃ read rest, input.toList = read ++ rest ∧ Generates scope p.root read rest ∧
        ((∃ token, (p.run scope input complete).result = .ok (.ok token)) ∨
          rest ≠ [] ∧ ∃ consumed failure,
            (p.run scope input complete).result = .ok (.error (.incomplete consumed failure))) := by
  obtain ⟨matched, st, cx, happly, hexec⟩ := p.exists_run hresolves input
  rw [p.run_eq_of_apply happly]
  cases hfatal : cx.fatal with
  | some error => exact .inl ⟨error, verdict_limit hfatal⟩
  | none =>
    refine .inr ?_
    obtain ⟨outcome, wants, heval, hreal⟩ := exists_evaluates hidentifies .refl (.start p.memoize)
      (Nat.le_add_right _ _) happly hfatal
    cases matched with
    | false =>
      refine .inl ⟨cx.failure, ?_⟩
      unfold verdict
      rw [hfatal]
      rfl
    | true =>
      obtain ⟨tokens, rfl, hext⟩ := hreal.exists_extends
      obtain ⟨read, rest, hinput, hstop, hgenerates⟩ :=
        heval.covers rfl [] input.toList rfl rfl
      refine .inr ⟨read, rest, hinput, hgenerates, ?_⟩
      by_cases hend : (complete && !st.isAtEnd) = true
      · refine .inr ⟨?_, st.position, (cx.expect st.position "end of input").failure, ?_⟩
        · -- without a rest the cursor would be at the end
          rintro rfl
          rw [List.append_nil] at hinput
          have hposition : st.position = utf8Length read := hstop.trans (Nat.zero_add _)
          have hatEnd : st.isAtEnd = true := by
            rw [ParseState.isAtEnd, hext.input_eq, hposition, ← hinput]
            exact beq_iff_eq.2 (Text.utf8Length_toList input)
          rw [hatEnd, Bool.not_true, Bool.and_false] at hend
          cases hend
        · unfold verdict
          rw [hfatal]
          simp [hend]
      · obtain ⟨token, htoken, -⟩ := exists_rootToken scope p.root hext
        refine .inl ⟨token, ?_⟩
        unfold verdict
        rw [hfatal]
        simp [hend, htoken, Except.map]

/-- What a run found a token for begins with a text that the root rule generates. -/
theorem generates_of_run {token : Token} {complete : Bool} (p : Parser)
    (hresolves : scope.Resolves p.root) (hidentifies : scope.Identifies p.root)
    (hrun : (p.run scope input complete).result = .ok (.ok token)) :
    ∃ read rest, input.toList = read ++ rest ∧ Generates scope p.root read rest := by
  rcases p.run_generates hresolves hidentifies input complete with ⟨error, hlimit⟩ |
    ⟨failure, hfailed⟩ | ⟨read, rest, hinput, hgenerates, -⟩
  · rw [hlimit] at hrun
    cases hrun
  · rw [hfailed] at hrun
    cases hrun
  · exact ⟨read, rest, hinput, hgenerates⟩

/-- **A run decides the language of its root rule**, up to limits: where this rule reads
the texts of the language, and generates them only and with nothing behind them, a run
succeeds on them, and matches nothing else. -/
theorem run_decides {language : List Char → Prop} (p : Parser) (hresolves : scope.Resolves p.root)
    (hidentifies : scope.Identifies p.root)
    (hreads : ∀ text, language text → ∃ trees, Reads scope p.root text [] trees)
    (hgenerates : ∀ read rest, Generates scope p.root read rest → language read ∧ rest = [])
    (input : String) (complete : Bool) :
    (∃ error, (p.run scope input complete).result = .ok (.error (.limit error))) ∨
      (language input.toList ∧ ∃ token, (p.run scope input complete).result = .ok (.ok token)) ∨
      (¬language input.toList ∧
        ∃ failure, (p.run scope input complete).result = .ok (.error (.noMatch failure))) := by
  by_cases hlanguage : language input.toList
  · obtain ⟨trees, htrees⟩ := hreads _ hlanguage
    rcases p.run_of_reads hresolves hidentifies htrees complete with hlimit | ⟨token, htoken, -⟩
    · exact .inl hlimit
    · exact .inr (.inl ⟨hlanguage, token, htoken⟩)
  · rcases p.run_generates hresolves hidentifies input complete with hlimit | hfailed |
      ⟨read, rest, hinput, hread, -⟩
    · exact .inl hlimit
    · exact .inr (.inr ⟨hlanguage, hfailed⟩)
    · -- what was matched is in the language, and nothing is behind it
      obtain ⟨hmatched, rfl⟩ := hgenerates read rest hread
      rw [hinput, List.append_nil] at hlanguage
      exact absurd hmatched hlanguage

end Parser

end Packrat
