import Packrat.Parse.Parser
import Packrat.Proofs.Progress

/-!
# Soundness of parses

A run applies the root rule and then judges what came of it.

- `Parser.verdict`: the judgement, as a function of what the application left.
- `Parser.run_eq_of_apply`: a run is the application of the root rule, and the verdict on it.
- `Parser.verdict_sound`, `Parser.run_sound`: no run breaks a precondition, and the
  token of a successful one covers what was matched with sound tokens all the way
  down.
-/

namespace Packrat

namespace Parser

variable {p : Parser} {scope : Scope} {input : String} {complete matched : Bool}
  {st : ParseState} {cx : Context}

/-- The setting of a parser's runs. -/
abbrev setting (p : Parser) (scope : Scope) : Setting := ⟨scope, p.limits⟩

/-- What a run makes of the application of its root rule. -/
def verdict (p : Parser) (scope : Scope) (complete matched : Bool) (st : ParseState)
    (cx : Context) : Except Breach (Except ParseError Token) :=
  match cx.fatal with
  | some error => .ok (.error (.limit error))
  | none =>
    if matched = false then .ok (.error (.noMatch cx.failure))
    else if complete && !st.isAtEnd then
      .ok (.error (.incomplete st.position (cx.expect st.position "end of input").failure))
    else (rootToken scope p.root st).map .ok

/-- A limit outweighs whatever else came of the application. -/
theorem verdict_limit {error : LimitError} (h : cx.fatal = some error) :
    p.verdict scope complete matched st cx = .ok (.error (.limit error)) := by
  unfold verdict
  rw [h]

/-- Where the verdict is no limit error, no limit was met. -/
theorem fatal_eq_none_of_verdict
    (h : ∀ error, p.verdict scope complete matched st cx ≠ .ok (.error (.limit error))) :
    cx.fatal = none := by
  cases hfatal : cx.fatal with
  | none => rfl
  | some error => exact absurd (verdict_limit hfatal) (h error)

/-- Only where a limit was met is the verdict a limit error. -/
theorem fatal_of_verdict_limit {error : LimitError}
    (h : p.verdict scope complete matched st cx = .ok (.error (.limit error))) :
    cx.fatal = some error := by
  unfold verdict at h
  split at h
  · rename_i hfatal
    cases h
    exact hfatal
  · split at h
    · cases h
    · split at h
      · cases h
      · cases hroot : rootToken scope p.root st <;> rw [hroot] at h <;> cases h

theorem log_expect (cx : Context) (pos : Nat) (description : String) :
    (cx.expect pos description).log = cx.log := by
  rw [cx.expect_eq]

/-- A run applies its root rule, and this ends well. -/
theorem exists_run (p : Parser) (hresolves : scope.Resolves p.root) (input : String) :
    ∃ matched st cx,
      apply (p.setting scope) p.limits.recursionLimit.toNat p.root (.start input)
          (.start p.memoize) = .ok (matched, st) cx ∧
        Executes (p.setting scope) (.application p.root) (.start input) (.start p.memoize)
          matched st cx := by
  have hlaid : (Context.start p.memoize).MemoLaid (ParseState.start input).input :=
    .start p.memoize input
  have hresolves : (p.setting scope).scope.Resolves p.root := hresolves
  exact exists_apply_eq_ok hresolves .refl hlaid (Nat.le_add_right _ _)

/-- The run is the application of the root rule, and the verdict on it. -/
theorem run_eq_of_apply (p : Parser)
    (h : apply (p.setting scope) p.limits.recursionLimit.toNat p.root (.start input)
      (.start p.memoize) = .ok (matched, st) cx) :
    p.run scope input complete = ⟨p.verdict scope complete matched st cx, cx.log.reverse⟩ := by
  unfold run execute verdict
  rw [Run.bind_eq_of_ok h]
  dsimp only
  have hget : (get : Run Context) cx = .ok cx cx := rfl
  rw [Run.bind_eq_of_ok hget]
  cases hfatal : cx.fatal with
  | some error => rfl
  | none =>
    cases matched with
    | false => rfl
    | true =>
      by_cases hend : (complete && !st.isAtEnd) = true
      · simp only [hend]
        rw [← log_expect cx st.position "end of input"]
        rfl
      · simp only [hend]
        cases rootToken scope p.root st <;> rfl

/-- The token that a run found. -/
def Report.token? (report : Report) : Option Token := report.result.toOption.bind Except.toOption

/-- A run that found a token met no limit. -/
theorem Report.result_ne_limit {report : Report} (h : report.token?.isSome = true)
    (error : LimitError) : report.result ≠ .ok (.error (.limit error)) := by
  intro heq
  rw [token?, heq] at h
  cases h

theorem Report.exists_of_isSome {report : Report} (h : report.token?.isSome = true) :
    ∃ token, report.result = .ok (.ok token) := by
  cases hresult : report.result with
  | error => rw [token?, hresult] at h; cases h
  | ok result =>
    cases result with
    | error => rw [token?, hresult] at h; cases h
    | ok token => exact ⟨token, rfl⟩

/-! ## The root token -/

/-- What was matched from the start of the input has a root token, and it is
sound: the one token that covers the match, or one made over all tokens. -/
theorem exists_rootToken (scope : Scope) (root : Rule) {tokens : List Token}
    (hext : (ParseState.start input).Extends tokens st) :
    ∃ token, rootToken scope root st = .ok token ∧ token.Sound input ∧
      token.span = ⟨0, st.position⟩ := by
  have hinput : st.input = input := hext.input_eq
  have hlog : st.emitted.toList = tokens := hext.toList_eq rfl
  have hordered : Token.Ordered input 0 tokens st.position := hext.ordered
  have hspan : Span.make 0 st.position = .ok ⟨0, st.position⟩ :=
    Span.make_eq_ok_iff.2 ⟨Nat.zero_le _, rfl⟩
  obtain ⟨hmake, hsound⟩ := hordered.make_eq_ok ((scope.name root.id).getD unnamedRoot)
    (Text.isBoundary_zero input) (hinput ▸ st.isBoundary_position)
  unfold rootToken
  rw [hspan, hlog, hinput]
  simp only [bind, Except.bind, pure, Except.pure, hmake]
  split
  · rename_i only
    split
    · rename_i hcovers
      exact ⟨only, rfl, hordered.2.1, hcovers⟩
    · exact ⟨_, rfl, hsound, rfl⟩
  · exact ⟨_, rfl, hsound, rfl⟩

/-! ## Soundness -/

/-- The verdict on an application that kept the contract breaks no precondition,
and a token comes from a match that it covers. -/
theorem verdict_sound (p : Parser) (scope : Scope) (complete : Bool) (cx : Context)
    (hcontract : (Task.application p.root).Contract (.start input) matched st) :
    ∃ result, p.verdict scope complete matched st cx = .ok result ∧
      ∀ token, result = .ok token → matched = true ∧ token.Sound input ∧
        token.span = ⟨0, st.position⟩ ∧
        (complete = true → st.position = input.utf8ByteSize) := by
  unfold verdict
  split
  · exact ⟨_, rfl, fun token h => nomatch h⟩
  · split
    · exact ⟨_, rfl, fun token h => nomatch h⟩
    · rename_i hmatched
      have hmatched : matched = true := by simpa using hmatched
      obtain ⟨tokens, hext⟩ := hcontract.of_matched hmatched
      have hinput : st.input = input := hext.input_eq
      split
      · exact ⟨_, rfl, fun token h => nomatch h⟩
      · rename_i hend
        obtain ⟨token, htoken, hsound, hspan⟩ := exists_rootToken scope p.root hext
        refine ⟨.ok token, by rw [htoken]; rfl, fun token' h => ?_⟩
        cases h
        refine ⟨hmatched, hsound, hspan, fun hcomplete => ?_⟩
        subst hcomplete
        have hatEnd : st.isAtEnd = true := by simpa using hend
        rw [← hinput]
        exact eq_of_beq hatEnd

/-- The token of a run is sound. -/
theorem sound_of_run {token : Token} (p : Parser) (hresolves : scope.Resolves p.root)
    (hrun : (p.run scope input complete).result = .ok (.ok token)) : token.Sound input := by
  obtain ⟨matched, st, cx, happly, hexec⟩ := p.exists_run hresolves input
  obtain ⟨result, hverdict, htoken⟩ :=
    p.verdict_sound scope complete cx (hexec.contract trivial (.start p.memoize input)).2
  rw [p.run_eq_of_apply happly, hverdict] at hrun
  cases hrun
  exact (htoken token rfl).2.1

/-- **No run breaks a precondition, and its token is sound**: over the input, from
its start to where the root rule stopped, with every token below it on character
boundaries, inside its parent and after its siblings. -/
theorem run_sound (p : Parser) (scope : Scope) (hresolves : scope.Resolves p.root)
    (input : String) (complete : Bool) :
    ∃ result, (p.run scope input complete).result = .ok result ∧
      ∀ token, result = .ok token → token.Sound input ∧
        ∃ st cx, apply (p.setting scope) p.limits.recursionLimit.toNat p.root (.start input)
            (.start p.memoize) = .ok (true, st) cx ∧
          token.span = ⟨0, st.position⟩ ∧
          (complete = true → st.position = input.utf8ByteSize) := by
  obtain ⟨matched, st, cx, happly, hexec⟩ := p.exists_run hresolves input
  obtain ⟨result, hverdict, htoken⟩ :=
    p.verdict_sound scope complete cx (hexec.contract trivial (.start p.memoize input)).2
  rw [p.run_eq_of_apply happly]
  refine ⟨result, hverdict, fun token h => ?_⟩
  obtain ⟨rfl, hsound, hspan, hend⟩ := htoken token h
  exact ⟨hsound, st, cx, happly, hspan, hend⟩

/-- Quotations of a letter outside ASCII have a sound tree over all ten bytes. -/
theorem run_sound_quotation :
    ∃ token,
      ((ofRule Quotation.text).run Quotation.scope "««é»»" true).result = .ok (.ok token) ∧
        token.Sound "««é»»" ∧ token.span = ⟨0, 10⟩ := by
  obtain ⟨result, hresult, htoken⟩ :=
    run_sound (ofRule Quotation.text) Quotation.scope Quotation.resolves "««é»»" true
  have hmatched : (match ((ofRule Quotation.text).run Quotation.scope "««é»»" true).result with
      | .ok (.ok _) => true
      | _ => false) = true := by decide +kernel
  rw [hresult] at hmatched
  cases result with
  | error error => cases hmatched
  | ok token =>
    obtain ⟨hsound, st, -, -, hspan, hend⟩ := htoken token rfl
    rw [hend rfl] at hspan
    exact ⟨token, hresult, hsound, hspan⟩

end Parser

end Packrat
