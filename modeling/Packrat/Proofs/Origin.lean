import Packrat.Proofs.Correctness
import Packrat.Proofs.Verdict
import Packrat.Token.Walk

/-!
# Where tokens come from

A token is what a node makes of the text where it stands, however many nodes, choices
and repetitions were tried around it.

- `Token.ComesFrom`: the token is the outcome of a node below a rule.
- `Evaluates.comesFrom`: so are all tokens that a match gives, and all below them.
- `Parser.run_comesFrom`: so is every token of a run, but for a root that was made over
  the tokens of the root rule.
-/

namespace Packrat

/-! ## Walks -/

namespace Token

theorem preorderAll_append (ts us : List Token) :
    preorderAll (ts ++ us) = preorderAll ts ++ preorderAll us := by
  induction ts with
  | nil => rfl
  | cons t ts ih => rw [List.cons_append, preorderAll, preorderAll, ih, List.append_assoc]

theorem preorderAll_singleton (t : Token) : preorderAll [t] = t.preorder := by
  rw [preorderAll, preorderAll, List.append_nil]

theorem preorder_eq (t : Token) : t.preorder = t :: preorderAll t.children := by
  cases t
  rfl

end Token

/-! ## Tokens of a match -/

variable {scope : Scope} {input : String} {stalls : Prop} {rule part : Rule} {t : Token}
  {pos : Nat} {outcome : Outcome} {wants : List Want}

/-- The token of a node has the node's name. -/
theorem Evaluates.name_eq {id : RuleId} {stop : Nat}
    (h : Evaluates scope input stalls (.node id part) pos (some (stop, [t])) wants) :
    t.name = (scope.name id).getD Apply.unnamedNode := by
  generalize houtcome : some (stop, [t]) = outcome at h
  cases h with
  | read hprimitive => cases hprimitive
  | unread | node_failed => cases houtcome
  | node_matched =>
    simp only [Option.some.injEq, Prod.mk.injEq, List.cons.injEq, and_true] at houtcome
    exact congrArg Token.name houtcome.2

/-- The token is what a node below the rule makes of the input, where the token starts. -/
def Token.ComesFrom (scope : Scope) (input : String) (stalls : Prop) (rule : Rule) (t : Token) :
    Prop :=
  ∃ id operand wants, rule.Reaches scope (.node id operand) ∧
    Evaluates scope input stalls (.node id operand) t.start (some (t.stop, [t])) wants

namespace Token.ComesFrom

theorem below (h : t.ComesFrom scope input stalls part) (hpart : rule.Reaches scope part) :
    t.ComesFrom scope input stalls rule := by
  obtain ⟨id, operand, wants, hreaches, heval⟩ := h
  exact ⟨id, operand, wants, hpart.trans hreaches, heval⟩

theorem operand (h : t.ComesFrom scope input stalls part) (hpart : part ∈ rule.operands) :
    t.ComesFrom scope input stalls rule := h.below (Rule.Reaches.refl.operand hpart)

/-- A part of a sequence or a repetition has no nodes but those of the whole. -/
theorem of_operands (h : t.ComesFrom scope input stalls part)
    (hsubset : part.operands ⊆ rule.operands) (hnode : part.isNode = false)
    (hrecursive : ∀ id key, part ≠ .recursive id key) : t.ComesFrom scope input stalls rule := by
  obtain ⟨id, operand, wants, hreaches, heval⟩ := h
  rcases hreaches.of_operands hsubset hrecursive with rfl | hreaches
  · cases hnode
  · exact ⟨id, operand, wants, hreaches, heval⟩

/-- A token has the name of the node that it comes from. -/
theorem exists_name_eq (h : t.ComesFrom scope input stalls rule) :
    ∃ id operand, rule.Reaches scope (.node id operand) ∧
      t.name = (scope.name id).getD Apply.unnamedNode := by
  obtain ⟨id, operand, wants, hreaches, heval⟩ := h
  exact ⟨id, operand, hreaches, heval.name_eq⟩

end Token.ComesFrom

/-- **The tokens of a match come from nodes**, and so do all tokens below them. -/
theorem Evaluates.comesFrom (h : Evaluates scope input stalls rule pos outcome wants) :
    ∀ {stop tokens}, outcome = some (stop, tokens) → ∀ t ∈ Token.preorderAll tokens,
      t.ComesFrom scope input stalls rule := by
  induction h with
  | read | seq_nil | notAhead_matched | ahead_matched | zeroOrMore_ended | zeroOrMore_stalled
  | opt_left =>
    rintro _ _ ⟨⟩ t ht
    cases ht
  | unread | seq_failed | choice_nil | notAhead_failed | ahead_failed | oneOrMore_failed
  | node_failed => rintro _ _ ⟨⟩
  | seq_next _ _ ih ih' =>
    intro stop tokens heq t ht
    obtain ⟨more, hmore, rfl⟩ := Outcome.after_eq_some heq
    rw [Token.preorderAll_append, List.mem_append] at ht
    rcases ht with ht | ht
    · exact (ih rfl t ht).operand List.mem_cons_self
    · exact (ih' hmore t ht).of_operands (List.subset_cons_self _ _) rfl nofun
  | choice_first _ ih =>
    exact fun heq t ht => (ih heq t ht).operand List.mem_cons_self
  | choice_next _ _ _ ih =>
    exact fun heq t ht => (ih heq t ht).of_operands (List.subset_cons_self _ _) rfl nofun
  | zeroOrMore_next _ _ _ ih ih' =>
    intro stop tokens heq t ht
    obtain ⟨more, hmore, rfl⟩ := Outcome.after_eq_some heq
    rw [Token.preorderAll_append, List.mem_append] at ht
    rcases ht with ht | ht
    · exact (ih rfl t ht).operand List.mem_cons_self
    · exact ih' hmore t ht
  | oneOrMore_next _ _ _ ih ih' =>
    intro stop tokens heq t ht
    obtain ⟨more, hmore, rfl⟩ := Outcome.after_eq_some heq
    rw [Token.preorderAll_append, List.mem_append] at ht
    rcases ht with ht | ht
    · exact (ih rfl t ht).operand List.mem_cons_self
    · exact (ih' hmore t ht).of_operands (List.Subset.refl _) rfl nofun
  | oneOrMore_stalled _ _ _ ih | opt_taken _ ih =>
    exact fun heq t ht => (ih heq t ht).operand List.mem_cons_self
  | @node_matched id operand pos stop tokens wants heval ih =>
    rintro _ _ ⟨⟩ t ht
    rw [Token.preorderAll_singleton, Token.preorder_eq, List.mem_cons] at ht
    rcases ht with rfl | ht
    · exact ⟨id, operand, wants, .refl, .node_matched heval⟩
    · exact (ih rfl t ht).operand List.mem_cons_self
  | recursive htarget _ ih =>
    exact fun heq t ht => (ih heq t ht).below (Rule.Reaches.refl.target htarget)

/-! ## Tokens of a run -/

namespace Parser

variable {st : ParseState} {token : Token}

/-- The token of a whole parse is the only one that was emitted, or is made over all
that were. -/
theorem rootToken_cases {root : Rule} (h : rootToken scope root st = .ok token) :
    st.emitted.toList = [token] ∨
      token.name = (scope.name root.id).getD unnamedRoot ∧ token.children = st.emitted.toList := by
  unfold rootToken at h
  obtain ⟨matched, hmatched⟩ : ∃ matched, Span.make 0 st.position = .ok matched :=
    ⟨_, Span.make_eq_ok_iff.2 ⟨Nat.zero_le _, rfl⟩⟩
  rw [hmatched] at h
  simp only [bind, Except.bind, pure, Except.pure] at h
  have hmade {tokens : List Token}
      (hmake : Token.make ((scope.name root.id).getD unnamedRoot) st.input matched tokens =
        .ok token) :
      token.name = (scope.name root.id).getD unnamedRoot ∧ token.children = tokens := by
    rw [(Token.make_eq_ok_iff.1 hmake).1]
    exact ⟨rfl, rfl⟩
  split at h
  · rename_i only honly
    split at h
    · cases h
      exact .inl honly
    · exact .inr (honly ▸ hmade (honly ▸ h))
  · exact .inr (hmade h)

/-- **The tokens of a run come from nodes below its root rule.** Only the root token may
be one that was made over all that the root rule emitted. -/
theorem run_comesFrom (p : Parser) (hresolves : scope.Resolves p.root)
    (hidentifies : scope.Identifies p.root) (complete : Bool)
    (hrun : (p.run scope input complete).result = .ok (.ok token)) :
    ∃ st cx, apply (p.setting scope) p.limits.recursionLimit.toNat p.root (.start input)
        (.start p.memoize) = .ok (true, st) cx ∧
      (st.emitted.toList = [token] ∨
        token.name = (scope.name p.root.id).getD unnamedRoot ∧
          token.children = st.emitted.toList) ∧
      ∀ t ∈ Token.preorderAll st.emitted.toList, t.ComesFrom scope input True p.root := by
  obtain ⟨matched, st, cx, happly, -⟩ := p.exists_run hresolves input
  rw [p.run_eq_of_apply happly] at hrun
  have hfatal : cx.fatal = none := fatal_eq_none_of_verdict fun error herror => by
    rw [herror] at hrun
    cases hrun
  obtain ⟨outcome, wants, heval, hreal⟩ := exists_evaluates hidentifies .refl (.start p.memoize)
    (Nat.le_add_right _ _) happly hfatal
  -- a run with a token is one that matched, so that all its tokens are those of the match
  unfold verdict at hrun
  rw [hfatal] at hrun
  dsimp only at hrun
  split at hrun
  · cases hrun
  · rename_i hmatched
    obtain rfl : matched = true := by simpa using hmatched
    split at hrun
    · cases hrun
    · obtain ⟨tokens, rfl, hext⟩ := hreal.exists_extends
      have hemitted : st.emitted.toList = tokens := hext.toList_eq rfl
      refine ⟨st, cx, happly, ?_, ?_⟩
      · cases htoken : rootToken scope p.root st with
        | error breach =>
          rw [htoken] at hrun
          cases hrun
        | ok found =>
          rw [htoken] at hrun
          cases hrun
          exact rootToken_cases htoken
      · rw [hemitted]
        exact (heval.mono fun _ => trivial).comesFrom rfl

end Parser

end Packrat
