import Packrat.Proofs.Catalog
import Packrat.Proofs.Completion
import Packrat.Proofs.Parsing

/-!
# Rules that stand alone

A rule in which no key occurs needs no grammar around it: it leads nowhere else, whatever
keys stand for. So what a parse with it finds in an input is a matter of what it reads at the
beginning of a text.

- `Rule.Fit`: the rule is fit for parsing in a scope. `Rule.Alone`: it is so in every scope.
- `Builder.Detached`: the program makes a rule without references.
  `Builder.Detached.exists_alone`: then the rule stands alone.
- `Parser.Finds`, `Parser.FindsNone`: how a parse ends that may leave input.
  `Parser.Decides`: both together, for all numbers of bytes. `Parser.FindsNamed`: the name
  counts, too.
- `Parser.finds_of_reads`, `Parser.findsNone_of_refuses`, `Parser.findsNone_of_generates`: what
  is read is found, and what is refused or not generated is not.
-/

namespace Packrat

open Text (utf8Length)

/-! ## No references -/

namespace Rule

variable {scope : Scope} {root rule operand : Rule}

theorem references_of_operand (hnone : rule.references = []) (hmem : operand ∈ rule.operands) :
    operand.references = [] := by
  refine List.eq_nil_iff_forall_not_mem.2 fun reference href => ?_
  have hinside : reference ∈ rule.references := mem_references.2 (.inr ⟨operand, hmem, href⟩)
  rw [hnone] at hinside
  cases hinside

/-- Without references the rule leads to its operands only. -/
theorem Reaches.of_references (hnone : root.references = []) (h : root.Reaches scope rule) :
    root.Reaches .empty rule ∧ rule.references = [] := by
  induction h with
  | refl => exact ⟨.refl, hnone⟩
  | operand _ hmem ih => exact ⟨ih.1.operand hmem, references_of_operand ih.2 hmem⟩
  | target _ htarget ih => cases ih.2

/-- All that the rule refers to is there, and identities below it are those of one rule
each. -/
structure Fit (scope : Scope) (rule : Rule) : Prop where
  resolves : scope.Resolves rule
  identifies : scope.Identifies rule

/-- In every scope, all that the rule refers to is there, and identities below it are those of
one rule each. -/
structure Alone (rule : Rule) : Prop where
  resolves : ∀ scope : Scope, scope.Resolves rule
  identifies : ∀ scope : Scope, scope.Identifies rule

theorem Alone.fit (h : rule.Alone) (scope : Scope) : rule.Fit scope :=
  ⟨h.resolves scope, h.identifies scope⟩

end Rule

namespace Builder

variable {build : Builder Rule} {next : Rule → Builder Rule} {operand : Rule} {rules : List Rule}

/-- The program is not refused, and makes a rule without references. -/
def Detached (build : Builder Rule) : Prop :=
  ∀ start, ∃ rule stop, build start = .ok (rule, stop) ∧ rule.references = []

namespace Detached

theorem bind (h : Detached build) (h' : ∀ rule, rule.references = [] → Detached (next rule)) :
    Detached (build >>= next) := by
  intro start
  obtain ⟨rule, mid, hbuild, hrule⟩ := h start
  obtain ⟨rule', stop, hnext, hrule'⟩ := h' rule hrule mid
  refine ⟨rule', stop, ?_, hrule'⟩
  show Except.bind (build start) (fun made => next made.1 made.2) = _
  rw [hbuild]
  exact hnext

theorem ch (c : Char) : Detached (ch c) := fun _ => ⟨_, _, rfl, rfl⟩

theorem any : Detached any := fun _ => ⟨_, _, rfl, rfl⟩

theorem satisfy (label : String) (test : Char → Bool) : Detached (satisfy label test) :=
  fun _ => ⟨_, _, rfl, rfl⟩

theorem oneOf {chars : String} (h : chars ≠ "") : Detached (oneOf chars) := by
  intro start
  have hsome : chars.isEmpty = false := by simpa using h
  exact ⟨.char start (.oneOf chars), start + 1, by rw [Builder.oneOf, hsome]; rfl, rfl⟩

theorem noneOf {chars : String} (h : chars ≠ "") : Detached (noneOf chars) := by
  intro start
  have hsome : chars.isEmpty = false := by simpa using h
  exact ⟨.char start (.noneOf chars), start + 1, by rw [Builder.noneOf, hsome]; rfl, rfl⟩

theorem literal {text : String} (h : text ≠ "") : Detached (literal text) := by
  intro start
  have hsome : text.isEmpty = false := by simpa using h
  exact ⟨.literal start text, start + 1, by rw [Builder.literal, hsome]; rfl, rfl⟩

theorem referencesAll_eq_nil (h : ∀ rule ∈ rules, rule.references = []) :
    Rule.referencesAll rules = [] := by
  refine List.eq_nil_iff_forall_not_mem.2 fun reference href => ?_
  obtain ⟨rule, hmem, hinside⟩ := Rule.mem_referencesAll.1 href
  rw [h rule hmem] at hinside
  cases hinside

theorem seq (h : ∀ rule ∈ rules, rule.references = []) : Detached (seq rules) :=
  fun _ => ⟨_, _, rfl, referencesAll_eq_nil h⟩

theorem choice (hsome : rules ≠ []) (h : ∀ rule ∈ rules, rule.references = []) :
    Detached (choice rules) := by
  intro start
  have hsome : rules.isEmpty = false := by simpa using hsome
  exact ⟨.choice start rules, start + 1, by rw [Builder.choice, hsome]; rfl, referencesAll_eq_nil h⟩

theorem notAhead (h : operand.references = []) : Detached (notAhead operand) :=
  fun _ => ⟨_, _, rfl, h⟩

theorem zeroOrMore (h : operand.references = []) : Detached (zeroOrMore operand) :=
  fun _ => ⟨_, _, rfl, h⟩

theorem oneOrMore (h : operand.references = []) : Detached (oneOrMore operand) :=
  fun _ => ⟨_, _, rfl, h⟩

/-- **A program that is given no rules and makes no references makes a rule that stands
alone.** -/
theorem exists_alone (h : Detached build) (hkeeps : Keeps [] build ([·])) (start : RuleId) :
    ∃ rule stop, build start = .ok (rule, stop) ∧ build.Makes rule ∧ rule.Alone := by
  obtain ⟨rule, stop, hbuild, hnone⟩ := h start
  refine ⟨rule, stop, hbuild, ⟨start, stop, hbuild⟩, ?_, ?_⟩
  · intro scope id key hreaches
    cases (hreaches.of_references hnone).2
  · intro scope other other' hreaches hreaches'
    obtain ⟨rules, -, hbuilt, hmem⟩ :=
      hkeeps [] start stop rule (.start start) (List.nil_subset _) hbuild
    have hidentifies : Scope.empty.Identifies rule :=
      hbuilt.identifies (hmem List.mem_cons_self) fun id key target htarget => nomatch htarget
    exact hidentifies _ _ (hreaches.of_references hnone).1 (hreaches'.of_references hnone).1

end Detached

end Builder

/-! ## What a parse finds -/

section

variable {scope : Scope} {rule : Rule} {input : String} {read rest : List Char} {trees : List Tree}
  {outcome : Outcome} {wants : List Want}

/-- What a rule reads at the beginning of the input is what it evaluates to there. -/
theorem Reads.exists_eq_some (h : Reads scope rule read rest trees)
    (hinput : input.toList = read ++ rest)
    (heval : Evaluates scope input True rule 0 outcome wants) :
    ∃ tokens, outcome = some (utf8Length read, tokens) ∧ Token.trees tokens = trees := by
  obtain ⟨tokens, hderives, htrees⟩ := h []
  rw [List.nil_append, ← hinput, String.ofList_toList, Text.utf8Length_nil,
    Nat.zero_add] at hderives
  obtain ⟨wants', heval'⟩ := hderives.evaluates
  exact ⟨tokens, (heval.det (heval'.mono False.elim)).1, htrees⟩

theorem Refuses.eq_none (h : Refuses scope rule input.toList)
    (heval : Evaluates scope input True rule 0 outcome wants) : outcome = none := by
  have hderives := h []
  rw [List.nil_append, String.ofList_toList, Text.utf8Length_nil] at hderives
  obtain ⟨wants', heval'⟩ := hderives.evaluates
  exact (heval.det (heval'.mono False.elim)).1

end

namespace Token

variable {t : Token} {source : String} {n : Nat}

theorem exists_of_trees_eq_singleton {tokens : List Token} {tree : Tree}
    (h : trees tokens = [tree]) : ∃ only, tokens = [only] ∧ only.tree = tree := by
  obtain _ | ⟨only, _ | ⟨second, more⟩⟩ := tokens
  · simp at h
  · exact ⟨only, rfl, by simpa using h⟩
  · simp at h

/-- A token with a text of `n` bytes that ends within the first `n` bytes covers these. -/
theorem Sound.span_eq_of_stop_le (h : t.Sound source) (hstop : t.stop ≤ n)
    (htext : utf8Length t.text.toList = n) : t.span = ⟨0, n⟩ := by
  obtain ⟨-, -, -, -, hlen⟩ := h.exists_splits
  have hspan : t.span = ⟨t.start, t.stop⟩ := rfl
  rw [hspan, Span.mk.injEq]
  omega

end Token

namespace Parser

variable {p : Parser} {scope : Scope} {input : String} {n m : Nat} {read rest : List Char}
  {trees : List Tree}

/-- The parse finds a token over the first `n` bytes. -/
def Finds (p : Parser) (scope : Scope) (input : String) (n : Nat) : Prop :=
  ∃ token, (p.parse scope input).result = .ok (.ok token) ∧ token.span = ⟨0, n⟩

/-- The parse finds a token of the given name over the first `n` bytes. -/
def FindsNamed (p : Parser) (scope : Scope) (input name : String) (n : Nat) : Prop :=
  ∃ token, (p.parse scope input).result = .ok (.ok token) ∧ token.name = name ∧
    token.span = ⟨0, n⟩

/-- The parse finds nothing. -/
def FindsNone (p : Parser) (scope : Scope) (input : String) : Prop :=
  ∃ failure, (p.parse scope input).result = .ok (.error (.noMatch failure))

/-- The parse meets no limit. -/
def StaysWithin (p : Parser) (scope : Scope) (input : String) : Prop :=
  ∀ error, (p.parse scope input).result ≠ .ok (.error (.limit error))

/-- A parse that finds a token with a rule just built meets no limit. -/
theorem staysWithin_of_isSome {build : Builder Rule} {start stop : RuleId} {rule : Rule}
    (hbuild : build start = .ok (rule, stop))
    (hsome : (build start).toOption.map (fun made =>
      ((ofRule made.1).parse scope input).token?.isSome) = some true) :
    (ofRule rule).StaysWithin scope input := by
  rw [hbuild] at hsome
  exact fun error => Report.result_ne_limit (Option.some.inj hsome) error

theorem FindsNamed.unique {name other : String} (h : p.FindsNamed scope input name n)
    (h' : p.FindsNamed scope input other m) : name = other ∧ n = m := by
  obtain ⟨token, hresult, rfl, hspan⟩ := h
  obtain ⟨token', hresult', rfl, hspan'⟩ := h'
  rw [hresult] at hresult'
  cases hresult'
  rw [hspan] at hspan'
  exact ⟨rfl, congrArg Span.stop hspan'⟩

theorem Finds.unique (h : p.Finds scope input n) (h' : p.Finds scope input m) : n = m := by
  obtain ⟨token, hresult, hspan⟩ := h
  obtain ⟨token', hresult', hspan'⟩ := h'
  rw [hresult] at hresult'
  cases hresult'
  rw [hspan] at hspan'
  exact congrArg Span.stop hspan'

theorem Finds.not_findsNone (h : p.Finds scope input n) : ¬p.FindsNone scope input := by
  rintro ⟨failure, hnone⟩
  obtain ⟨token, hresult, -⟩ := h
  rw [hresult] at hnone
  cases hnone

/-- What the parse finds is told by `expected`: a token over the first `n` bytes if that holds
of `n`, and nothing if it holds of no number. -/
def Decides (p : Parser) (scope : Scope) (input : String) (expected : Nat → Prop) : Prop :=
  (∀ n, p.Finds scope input n ↔ expected n) ∧ (p.FindsNone scope input ↔ ∀ n, ¬expected n)

theorem Finds.decides {expected : Nat → Prop} (h : p.Finds scope input n) (hn : expected n)
    (honly : ∀ m, expected m → m = n) : p.Decides scope input expected := by
  refine ⟨fun m => ⟨fun hm => hm.unique h ▸ hn, fun hm => honly m hm ▸ h⟩, ?_, ?_⟩
  · exact fun hnone => absurd hnone h.not_findsNone
  · exact fun hnone => absurd hn (hnone n)

theorem FindsNone.decides {expected : Nat → Prop} (h : p.FindsNone scope input)
    (hnone : ∀ m, ¬expected m) : p.Decides scope input expected :=
  ⟨fun m => ⟨fun hm => absurd h hm.not_findsNone, fun hm => absurd hm (hnone m)⟩,
    fun _ => hnone, fun _ => h⟩

theorem span_rootOver (name input : String) (stop : Nat) (tokens : List Token) :
    (rootOver name input stop tokens).span = ⟨0, stop⟩ := by
  unfold rootOver
  split
  · split
    · assumption
    · rfl
  · rfl

/-- A token over all that was read stays as it is. -/
theorem rootOver_singleton {only : Token} (name input : String) (h : only.span = ⟨0, n⟩) :
    rootOver name input n [only] = only := if_pos h

/-- What the root rule reads at the beginning of the input makes the token of the parse. -/
theorem parse_of_reads (hfit : p.root.Fit scope) (hlimit : p.StaysWithin scope input)
    (hinput : input.toList = read ++ rest) (hreads : Reads scope p.root read rest trees) :
    ∃ tokens, Token.Ordered input 0 tokens (utf8Length read) ∧ Token.trees tokens = trees ∧
      (p.parse scope input).result = .ok (.ok (rootOver ((scope.name p.root.id).getD unnamedRoot)
        input (utf8Length read) tokens)) := by
  obtain ⟨outcome, wants, heval, hmatched, hfound⟩ :=
    p.run_eq_finding hfit.resolves hfit.identifies hlimit
  obtain ⟨tokens, rfl, htrees⟩ := hreads.exists_eq_some hinput heval
  obtain ⟨st, hext, hstop⟩ := hmatched _ _ rfl
  exact ⟨tokens, hstop ▸ hext.ordered, htrees, hfound false⟩

/-- **What the root rule reads at the beginning of the input is found.** -/
theorem finds_of_reads (hfit : p.root.Fit scope) (hlimit : p.StaysWithin scope input)
    (hinput : input.toList = read ++ rest) (hreads : Reads scope p.root read rest trees) :
    p.Finds scope input (utf8Length read) := by
  obtain ⟨tokens, -, -, hresult⟩ := parse_of_reads hfit hlimit hinput hreads
  exact ⟨_, hresult, span_rootOver _ _ _ _⟩

/-- A token over all that is read is the one that is found. -/
theorem findsNamed_of_reads {name : String} {children : List Tree} (hfit : p.root.Fit scope)
    (hlimit : p.StaysWithin scope input) (hinput : input.toList = read ++ rest)
    (hreads : Reads scope p.root read rest [.mk name (String.ofList read) children]) :
    p.FindsNamed scope input name (utf8Length read) := by
  obtain ⟨tokens, hordered, htrees, hresult⟩ := parse_of_reads hfit hlimit hinput hreads
  obtain ⟨only, rfl, htree⟩ := Token.exists_of_trees_eq_singleton htrees
  rw [only.tree_eq, Tree.mk.injEq] at htree
  obtain ⟨hname, htext, -⟩ := htree
  obtain ⟨-, hsound, hstop⟩ := hordered
  have hspan : only.span = ⟨0, utf8Length read⟩ :=
    hsound.span_eq_of_stop_le hstop (by rw [htext, String.toList_ofList])
  rw [rootOver_singleton _ _ hspan] at hresult
  exact ⟨only, hresult, hname, hspan⟩

/-- Where the root rule refuses the input, nothing is found. -/
theorem findsNone_of_refuses (hfit : p.root.Fit scope) (hlimit : p.StaysWithin scope input)
    (hrefuses : Refuses scope p.root input.toList) : p.FindsNone scope input := by
  obtain ⟨outcome, wants, heval, -, hfound⟩ :=
    p.run_eq_finding hfit.resolves hfit.identifies hlimit
  cases hrefuses.eq_none heval
  exact ⟨_, hfound false⟩

/-- Where the root rule generates no text that the input begins with, nothing is found. -/
theorem findsNone_of_generates (hfit : p.root.Fit scope) (hlimit : p.StaysWithin scope input)
    (hnone : ∀ read rest, input.toList = read ++ rest → ¬Generates scope p.root read rest) :
    p.FindsNone scope input := by
  rcases p.run_generates hfit.resolves hfit.identifies input false with
    ⟨error, h⟩ | hfailed | ⟨read, rest, hinput, hgenerates, -⟩
  · exact absurd h (hlimit error)
  · exact hfailed
  · exact absurd hgenerates (hnone read rest hinput)

end Parser

end Packrat
