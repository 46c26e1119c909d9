import Packrat.Proofs.Diagnosis
import Packrat.Proofs.Interchange
import Packrat.Proofs.Naming

/-!
# Grammars are not disturbed

Rules are shared between grammars and get their names late. A name has three uses: it
labels the tokens of a node, it stands for the rule in descriptions, and it marks the rule
as one whose outcomes are remembered. Only the first shows in what a parse finds, and a
node keeps its name once it has one.

- `Names.Extends`: names are only added. `Draft.build` does no more than that, whether it
  ends well or not.
- `Scope.Agrees scope scope' rule`: keys stand for the same rules, and the nodes below the
  rule have the same names.
- `Evaluates.renamed`: **where scopes agree, outcomes are the same**, and what is wanted on
  the way is wanted at the same offsets.
- `Parser.run_undisturbed`: later registrations leave the result of a grammar as it is.
-/

namespace Packrat

/-! ## Names are only added -/

/-- What has a name keeps it. -/
def Names.Extends (names names' : Names) : Prop :=
  ∀ (id : RuleId) (name : String), names[id]? = some name → names'[id]? = some name

/-- What is known of rules where they have these names. -/
def Names.scope (names : Names) (target : RuleId → String → Option Rule) : Scope where
  name id := names[id]?
  target := target

variable {scope scope' : Scope} {input : String} {stalls : Prop} {rule part : Rule} {pos : Nat}
  {outcome : Outcome} {wants wants' : List Want} {names names' names'' : Names}
  {rules : List (String × Rule)} {draft : Draft} {g : Grammar}

namespace Names.Extends

theorem refl (names : Names) : names.Extends names := fun _ _ h => h

theorem trans (h : names.Extends names') (h' : names'.Extends names'') : names.Extends names'' :=
  fun id name hname => h' id name (h id name hname)

/-- A name for what has none takes no name away. -/
theorem insert {id : RuleId} (h : names[id]? = none) (name : String) :
    names.Extends (names.insert id name) := by
  intro other bound hbound
  have hne : id ≠ other := by
    rintro rfl
    rw [h] at hbound
    cases hbound
  rw [Std.HashMap.getElem?_insert, if_neg (by simpa using hne)]
  exact hbound

theorem eq_of_isSome (h : names.Extends names') {id : RuleId} (hname : names[id]?.isSome) :
    names'[id]? = names[id]? := by
  obtain ⟨name, hname⟩ := Option.isSome_iff_exists.1 hname
  rw [hname, h id name hname]

end Names.Extends

namespace Draft

/-- Binding adds names, up to where it is refused. -/
theorem extends_bind : ∀ (rules : List (String × Rule)) (names : Names),
    names.Extends (bind names rules).2
  | [], names => .refl names
  | (name, rule) :: rest, names => by
    unfold bind
    split
    · rename_i hnone
      exact (Names.Extends.insert hnone name).trans (extends_bind rest _)
    · split
      · exact extends_bind rest names
      · exact .refl names

/-- A draft adds names, whether it becomes a grammar or not. -/
theorem extends_build (draft : Draft) (names : Names) : names.Extends (draft.build names).2 := by
  have hbind := extends_bind draft.rules names
  unfold build
  split
  · exact .refl names
  · split <;> rename_i heq <;> rw [heq] at hbind <;> exact hbind

/-- The names after several drafts. -/
def namesAfter (later : List Draft) (names : Names) : Names :=
  later.foldl (fun names draft => (draft.build names).2) names

/-- Any number of drafts only add names. -/
theorem extends_namesAfter (later : List Draft) (names : Names) :
    names.Extends (namesAfter later names) := by
  induction later generalizing names with
  | nil => exact .refl names
  | cons draft rest ih => exact (draft.extends_build names).trans (ih _)

/-- The root of a grammar has its name. -/
theorem isSome_root_of_build (h : draft.build names = (.ok g, names')) :
    names'[g.root.id]?.isSome := by
  unfold build at h
  split at h
  · cases h
  · rename_i rootName root hcheck
    obtain ⟨-, hnames, hidentities, -, hroot⟩ := check_eq_ok_iff.1 hcheck
    obtain ⟨bound, hbind, hnamed, -⟩ := bind_eq_ok (checkIdentities_eq_ok_iff.1 hidentities).2
      fun registration hmem => ((checkNames_eq_ok_iff.1 hnames).1 registration hmem).2.1
    rw [hbind] at h
    cases h
    rcases chooseRoot_spec draft.rules draft.root with ⟨registration, hmem, hok, -⟩ |
      ⟨_, -, -, herror⟩ | ⟨-, -, herror⟩
    · rw [hroot] at hok
      cases hok
      exact Option.isSome_iff_exists.2 ⟨_, hnamed _ hmem⟩
    · rw [hroot] at herror
      cases herror
    · rw [hroot] at herror
      cases herror

end Draft

/-! ## Scopes that agree -/

/-- Keys stand for the same rules, and the nodes below the rule have the same names. -/
structure Scope.Agrees (scope scope' : Scope) (root : Rule) : Prop where
  target_eq : scope'.target = scope.target
  name_eq : ∀ id operand, root.Reaches scope (.node id operand) → scope'.name id = scope.name id

namespace Scope.Agrees

theorem below (h : scope.Agrees scope' rule) (hpart : rule.Reaches scope part) :
    scope.Agrees scope' part where
  target_eq := h.target_eq
  name_eq id operand hnode := h.name_eq id operand (hpart.trans hnode)

theorem operand (h : scope.Agrees scope' rule) (hmem : part ∈ rule.operands) :
    scope.Agrees scope' part :=
  h.below (Rule.Reaches.refl.operand hmem)

/-- What has some of the operands of a rule and is no node has no other nodes below it. -/
theorem of_operands (h : scope.Agrees scope' rule) (hsubset : part.operands ⊆ rule.operands)
    (hpart : ∀ id key, part ≠ .recursive id key) (hnode : ∀ id operand, part ≠ .node id operand) :
    scope.Agrees scope' part where
  target_eq := h.target_eq
  name_eq id operand hbelow := by
    rcases hbelow.of_operands hsubset hpart with heq | hbelow
    · exact absurd heq.symm (hnode id operand)
    · exact h.name_eq id operand hbelow

/-- What is reached from the rule is reached in both scopes. -/
theorem reaches (h : scope.Agrees scope' rule) (hpart : rule.Reaches scope' part) :
    rule.Reaches scope part := by
  induction hpart with
  | refl => exact .refl
  | operand _ hmem ih => exact ih.operand hmem
  | target _ htarget ih => exact ih.target (h.target_eq ▸ htarget)

theorem resolves (h : scope.Agrees scope' rule) (hresolves : scope.Resolves rule) :
    scope'.Resolves rule := by
  intro id key hreaches
  rw [h.target_eq]
  exact hresolves id key (h.reaches hreaches)

theorem identifies (h : scope.Agrees scope' rule) (hidentifies : scope.Identifies rule) :
    scope'.Identifies rule :=
  fun part part' hpart hpart' => hidentifies part part' (h.reaches hpart) (h.reaches hpart')

end Scope.Agrees

/-- Names that are added make no difference where all nodes have one. -/
theorem Names.Extends.agrees {target : RuleId → String → Option Rule}
    (h : names.Extends names') (hnamed : ∀ id operand,
      rule.Reaches (names.scope target) (.node id operand) → names[id]?.isSome) :
    (names.scope target).Agrees (names'.scope target) rule where
  target_eq := rfl
  name_eq id operand hnode := h.eq_of_isSome (hnamed id operand hnode)

/-! ## Outcomes and offsets stay -/

/-- The same outcome in another scope, with wants at the same offsets. -/
def Evaluates.Persists (scope' : Scope) (input : String) (stalls : Prop) (rule : Rule) (pos : Nat)
    (outcome : Outcome) (wants : List Want) : Prop :=
  ∃ wants', Evaluates scope' input stalls rule pos outcome wants' ∧
    wants'.map Prod.fst = wants.map Prod.fst

/-- **Where scopes agree on the nodes below a rule, it comes out alike.** What is wanted on
the way may be described differently, at the same offsets. -/
theorem Evaluates.renamed (h : Evaluates scope input stalls rule pos outcome wants)
    (hagrees : scope.Agrees scope' rule) :
    Evaluates.Persists scope' input stalls rule pos outcome wants := by
  induction h with
  | read hprimitive hread => exact ⟨_, .read hprimitive hread, rfl⟩
  | unread hprimitive hread => exact ⟨_, .unread hprimitive hread, rfl⟩
  | seq_nil => exact ⟨_, .seq_nil, rfl⟩
  | choice_nil => exact ⟨_, .choice_nil, rfl⟩
  | seq_failed _ ih =>
    obtain ⟨_, ih, heq⟩ := ih (hagrees.operand List.mem_cons_self)
    exact ⟨_, .seq_failed ih, heq⟩
  | seq_next _ _ ih ih' =>
    obtain ⟨_, ih, heq⟩ := ih (hagrees.operand List.mem_cons_self)
    obtain ⟨_, ih', heq'⟩ := ih' (hagrees.of_operands (List.subset_cons_self _ _) nofun nofun)
    exact ⟨_, .seq_next ih ih', by rw [List.map_append, List.map_append, heq, heq']⟩
  | choice_first _ ih =>
    obtain ⟨_, ih, heq⟩ := ih (hagrees.operand List.mem_cons_self)
    exact ⟨_, .choice_first ih, heq⟩
  | choice_next _ _ ih ih' =>
    obtain ⟨_, ih, heq⟩ := ih (hagrees.operand List.mem_cons_self)
    obtain ⟨_, ih', heq'⟩ := ih' (hagrees.of_operands (List.subset_cons_self _ _) nofun nofun)
    exact ⟨_, .choice_next ih ih', by rw [List.map_append, List.map_append, heq, heq']⟩
  -- a lookahead wants itself, whatever was wanted inside
  | notAhead_failed _ ih =>
    obtain ⟨_, ih, -⟩ := ih (hagrees.operand List.mem_cons_self)
    exact ⟨_, .notAhead_failed ih, rfl⟩
  | notAhead_matched _ ih =>
    obtain ⟨_, ih, -⟩ := ih (hagrees.operand List.mem_cons_self)
    exact ⟨_, .notAhead_matched ih, rfl⟩
  | ahead_failed _ ih =>
    obtain ⟨_, ih, -⟩ := ih (hagrees.operand List.mem_cons_self)
    exact ⟨_, .ahead_failed ih, rfl⟩
  | ahead_matched _ ih =>
    obtain ⟨_, ih, -⟩ := ih (hagrees.operand List.mem_cons_self)
    exact ⟨_, .ahead_matched ih, rfl⟩
  | zeroOrMore_ended _ ih =>
    obtain ⟨_, ih, heq⟩ := ih (hagrees.operand List.mem_cons_self)
    exact ⟨_, .zeroOrMore_ended ih, heq⟩
  | zeroOrMore_next _ hlt _ ih ih' =>
    obtain ⟨_, ih, heq⟩ := ih (hagrees.operand List.mem_cons_self)
    obtain ⟨_, ih', heq'⟩ := ih' hagrees
    exact ⟨_, .zeroOrMore_next ih hlt ih', by rw [List.map_append, List.map_append, heq, heq']⟩
  | zeroOrMore_stalled hstalls _ hnot ih =>
    obtain ⟨_, ih, heq⟩ := ih (hagrees.operand List.mem_cons_self)
    exact ⟨_, .zeroOrMore_stalled hstalls ih hnot, heq⟩
  | oneOrMore_failed _ ih =>
    obtain ⟨_, ih, heq⟩ := ih (hagrees.operand List.mem_cons_self)
    exact ⟨_, .oneOrMore_failed ih, heq⟩
  | oneOrMore_next _ hlt _ ih ih' =>
    obtain ⟨_, ih, heq⟩ := ih (hagrees.operand List.mem_cons_self)
    obtain ⟨_, ih', heq'⟩ := ih' (hagrees.of_operands (List.Subset.refl _) nofun nofun)
    exact ⟨_, .oneOrMore_next ih hlt ih', by rw [List.map_append, List.map_append, heq, heq']⟩
  | oneOrMore_stalled hstalls _ hnot ih =>
    obtain ⟨_, ih, heq⟩ := ih (hagrees.operand List.mem_cons_self)
    exact ⟨_, .oneOrMore_stalled hstalls ih hnot, heq⟩
  | opt_taken _ ih =>
    obtain ⟨_, ih, heq⟩ := ih (hagrees.operand List.mem_cons_self)
    exact ⟨_, .opt_taken ih, heq⟩
  | opt_left _ ih =>
    obtain ⟨_, ih, heq⟩ := ih (hagrees.operand List.mem_cons_self)
    exact ⟨_, .opt_left ih, heq⟩
  | node_failed _ ih =>
    obtain ⟨_, ih, heq⟩ := ih (hagrees.operand List.mem_cons_self)
    exact ⟨_, .node_failed ih, heq⟩
  | @node_matched id operand pos stop tokens _ _ ih =>
    obtain ⟨_, ih, heq⟩ := ih (hagrees.operand List.mem_cons_self)
    -- the label of the token is the one thing that a name decides
    have htoken : scope.nodeToken input id pos stop tokens =
        scope'.nodeToken input id pos stop tokens := by
      rw [Scope.nodeToken, Scope.nodeToken, hagrees.name_eq id operand .refl]
    rw [htoken]
    exact ⟨_, .node_matched ih, heq⟩
  | recursive htarget _ ih =>
    obtain ⟨_, ih, heq⟩ := ih (hagrees.below (Rule.Reaches.refl.target htarget))
    exact ⟨_, .recursive (hagrees.target_eq ▸ htarget) ih, heq⟩

/-- How far a record of expectations has come depends on offsets alone. -/
theorem Failure.furthest_noteAll (f : Failure) (wants : List Want) :
    (f.noteAll wants).furthest = (wants.map Prod.fst).foldl max f.furthest := by
  induction wants generalizing f with
  | nil => rfl
  | cons want rest ih => rw [noteAll_cons, ih, furthest_note, List.map_cons, List.foldl_cons]

/-! ## Runs -/

namespace Parser

/-- The result of a run is found again in that of another one: the same token, or the same
error at the same offsets. What was expected there may be described differently. -/
inductive Persists : Except Breach (Except ParseError Token) →
    Except Breach (Except ParseError Token) → Prop where
  | found (token : Token) : Persists (.ok (.ok token)) (.ok (.ok token))
  | noMatch {failure failure' : Failure} :
      failure'.furthest = failure.furthest →
      Persists (.ok (.error (.noMatch failure))) (.ok (.error (.noMatch failure')))
  | incomplete {consumed : Nat} {failure failure' : Failure} :
      failure'.furthest = failure.furthest →
      Persists (.ok (.error (.incomplete consumed failure)))
        (.ok (.error (.incomplete consumed failure')))

theorem Persists.eq_of_found {result result' : Except Breach (Except ParseError Token)}
    {token : Token} (h : Persists result result') (hfound : result = .ok (.ok token)) :
    result' = .ok (.ok token) := by
  cases h with
  | found => exact hfound
  | noMatch | incomplete => cases hfound

/-- The verdicts on one outcome are the same but for descriptions, where no limit was met. -/
theorem verdict_persists {p : Parser} {st st' : ParseState} {cx cx' : Context}
    {matched matched' : Bool} (complete : Bool)
    (hname : scope'.name p.root.id = scope.name p.root.id)
    (hfatal : cx.fatal = none) (hfatal' : cx'.fatal = none)
    (hquiet : cx.quiet = 0) (hquiet' : cx'.quiet = 0)
    (hfurthest : cx'.failure.furthest = cx.failure.furthest)
    (hreal : outcome.Realized (.start input) matched st)
    (hreal' : outcome.Realized (.start input) matched' st') :
    Persists (p.verdict scope complete matched st cx)
      (p.verdict scope' complete matched' st' cx') := by
  cases hreal with
  | failed =>
    cases hreal' with
    | failed =>
      unfold verdict
      rw [hfatal, hfatal']
      exact .noMatch hfurthest
  | @matched tokens _ hext =>
    obtain ⟨rfl, hstop, hext'⟩ := hreal'.of_some
    obtain rfl : st' = st := hext'.unique hext hstop
    unfold verdict
    rw [hfatal, hfatal']
    by_cases hend : (complete && !st'.isAtEnd) = true
    · simp only [hend]
      refine .incomplete ?_
      rw [Context.failure_expect, Context.failure_expect, if_pos hquiet, if_pos hquiet',
        Failure.furthest_note, Failure.furthest_note, hfurthest]
    · obtain ⟨token, htoken, -⟩ := exists_rootToken scope p.root hext
      have htoken' : rootToken scope' p.root st' = .ok token := by
        rw [← htoken, rootToken, rootToken, hname]
      simp only [hend, htoken, htoken']
      exact .found token

/-- An application in a run that met no limit realizes what its root evaluates to. The
record of expectations has come as far as something was wanted. -/
theorem exists_evaluates_of_run (p : Parser) (hresolves : scope.Resolves p.root)
    (hidentifies : scope.Identifies p.root) {complete : Bool}
    (hlimit : ∀ error, (p.run scope input complete).result ≠ .ok (.error (.limit error))) :
    ∃ matched st cx outcome wants,
      (p.run scope input complete).result = p.verdict scope complete matched st cx ∧
      cx.fatal = none ∧ cx.quiet = 0 ∧
      Evaluates scope input True p.root 0 outcome wants ∧
      outcome.Realized (.start input) matched st ∧
      cx.failure.furthest = (wants.map Prod.fst).foldl max 0 := by
  obtain ⟨matched, st, cx, happly, hexec⟩ := p.exists_run hresolves input
  rw [p.run_eq_of_apply happly] at hlimit ⊢
  have hfatal : cx.fatal = none := fatal_eq_none_of_verdict hlimit
  obtain ⟨outcome, wants, heval, hreal, hfailure⟩ :=
    (hexec.adequate hidentifies .refl trivial (.start p.memoize input)
      (Context.Sound.start p.memoize) fun _ => trivial).2 hfatal
  refine ⟨matched, st, cx, outcome, wants, rfl, hfatal, hexec.frame.quiet_eq, heval 0, hreal, ?_⟩
  rw [hfailure]
  exact Failure.furthest_noteAll _ _

/-- Where scopes agree on the nodes below the root, and on the root itself, runs that meet
no limit end alike. -/
theorem run_renamed (p : Parser) (hagrees : scope.Agrees scope' p.root)
    (hname : scope'.name p.root.id = scope.name p.root.id) (hresolves : scope.Resolves p.root)
    (hidentifies : scope.Identifies p.root) (input : String) (complete : Bool)
    (hlimit : ∀ error, (p.run scope input complete).result ≠ .ok (.error (.limit error)))
    (hlimit' : ∀ error, (p.run scope' input complete).result ≠ .ok (.error (.limit error))) :
    Persists (p.run scope input complete).result (p.run scope' input complete).result := by
  obtain ⟨matched, st, cx, outcome, wants, hresult, hfatal, hquiet, heval, hreal, hfurthest⟩ :=
    p.exists_evaluates_of_run hresolves hidentifies hlimit
  obtain ⟨matched', st', cx', outcome', wants', hresult', hfatal', hquiet', heval', hreal',
      hfurthest'⟩ :=
    p.exists_evaluates_of_run (hagrees.resolves hresolves) (hagrees.identifies hidentifies) hlimit'
  obtain ⟨_, hrenamed, heq⟩ := heval.renamed hagrees
  obtain ⟨rfl, rfl⟩ := hrenamed.det heval'
  rw [hresult, hresult']
  refine verdict_persists complete hname hfatal hfatal' hquiet hquiet' ?_ hreal hreal'
  rw [hfurthest, hfurthest', heq]

/-- **A grammar that was built cannot be disturbed.** Whatever is registered later, with or
without success, and whichever rules it shares with the grammar: where the nodes below the
root have names, a parse finds the same token as before, or fails in the same way at the
same offsets, unless it meets a limit. -/
theorem run_undisturbed (hbuild : draft.build names = (.ok g, names'))
    (target : RuleId → String → Option Rule) (hresolves : (names'.scope target).Resolves g.root)
    (hidentifies : (names'.scope target).Identifies g.root)
    (hnamed : ∀ id operand, g.root.Reaches (names'.scope target) (.node id operand) →
      names'[id]?.isSome)
    (later : List Draft) (limits : Limits) (memoize : Bool) (input : String) (complete : Bool)
    (hbefore : ∀ error, (run ⟨g.root, limits, memoize⟩ (names'.scope target) input
      complete).result ≠ .ok (.error (.limit error)))
    (hafter : ∀ error, (run ⟨g.root, limits, memoize⟩
      ((Draft.namesAfter later names').scope target) input complete).result ≠
        .ok (.error (.limit error))) :
    Persists
      (run ⟨g.root, limits, memoize⟩ (names'.scope target) input complete).result
      (run ⟨g.root, limits, memoize⟩ ((Draft.namesAfter later names').scope target) input
        complete).result := by
  have hextends : names'.Extends (Draft.namesAfter later names') :=
    Draft.extends_namesAfter later names'
  exact run_renamed ⟨g.root, limits, memoize⟩ (hextends.agrees hnamed)
    (hextends.eq_of_isSome (Draft.isSome_root_of_build hbuild)) hresolves hidentifies input complete
    hbefore hafter

end Parser

namespace Quotation

/-- Dotted letters, which quotations have inside, and a draft that is refused. -/
def laterDrafts : List Draft := [⟨"dots", [("Dotted", dotted)], none⟩, ⟨"", [], none⟩]

/-- The names of quotations, and one more. -/
def dottedScope : Scope where
  name id := if id = 8 then some "Dotted" else Quotation.scope.name id
  target := Quotation.scope.target

/-- After the registration of quotations, this is what is known. -/
theorem scope_eq (hbound : ∀ registration ∈ Draft.quotation.rules,
      names'[registration.2.id]? = some registration.1)
    (hkept : ∀ id ∉ Draft.quotation.rules.map (·.2.id), names'[id]? = Draft.letterNamed[id]?) :
    names'.scope Quotation.scope.target = Quotation.scope := by
  refine congrArg (Scope.mk · Quotation.scope.target) (funext fun id => ?_)
  by_cases hmem : id ∈ Draft.quotation.rules.map (·.2.id)
  · obtain ⟨registration, hregistration, rfl⟩ := List.mem_map.1 hmem
    rw [hbound registration hregistration]
    simp only [Draft.quotation, List.mem_cons, List.not_mem_nil, or_false] at hregistration
    rcases hregistration with rfl | rfl <;> rfl
  · rw [hkept id hmem, Draft.letterNamed, Std.HashMap.getElem?_insert]
    by_cases hletter : id = 1
    · subst hletter
      rfl
    · rw [if_neg (by simpa using Ne.symm hletter), Std.HashMap.getElem?_empty]
      refine (List.lookup_eq_none_iff.2 ?_).symm
      simpa [Draft.quotation, text, quoted, Rule.id, hletter] using hmem

/-- The later drafts leave a name for dotted letters. -/
theorem scope_after_eq (hscope : names'.scope Quotation.scope.target = Quotation.scope) :
    (Draft.namesAfter laterDrafts names').scope Quotation.scope.target = dottedScope := by
  have hname (id : RuleId) : names'[id]? = Quotation.scope.name id :=
    congrFun (congrArg Scope.name hscope) id
  have hadmissible : (⟨"dots", [("Dotted", dotted)], none⟩ : Draft).Admissible names' := by
    constructor
    case bound_eq =>
      have hunnamed : Quotation.scope.name 8 = none := rfl
      simp [dotted, Rule.id, hname, hunnamed]
    case not_lacks =>
      refine fun registration hmem => Draft.not_lacks_iff.2 ?_
      obtain rfl := List.mem_singleton.1 hmem
      simp [dotted, letter, Rule.nodes, Rule.nodesAll, Draft.settles_iff, hname, Quotation.scope]
    all_goals simp
  obtain ⟨_, -, names₁, hbuild, -, -, -, hbound, hkept⟩ := hadmissible.build_eq
  have hrefused : (⟨"", [], none⟩ : Draft).build names₁ = (.error .emptyName, names₁) := rfl
  have hafter : Draft.namesAfter laterDrafts names' = names₁ := by
    simp only [Draft.namesAfter, laterDrafts, List.foldl_cons, List.foldl_nil, hbuild, hrefused]
  rw [hafter]
  refine congrArg (Scope.mk · Quotation.scope.target) (funext fun id => ?_)
  by_cases hid : id = 8
  · subst hid
    exact hbound ("Dotted", dotted) (List.mem_singleton_self _)
  · rw [if_neg hid, hkept id (by simpa [dotted, Rule.id] using hid), hname]

end Quotation

/-- A name for dotted letters, which stand inside quotations, does not disturb these. -/
theorem Parser.run_undisturbed_quotation :
    ∃ g names', Draft.quotation.build Draft.letterNamed = (.ok g, names') ∧
      (names'[8]? : Option String) = none ∧
      ((Draft.namesAfter Quotation.laterDrafts names')[8]? : Option String) = some "Dotted" ∧
      ∃ token,
        (run ⟨g.root, .standard, false⟩ (names'.scope Quotation.scope.target) "«é»" true).result =
          .ok (.ok token) ∧
        (run ⟨g.root, .standard, false⟩
          ((Draft.namesAfter Quotation.laterDrafts names').scope Quotation.scope.target) "«é»"
          true).result = .ok (.ok token) := by
  obtain ⟨registration, hmem, names', hbuild, -, hroot, -, hbound, hkept⟩ :=
    Draft.admissible_quotation.build_eq
  have hscope := Quotation.scope_eq hbound hkept
  have hafter := Quotation.scope_after_eq hscope
  obtain rfl : registration = ("Text", Quotation.text) := by
    have hname : registration.1 = "Text" := hroot "Text" rfl
    simp only [Draft.quotation, List.mem_cons, List.not_mem_nil, or_false] at hmem
    rcases hmem with rfl | rfl
    · rfl
    · exact absurd hname (by decide)
  have hfound : (run ⟨Quotation.text, .standard, false⟩ Quotation.scope "«é»" true).token?.isSome =
      true := by decide +kernel
  have hfound' : (run ⟨Quotation.text, .standard, false⟩ Quotation.dottedScope "«é»"
      true).token?.isSome = true := by decide +kernel
  have hnamed : ∀ id operand, Quotation.text.Reaches Quotation.scope (.node id operand) →
      (Quotation.scope.name id).isSome := by
    intro id operand hreaches
    have hmem := Quotation.closes.mem_of_reaches List.mem_cons_self hreaches
    simp only [Quotation.rules, Quotation.text, Quotation.quoted, Quotation.dotted,
      Quotation.letter, List.mem_cons, List.not_mem_nil, reduceCtorEq, or_false, false_or,
      Rule.node.injEq] at hmem
    rcases hmem with ⟨rfl, -⟩ | ⟨rfl, -⟩ <;> rfl
  have hname (id : RuleId) : names'[id]? = Quotation.scope.name id :=
    congrFun (congrArg Scope.name hscope) id
  have hpersists := run_undisturbed hbuild Quotation.scope.target (by
      rw [hscope]
      exact Quotation.resolves) (by
      rw [hscope]
      exact Quotation.identifies) (fun id operand hreaches => by
      rw [hscope] at hreaches
      rw [hname]
      exact hnamed id operand hreaches) Quotation.laterDrafts .standard false "«é»" true (by
      rw [hscope]
      exact Report.result_ne_limit hfound) (by
      rw [hafter]
      exact Report.result_ne_limit hfound')
  refine ⟨_, names', hbuild, hname 8,
    congrFun (congrArg Scope.name hafter) 8, ?_⟩
  rw [hscope, hafter] at hpersists ⊢
  obtain ⟨token, htoken⟩ := Report.exists_of_isSome hfound
  exact ⟨token, htoken, hpersists.eq_of_found htoken⟩

end Packrat
