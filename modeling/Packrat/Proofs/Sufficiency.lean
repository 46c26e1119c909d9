import Packrat.Proofs.ArithmeticDepth
import Packrat.Proofs.ArithmeticWork
import Packrat.Proofs.JsonRoundTrip
import Packrat.Proofs.Memoization

/-!
# Limits that suffice

Whether a run meets a limit is found out by running it, but with the two grammars of the catalog
it can be told from the input. What is spent on it bounds the fuel that is asked for, and how
deep it is nested bounds what is open at once, so a run with this much of both is never
abandoned, and the question whether an input is a document has an answer.

For inputs that are no documents nothing is known of their nesting. There no more can be open
than has been applied, so what bounds the fuel bounds the recursion as well.

- `Limits.Suffice`: the limits leave room for so many applications, and for so many at once.
- `Parser.result_ne_limit_of_spends`, `Parser.Within.result_ne_limit_of_spends`: runs that
  sufficient limits leave alone.
- `JsonValue.run_decides_documents`, `Arithmetic.run_decides_documents`: a run decides whether its
  input is in the language.
- `JsonValue.run_reads_back`, `Arithmetic.run_reads_back`: what is written is parsed and read back.
-/

namespace Packrat

/-- The limits leave room for `work` applications, `depth` of them open at once. -/
structure Limits.Suffice (limits : Limits) (work depth : Nat) : Prop where
  fuel : ∀ fuel, limits.execFuel = some fuel → work ≤ fuel.toNat
  recursion : depth ≤ limits.recursionLimit.toNat

/-- No more applications are open than have been made. -/
theorem Trace.length_opened_le_applications (events : List Event) :
    (opened events).length ≤ (applications events).length := by
  induction events using List.reverseRecOn with
  | nil => exact Nat.le_refl 0
  | append_singleton before event ih =>
    cases event with
    | enter rule pos =>
      rw [opened_enter, applications_enter, List.length_cons, List.length_append]
      exact Nat.succ_le_succ ih
    | exit =>
      rw [opened_append, applications_append, List.length_append]
      exact Nat.le_trans (List.tail_sublist _).length_le (Nat.le_trans ih (Nat.le_add_right ..))
    | token | backtrack | memoHit | stalled | resolved =>
      rw [opened_append, applications_append, List.length_append]
      exact Nat.le_trans ih (Nat.le_add_right ..)

/-! ## Runs that are not abandoned -/

namespace Parser

variable {scope : Scope} {root : Rule} {limits : Limits} {input : String} {work depth : Nat}

/-- A run whose nesting is known meets no limit that leaves room for it. -/
theorem Within.result_ne_limit_of_spends (h : Within root scope input depth)
    (hresolves : scope.Resolves root)
    (hwork : ∀ {ending n}, Spends scope root input.toList ending n → n ≤ work)
    (hlimits : limits.Suffice work depth) (complete : Bool) (error : LimitError) :
    (Parser.run ⟨root, limits, false⟩ scope input complete).result ≠
      .ok (.error (.limit error)) := by
  intro hresult
  obtain ⟨fuel, rfl, -⟩ := h.recursion limits false complete hlimits.recursion error hresult
  exact run_ne_execFuel hresolves hwork hlimits.fuel hresult

/-- A run whose fuel is just what its root rule may spend meets no limit, if as many applications
may be open. -/
theorem result_ne_limit_of_exact {fuel : UInt32} (hresolves : scope.Resolves root)
    (hwork : ∀ {ending n}, Spends scope root input.toList ending n → n ≤ fuel.toNat)
    (hexact : limits.execFuel = some fuel) (hrecursion : fuel.toNat ≤ limits.recursionLimit.toNat)
    (complete : Bool) (error : LimitError) :
    (Parser.run ⟨root, limits, false⟩ scope input complete).result ≠
      .ok (.error (.limit error)) := by
  intro hresult
  cases error with
  | execFuel limit =>
    refine run_ne_execFuel hresolves hwork ?_ hresult
    intro fuel' hfuel'
    rw [hexact] at hfuel'
    cases hfuel'
    exact Nat.le_refl _
  | recursion limit =>
    obtain ⟨matched, st, cx, happly, hexec⟩ :=
      Parser.exists_run ⟨root, limits, false⟩ hresolves input
    rw [Parser.run_eq_of_apply _ happly] at hresult
    obtain ⟨rule, st₁, cx₁, hcall, -, hmet⟩ := hexec.meets rfl (fatal_of_verdict_limit hresult)
    have hcounted : cx₁.Counted := hcall.preserves (Context.Counted.invariant _) (.start false)
    rcases hcounted.limitMet?_cases limits with ⟨error, herror, hrefuses⟩ | ⟨hnone, -⟩
    · rw [hmet] at herror
      cases herror
      -- fuel is looked at first, and all that is open has been paid for
      cases hrefuses with
      | recursion hpaid hopened =>
        have hlt := hpaid fuel hexact
        have hle := Trace.length_opened_le_applications cx₁.trace
        omega
    · rw [hmet] at hnone
      cases hnone

/-- Limits that are not met are not met when they are wider. -/
theorem result_ne_limit_of_le {memoize complete : Bool} {wider : Limits}
    (hresolves : scope.Resolves root)
    (hfuel : ∀ more, wider.execFuel = some more →
      ∃ fuel, limits.execFuel = some fuel ∧ fuel.toNat ≤ more.toNat)
    (hrecursion : limits.recursionLimit.toNat ≤ wider.recursionLimit.toNat)
    (h : ∀ error, (Parser.run ⟨root, limits, memoize⟩ scope input complete).result ≠
      .ok (.error (.limit error))) (error : LimitError) :
    (Parser.run ⟨root, wider, memoize⟩ scope input complete).result ≠
      .ok (.error (.limit error)) := by
  obtain ⟨matched, st, cx, happly, hexec⟩ :=
    Parser.exists_run ⟨root, limits, memoize⟩ hresolves input
  rw [Parser.run_eq_of_apply _ happly] at h
  have hfatal : cx.fatal = none := fatal_eq_none_of_verdict h
  obtain ⟨-, hadmits⟩ :=
    hexec.preserves (Limits.Admits.invariant _) ⟨.start memoize, .nil limits⟩
  have hwider : wider.Admits cx.trace := by
    constructor
    · intro more hmore
      obtain ⟨fuel, hlimit, hle⟩ := hfuel more hmore
      exact Nat.le_trans (hadmits.fuel fuel hlimit) hle
    · intro before rule pos hbefore
      exact Nat.lt_of_lt_of_le (hadmits.recursion before rule pos hbefore) hrecursion
  have hsame := hexec.admitted hfatal (.start memoize) hwider
  rw [Parser.run_eq_of_apply _ ((apply_eq_ok_iff (Nat.le_add_right _ _)).2 hsame)]
  intro hresult
  have hmet := fatal_of_verdict_limit hresult
  rw [hfatal] at hmet
  cases hmet

/-- **Where no more is spent than may be open at once, no limit is met**, however deep rules are
applied. -/
theorem result_ne_limit_of_spends (hresolves : scope.Resolves root)
    (hwork : ∀ {ending n}, Spends scope root input.toList ending n → n ≤ work)
    (hlimits : limits.Suffice work work) (complete : Bool) (error : LimitError) :
    (Parser.run ⟨root, limits, false⟩ scope input complete).result ≠
      .ok (.error (.limit error)) := by
  -- with just this much fuel the run is not abandoned, and the limits are as wide at least
  have hsize : (UInt32.ofNat work).toNat = work :=
    UInt32.toNat_ofNat_of_lt (Nat.lt_of_le_of_lt hlimits.recursion limits.recursionLimit.toNat_lt)
  rw [← hsize] at hwork hlimits
  let exact : Limits := ⟨some (.ofNat work), limits.recursionLimit⟩
  have hrecursion : (UInt32.ofNat work).toNat ≤ exact.recursionLimit.toNat := hlimits.recursion
  have hexact : ∀ error, (Parser.run ⟨root, exact, false⟩ scope input complete).result ≠
      .ok (.error (.limit error)) :=
    result_ne_limit_of_exact hresolves hwork rfl hrecursion complete
  refine result_ne_limit_of_le hresolves ?fuel ?recursion hexact error
  case fuel => exact fun more hmore => ⟨_, rfl, hlimits.fuel more hmore⟩
  case recursion => exact Nat.le_refl _

/-- What holds of the run that remembers no outcomes holds of the one that does. -/
theorem result_ne_limit_of_plain {complete : Bool} (hresolves : scope.Resolves root)
    (hidentifies : scope.Identifies root)
    (h : ∀ error, (Parser.run ⟨root, limits, false⟩ scope input complete).result ≠
      .ok (.error (.limit error))) (memoize : Bool) (error : LimitError) :
    (Parser.run ⟨root, limits, memoize⟩ scope input complete).result ≠
      .ok (.error (.limit error)) := by
  rw [result_memoize ⟨root, limits, memoize⟩ hresolves hidentifies input complete h]
  exact h error

end Parser

namespace Linear

variable {scope : Scope} {root : Rule} {limits : Limits} {input : String} {s depth : Nat}
  {most debt : Int} {stops : List Char → Prop}

/-- Limits that leave room for the budget of the root rule, open at once if need be, are not met,
whether outcomes are remembered or not. -/
theorem result_ne_limit (h : Linear scope s most debt stops root input.toList) (hmost : most ≤ s)
    (hresolves : scope.Resolves root) (hidentifies : scope.Identifies root)
    (hlimits : limits.Suffice (s * (input.utf8ByteSize + 1)) (s * (input.utf8ByteSize + 1)))
    (memoize complete : Bool) : ∀ error,
    (Parser.run ⟨root, limits, memoize⟩ scope input complete).result ≠
      .ok (.error (.limit error)) := by
  have hplain := Parser.result_ne_limit_of_spends hresolves (h.le_of_spends hmost) hlimits complete
  exact Parser.result_ne_limit_of_plain hresolves hidentifies hplain memoize

/-- Where it is known how deep rules are applied, the limits need not leave more room than that. -/
theorem result_ne_limit_of_within (h : Linear scope s most debt stops root input.toList)
    (hmost : most ≤ s) (hresolves : scope.Resolves root) (hidentifies : scope.Identifies root)
    (hwithin : Parser.Within root scope input depth)
    (hlimits : limits.Suffice (s * (input.utf8ByteSize + 1)) depth) (memoize complete : Bool) :
    ∀ error, (Parser.run ⟨root, limits, memoize⟩ scope input complete).result ≠
      .ok (.error (.limit error)) := by
  have hplain := hwithin.result_ne_limit_of_spends hresolves (h.le_of_spends hmost) hlimits complete
  exact Parser.result_ne_limit_of_plain hresolves hidentifies hplain memoize

end Linear

/-! ## JSON documents -/

namespace JsonValue

open Lexical

/-- **The JSON grammar decides its language.** With room for 256 applications for each byte of the
input and as many besides, all of them open at once if need be, a run succeeds on documents,
matches nothing where there is no document, and does not end in another way. -/
theorem run_decides_documents :
    ∃ g, Catalog.standard.find? "json" = some g ∧
      ∀ (limits : Limits) (memoize complete : Bool) (input : String),
        limits.Suffice (256 * (input.utf8ByteSize + 1)) (256 * (input.utf8ByteSize + 1)) →
          let result :=
            (Parser.run ⟨g.root, limits, memoize⟩ Catalog.standard.scope input complete).result
          (Document input.toList ∧ ∃ token, result = .ok (.ok token)) ∨
            (¬Document input.toList ∧ ∃ failure, result = .ok (.error (.noMatch failure))) := by
  obtain ⟨r, g, hmakes, hfind, hroot, hknows, hresolves, hidentifies⟩ := Catalog.exists_json
  refine ⟨g, hfind, ?_⟩
  intro limits memoize complete input hlimits
  rw [hroot]
  have hnone := ((composed hmakes).linear_json hknows).result_ne_limit (by decide) hresolves
    hidentifies hlimits memoize complete
  rcases run_decides hmakes hknows hresolves hidentifies limits memoize complete input with
    ⟨error, hlimit⟩ | hdecided
  · exact absurd hlimit (hnone error)
  · exact hdecided

/-- **What is written is read back.** However a value is written, with objects and arrays nested at
most `k` deep: with fuel for 256 applications for each byte and as many besides, if there is a
bound on it, and a recursion limit of at least `11 * k + 11`, a run finds the tree that mirrors
the value, and the value can be read off. -/
theorem run_reads_back {value : Value} {tree : Tree} {before text after : List Char} {k : Nat}
    (hbefore : Blank before) (hafter : Blank after)
    (hwrites : Writes (.value value) (.one .value tree) text)
    (hk : tree.nesting containers ≤ k) :
    ∃ g, Catalog.standard.find? "json" = some g ∧
      ∀ (limits : Limits) (memoize complete : Bool),
        let input := String.ofList (before ++ (text ++ after))
        limits.Suffice (256 * (input.utf8ByteSize + 1)) (11 * k + 11) →
          ∃ token,
            (Parser.run ⟨g.root, limits, memoize⟩ Catalog.standard.scope input complete).result =
              .ok (.ok token) ∧
            token.tree = (if before = [] ∧ after = [] then tree else .mk "Json" input [tree]) ∧
            decode token.tree = some value := by
  obtain ⟨r, g, hmakes, hfind, hroot, hknows, hresolves, hidentifies⟩ := Catalog.exists_json
  refine ⟨g, hfind, ?_⟩
  intro limits memoize complete input hlimits
  rw [hroot]
  obtain ⟨hwithin, -⟩ := within_of_spells hmakes hknows hresolves hidentifies hbefore hafter
    hwrites.spells String.toList_ofList hk
  have hnone := ((composed hmakes).linear_json hknows).result_ne_limit_of_within (by decide)
    hresolves hidentifies hwithin hlimits memoize complete
  rcases run_written hmakes hknows hresolves hidentifies limits memoize complete hbefore hafter
    hwrites with ⟨error, hlimit⟩ | hfound
  · exact absurd hlimit (hnone error)
  · exact hfound

end JsonValue

/-! ## Arithmetic expressions -/

namespace Arithmetic

open Lexical

/-- **The arithmetic grammar decides its language.** With room for 64 applications for each byte
of the input and as many besides, all of them open at once if need be, a run succeeds on
documents, matches nothing where there is no document, and does not end in another way. -/
theorem run_decides_documents :
    ∃ g, Catalog.standard.find? "arithmetic" = some g ∧
      ∀ (limits : Limits) (memoize complete : Bool) (input : String),
        limits.Suffice (64 * (input.utf8ByteSize + 1)) (64 * (input.utf8ByteSize + 1)) →
          let result :=
            (Parser.run ⟨g.root, limits, memoize⟩ Catalog.standard.scope input complete).result
          (Document input.toList ∧ ∃ token, result = .ok (.ok token)) ∨
            (¬Document input.toList ∧ ∃ failure, result = .ok (.error (.noMatch failure))) := by
  obtain ⟨r, g, hmakes, hfind, hroot, -, hknows, hresolves, hidentifies⟩ :=
    Catalog.exists_arithmetic
  refine ⟨g, hfind, ?_⟩
  intro limits memoize complete input hlimits
  rw [hroot]
  have hnone := ((composed hmakes).linear_arithmetic hknows).result_ne_limit (by decide) hresolves
    hidentifies hlimits memoize complete
  rcases run_decides hmakes hknows hresolves hidentifies limits memoize complete input with
    ⟨error, hlimit⟩ | hdecided
  · exact absurd hlimit (hnone error)
  · exact hdecided

/-- **What is written is read back.** However an expression is written, with numerals in at most
`n` parentheses and operators: with fuel for 64 applications for each byte and as many besides,
if there is a bound on it, and a recursion limit of at least `7 * n + 16`, a run finds the tree
that mirrors the expression, which is faithful, and the expression can be read off. -/
theorem run_reads_back {before body : List Char} {e : Expression} {tree : Tree} {n : Nat}
    (hbefore : Blank before) (hbody : Writes (.expression e tree) body) (hn : e.nesting ≤ n) :
    ∃ g, Catalog.standard.find? "arithmetic" = some g ∧
      ∀ (limits : Limits) (memoize complete : Bool),
        let input := String.ofList (before ++ body)
        limits.Suffice (64 * (input.utf8ByteSize + 1)) (7 * n + 16) →
          ∃ token,
            (Parser.run ⟨g.root, limits, memoize⟩ Catalog.standard.scope input complete).result =
              .ok (.ok token) ∧
            token.tree = (if before = [] then tree else .mk "Arithmetic" input [tree]) ∧
            decode token.tree = some e ∧ Faithful input token := by
  obtain ⟨r, g, hmakes, hfind, hroot, hclosed, hknows, hresolves, hidentifies⟩ :=
    Catalog.exists_arithmetic
  refine ⟨g, hfind, ?_⟩
  intro limits memoize complete input hlimits
  rw [hroot]
  obtain ⟨hwithin, -⟩ := within_of_writes hmakes hknows hresolves hidentifies hbefore hbody
    String.toList_ofList hn
  have hnone := ((composed hmakes).linear_arithmetic hknows).result_ne_limit_of_within (by decide)
    hresolves hidentifies hwithin hlimits memoize complete
  rcases run_written hmakes hknows hresolves hidentifies limits memoize complete hbefore hbody with
    ⟨error, hlimit⟩ | ⟨token, htoken, htree, hdecode⟩
  · exact absurd hlimit (hnone error)
  · have hfaithful := faithful_of_run hmakes hknows hresolves hidentifies htoken hclosed
    exact ⟨token, htoken, htree, hdecode, hfaithful⟩

end Arithmetic

end Packrat
