import Packrat.Proofs.JsonReading
import Packrat.Proofs.Parsing

/-!
# Parsing JSON documents

The grammar of JSON values in the catalog accepts the language of JSON documents,
whatever limits a parse has and whether it remembers outcomes.

- `JsonValue.run_document`: a document is parsed to the tree of its value.
- `JsonValue.exists_document`: what a run finds is the tree of a document.
- `JsonValue.run_decides`: a run decides whether its input is a document, up to limits.
- `JsonValue.run_language`: a run that meets no limit succeeds on documents and matches
  nothing else.
-/

namespace Packrat

namespace JsonValue

open Lexical

/-- The text of a token is what the text of its phrase is. -/
theorem Spells.exists_branch {kind : Kind} {tree : Tree} {text : List Char}
    (h : Spells (.one kind tree) text) : ∃ name children, tree = branch name text children := by
  cases h <;> exact ⟨_, _, rfl⟩

/-- The tree of a document is the tree of its value if there are no blanks around it. -/
theorem Spells.root_eq {before value after : List Char} {tree : Tree}
    (h : Spells (.one .value tree) value) :
    Tree.root "Json" (String.ofList (before ++ (value ++ after))) [tree] =
      if before = [] ∧ after = [] then tree
      else .mk "Json" (String.ofList (before ++ (value ++ after))) [tree] := by
  obtain ⟨name, children, rfl⟩ := h.exists_branch
  have hcovers : String.ofList value = String.ofList (before ++ (value ++ after)) ↔
      before = [] ∧ after = [] := by
    rw [String.ofList_inj]
    constructor
    · intro heq
      have hlen := congrArg List.length heq
      simp only [List.length_append] at hlen
      exact ⟨List.eq_nil_of_length_eq_zero (by omega), List.eq_nil_of_length_eq_zero (by omega)⟩
    · rintro ⟨rfl, rfl⟩
      simp
  simp only [Tree.root, branch, hcovers]

/-- A document is parsed to the tree of its value, or to a `Json` tree around it. -/
theorem run_document {r : Rules} (hmakes : rules.Makes r) {scope : Scope}
    (hknows : scope.Knows r.draft.rules) (hresolves : scope.Resolves r.json)
    (hidentifies : scope.Identifies r.json) (limits : Limits) (memoize complete : Bool)
    {before value after : List Char} {tree : Tree} (hbefore : Blank before) (hafter : Blank after)
    (hvalue : Spells (.one .value tree) value) {input : String}
    (hinput : input.toList = before ++ (value ++ after)) :
    (∃ error, (Parser.run ⟨r.json, limits, memoize⟩ scope input complete).result =
      .ok (.error (.limit error))) ∨
    ∃ token, (Parser.run ⟨r.json, limits, memoize⟩ scope input complete).result = .ok (.ok token) ∧
      token.tree = Tree.root "Json" input [tree] := by
  have hreads : Reads scope r.json input.toList [] [tree] :=
    hinput ▸ (composed hmakes).reads_document hknows hbefore hafter hvalue
  have hname : scope.name r.json.id = some "Json" :=
    hknows.name_eq ("Json", r.json) (by simp [Rules.draft])
  have hrun := Parser.run_of_reads ⟨r.json, limits, memoize⟩ hresolves hidentifies hreads complete
  rwa [hname] at hrun

/-- What a run finds is the tree of a document. -/
theorem exists_document {r : Rules} (hmakes : rules.Makes r) {scope : Scope}
    (hknows : scope.Knows r.draft.rules) (hresolves : scope.Resolves r.json)
    (hidentifies : scope.Identifies r.json) {limits : Limits} {memoize complete : Bool}
    {input : String} {token : Token}
    (hrun : (Parser.run ⟨r.json, limits, memoize⟩ scope input complete).result = .ok (.ok token)) :
    ∃ before value after tree, Blank before ∧ Blank after ∧ Spells (.one .value tree) value ∧
      input.toList = before ++ (value ++ after) ∧ token.tree = Tree.root "Json" input [tree] := by
  obtain ⟨read, rest, hinput, hread⟩ := Parser.generates_of_run _ hresolves hidentifies hrun
  obtain ⟨⟨before, value, after, tree, hbefore, hafter, hvalue, rfl⟩, rfl⟩ :=
    (composed hmakes).document_of_generates hknows hread
  rw [List.append_nil] at hinput
  rcases run_document hmakes hknows hresolves hidentifies limits memoize complete hbefore hafter
    hvalue hinput with ⟨error, hlimit⟩ | ⟨found, hfound, htree⟩
  · rw [hlimit] at hrun
    cases hrun
  · rw [hfound] at hrun
    cases hrun
    exact ⟨before, value, after, tree, hbefore, hafter, hvalue, hinput, htree⟩

/-- A run decides whether its input is a document, up to limits. -/
theorem run_decides {r : Rules} (hmakes : rules.Makes r) {scope : Scope}
    (hknows : scope.Knows r.draft.rules) (hresolves : scope.Resolves r.json)
    (hidentifies : scope.Identifies r.json) (limits : Limits) (memoize complete : Bool)
    (input : String) :
    (∃ error, (Parser.run ⟨r.json, limits, memoize⟩ scope input complete).result =
      .ok (.error (.limit error))) ∨
    (Document input.toList ∧ ∃ token,
      (Parser.run ⟨r.json, limits, memoize⟩ scope input complete).result = .ok (.ok token)) ∨
    (¬Document input.toList ∧ ∃ failure,
      (Parser.run ⟨r.json, limits, memoize⟩ scope input complete).result =
        .ok (.error (.noMatch failure))) := by
  refine Parser.run_decides ⟨r.json, limits, memoize⟩ hresolves hidentifies ?_ ?_ input complete
  · rintro text ⟨before, value, after, tree, hbefore, hafter, hvalue, rfl⟩
    exact ⟨[tree], (composed hmakes).reads_document hknows hbefore hafter hvalue⟩
  · intro read rest hread
    exact (composed hmakes).document_of_generates hknows hread

/-- **The JSON grammar accepts exactly its language.** A run meets a limit, or succeeds
on a document, or matches nothing where there is no document. -/
theorem run_language :
    ∃ g, Catalog.standard.find? "json" = some g ∧
      ∀ (limits : Limits) (memoize complete : Bool) (input : String),
        let result := (Parser.run ⟨g.root, limits, memoize⟩ Catalog.standard.scope input complete).result
        (∃ error, result = .ok (.error (.limit error))) ∨
          (Document input.toList ∧ ∃ token, result = .ok (.ok token)) ∨
          (¬Document input.toList ∧ ∃ failure, result = .ok (.error (.noMatch failure))) := by
  obtain ⟨r, g, hmakes, hfind, hroot, hknows, hresolves, hidentifies⟩ := Catalog.exists_json
  refine ⟨g, hfind, fun limits memoize complete input => ?_⟩
  rw [hroot]
  exact run_decides hmakes hknows hresolves hidentifies limits memoize complete input

end JsonValue

end Packrat
