import Packrat.Proofs.JsonDocuments
import Packrat.Proofs.Spacing

/-!
# Blanks in JSON documents

Blanks may be inserted in a document anywhere but inside its strings, numbers and words.

- `JsonValue.Spells.stretches`: with blanks inserted, the text of a phrase is one of a
  phrase with the same outline.
- `JsonValue.ignoresBlanks`: so blanks mean nothing to the rule of documents.
-/

namespace Packrat

namespace JsonValue

open Lexical
open Text (Firm Stretches)

/-- The names of the tokens that are lexemes. -/
def lexemeNames : List String := ["String", "Float", "Integer", "True", "False", "Null"]

/-- Whether `c` may stand between lexemes: a blank, or a mark of containers and pairs. -/
def isBetween (c : Char) : Bool := isBlank c || [',', ':', '[', ']', '\x7b', '\x7d'].contains c

theorem isBetween_of_isBlank {c : Char} (h : isBlank c = true) : isBetween c = true := by
  rw [isBetween, h, Bool.true_or]

theorem isBetween_of_isFigure {c : Char} (h : isFigure c = true) : isBetween c = false := by
  by_contra hnot
  simp only [isBetween, isBlank, Bool.not_eq_false, Bool.or_eq_true, beq_iff_eq,
    List.contains_iff_mem, List.mem_cons, List.not_mem_nil, or_false] at hnot
  rcases hnot with (((rfl | rfl) | rfl) | rfl) | rfl | rfl | rfl | rfl | rfl | rfl <;> cases h

theorem Kind.isBetween_opening (kind : Kind) : isBetween kind.opening = true := by
  cases kind <;> rfl

theorem Kind.isBetween_closing (kind : Kind) : isBetween kind.closing = true := by
  cases kind <;> rfl

theorem Kind.container_not_lexeme (kind : Kind) : lexemeNames.contains kind.container = false := by
  cases kind <;> rfl

theorem StringText.firm {text : List Char} (h : StringText text) : Firm isBetween text := by
  rcases h with ⟨units, -, rfl⟩ | ⟨units, -, rfl⟩ <;>
    exact ⟨⟨_, _, rfl, rfl⟩, _ :: units, _, rfl, rfl⟩

theorem firm_number {sign digits fraction power : List Char}
    (hsign : Optionally (· = ['-']) sign) (hdigits : Digits digits)
    (hfraction : Optionally Fraction fraction) (hpower : Optionally Exponent power) :
    Firm isBetween (sign ++ (digits ++ (fraction ++ power))) := by
  refine .of_forall (by simp [hdigits.1]) fun c hc => isBetween_of_isFigure ?_
  refine List.forall_mem_append.2 ⟨hsign.forall ?_, figures_number hdigits hfraction hpower⟩ c hc
  rintro rfl
  exact List.forall_mem_singleton.2 rfl

/-- A word is a lexeme. -/
theorem lexeme_word {name text : String} (h : (name, text) ∈ words) :
    lexemeNames.contains name = true ∧ Firm isBetween text.toList := by
  simp only [words, List.mem_cons, Prod.mk.injEq, List.not_mem_nil, or_false] at h
  rcases h with ⟨rfl, rfl⟩ | ⟨rfl, rfl⟩ | ⟨rfl, rfl⟩
  · exact ⟨rfl, ⟨_, _, rfl, rfl⟩, ['t', 'r', 'u'], 'e', rfl, rfl⟩
  · exact ⟨rfl, ⟨_, _, rfl, rfl⟩, ['f', 'a', 'l', 's'], 'e', rfl, rfl⟩
  · exact ⟨rfl, ⟨_, _, rfl, rfl⟩, ['n', 'u', 'l'], 'l', rfl, rfl⟩

/-! ## Wider phrases -/

namespace Phrase

/-- The lexemes of a phrase, in order. -/
def lexemes : Phrase → List (List Char)
  | one _ tree => Tree.lexemes lexemeNames [tree]
  | several _ trees => Tree.lexemes lexemeNames trees

/-- The text is one of a phrase with the same outline. Blanks behind an item are not part
of it. -/
def Widens : Phrase → List Char → Prop
  | one kind tree, wide => ∃ tree' item blank, Spells (.one kind tree') item ∧ Blank blank ∧
      wide = item ++ blank ∧ tree'.outline lexemeNames = tree.outline lexemeNames
  | several kind trees, wide => ∃ trees', Spells (.several kind trees') wide ∧
      Tree.outlineAll lexemeNames trees' = Tree.outlineAll lexemeNames trees

end Phrase

variable {gaps : Nat → List Char} {phrase : Phrase} {text : List Char} {tree : Tree}
  {trees : List Tree}

theorem lexemes_container {kind : Kind} :
    Phrase.lexemes (.one .value (branch kind.container text trees)) =
      Tree.lexemes lexemeNames trees :=
  Tree.lexemes_mk kind.container_not_lexeme

theorem lexemes_pair {key text : List Char} :
    Phrase.lexemes (.one .pair (branch "Pair" text [branch "String" key [], tree])) =
      key :: Tree.lexemes lexemeNames [tree] := by
  rw [Phrase.lexemes, branch, Tree.lexemes_mk rfl, branch, Tree.lexemes_leaf rfl,
    String.toList_ofList]

/-- A value that is a lexeme. -/
theorem stretches_lexeme {name : String} (hgaps : ∀ offset, Blank (gaps offset))
    (hname : lexemeNames.contains name = true) (hfirm : Firm isBetween text)
    (h : Spells (.one .value (branch name text [])) text) :
    Stretches isBetween gaps (Phrase.lexemes (.one .value (branch name text []))) text
      (Phrase.Widens (.one .value (branch name text []))) := by
  have hnone : Blank [] := List.forall_mem_nil _
  have hlexeme := Stretches.firm hgaps (fun _ => isBetween_of_isBlank) hfirm hnone
  refine hlexeme.imp ?_ (List.append_nil _) ?_
  · rw [Phrase.lexemes, branch, Tree.lexemes_leaf hname, String.toList_ofList]
    rfl
  · rintro wide ⟨blank, hblank, rfl⟩
    exact ⟨_, text, blank, h, hblank, rfl, rfl⟩

/-- **Phrases stretch**: with blanks inserted outside its lexemes, the text of a phrase is
one of a phrase with the same outline. -/
theorem Spells.stretches (hgaps : ∀ offset, Blank (gaps offset)) (h : Spells phrase text) :
    Stretches isBetween gaps phrase.lexemes text phrase.Widens := by
  have hbetween : ∀ c, isBlank c = true → isBetween c = true := fun _ => isBetween_of_isBlank
  have hmark {c : Char} (hc : isBetween c = true) {blank : List Char} (hblank : Blank blank) :=
    Stretches.mark hgaps hbetween hc hblank
  have hclosing (kind : Kind) := hmark kind.isBetween_closing (List.forall_mem_nil _)
  -- by induction on how the text is spelled: each part takes the blanks behind it, and the last
  -- one leaves those behind the phrase
  induction h with
  | string htext => exact stretches_lexeme hgaps rfl htext.firm (.string htext)
  | @integer sign digits hsign hdigits =>
    have hfirm := firm_number hsign hdigits (.inl rfl) (.inl rfl)
    simp only [List.append_nil] at hfirm
    exact stretches_lexeme hgaps rfl hfirm (.integer hsign hdigits)
  | float hsign hdigits hfraction hpower hsome =>
    exact stretches_lexeme hgaps rfl (firm_number hsign hdigits hfraction hpower)
      (.float hsign hdigits hfraction hpower hsome)
  | @word name text hword =>
    obtain ⟨hname, hfirm⟩ := lexeme_word hword
    exact stretches_lexeme hgaps hname hfirm (.word hword)
  | @empty kind blank hblank =>
    refine ((hmark kind.isBetween_opening hblank).append (hclosing kind)).imp ?_ (by simp) ?_
    · rw [lexemes_container]
      rfl
    · rintro wide ⟨_, _, ⟨blank', hblank', rfl⟩, ⟨behind, hbehind, rfl⟩, rfl⟩
      have hvalue := @Spells.empty kind _ hblank'
      exact ⟨_, _, behind, hvalue, hbehind, by simp, Tree.outline_eq kind.container_not_lexeme rfl⟩
  | @filled kind blank items trees hblank _ ih =>
    refine ((hmark kind.isBetween_opening hblank).append
      (ih.append (hclosing kind))).imp ?_ (by simp) ?_
    · rw [List.nil_append, List.append_nil, lexemes_container]
      rfl
    · rintro wide ⟨_, _, ⟨blank', hblank', rfl⟩, ⟨items', _, ⟨trees', hitems', houtline⟩,
        ⟨behind, hbehind, rfl⟩, rfl⟩, rfl⟩
      exact ⟨_, _, behind, .filled hblank' hitems', hbehind, by simp,
        Tree.outline_eq kind.container_not_lexeme houtline⟩
  | @pair key blank blank' value tree hkey hblank hblank' _ ih =>
    have hcolon : isBetween ':' = true := rfl
    refine ((Stretches.firm hgaps hbetween hkey.firm hblank).append
      ((hmark hcolon hblank').append ih)).imp ?_ (by simp) ?_
    · exact lexemes_pair.symm
    · rintro wide ⟨_, _, ⟨blank₁, hblank₁, rfl⟩, ⟨_, _, ⟨blank₂, hblank₂, rfl⟩, ⟨tree', value', behind,
        hvalue', hbehind, rfl, houtline⟩, rfl⟩, rfl⟩
      have hpair := Spells.pair hkey hblank₁ hblank₂ hvalue'
      refine ⟨_, _, behind, hpair, hbehind, by simp, Tree.outline_eq rfl ?_⟩
      simp only [Tree.outlineAll, houtline]
  | @last kind item blank tree _ hblank ih =>
    refine (ih.append (.blanks hgaps hbetween hblank)).imp (List.append_nil _) rfl ?_
    rintro wide ⟨_, blank₂, ⟨tree', item', blank₁, hitem', hblank₁, rfl, houtline⟩, hblank₂, rfl⟩
    refine ⟨[tree'], ?_, ?_⟩
    · rw [List.append_assoc]
      exact .last hitem' (hblank₁.append hblank₂)
    · simp only [Tree.outlineAll, houtline]
  | @next kind item blank blank' items tree trees _ hblank hblank' _ ih ih' =>
    have hcomma : isBetween ',' = true := rfl
    refine (ih.append ((Stretches.blanks hgaps hbetween hblank).append
      ((hmark hcomma hblank').append ih'))).imp ?_ (by simp) ?_
    · exact Tree.lexemes_cons.symm
    · rintro wide ⟨_, _, ⟨tree', item', blank₁, hitem', hblank₁, rfl, houtline⟩, ⟨blank₂, _, hblank₂,
        ⟨_, items', ⟨blank₃, hblank₃, rfl⟩, ⟨trees', hitems', houtlines⟩, rfl⟩, rfl⟩, rfl⟩
      refine ⟨tree' :: trees', ?_, ?_⟩
      · have hall := Spells.next hitem' (hblank₁.append hblank₂) hblank₃ hitems'
        simpa using hall
      · simp only [Tree.outlineAll, houtline, houtlines]

/-! ## Documents -/

/-- The token of a value is not one around a document. -/
theorem Spells.name_ne (h : Spells (.one .value tree) text) : tree.name ≠ "Json" := by
  cases h with
  | string => exact (by decide : "String" ≠ "Json")
  | integer => exact (by decide : "Integer" ≠ "Json")
  | float => exact (by decide : "Float" ≠ "Json")
  | word hword =>
    have hall : ∀ word ∈ words, word.1 ≠ "Json" := by decide
    exact hall _ hword
  | @empty kind | @filled kind =>
    cases kind with
    | pair => exact (by decide : "Object" ≠ "Json")
    | value => exact (by decide : "Array" ≠ "Json")

/-- **Blanks between lexemes mean nothing**: a document whose lexemes are spared is parsed,
with blanks inserted, to a tree of the same outline. -/
theorem ignoresBlanks {r : Rules} (hmakes : rules.Makes r) {scope : Scope}
    (hknows : scope.Knows r.draft.rules) (hresolves : scope.Resolves r.json)
    (hidentifies : scope.Identifies r.json) :
    r.json.IgnoresBlanks scope lexemeNames "Json" := by
  intro limits limits' memoize memoize' complete complete' input token gaps hrun hgaps hspared
  obtain ⟨before, value, after, tree, hbefore, hafter, hvalue, hinput, htree⟩ :=
    exists_document hmakes hknows hresolves hidentifies hrun
  have hblanks {blank : List Char} (hblank : Blank blank) :=
    Stretches.blanks hgaps (fun _ => isBetween_of_isBlank) hblank
  have hsound : token.Sound input := Parser.sound_of_run _ hresolves hrun
  have hlexemes : [] ++ (Phrase.lexemes (.one .value tree) ++ []) =
      Tree.lexemes lexemeNames [token.tree] := by
    rw [List.nil_append, List.append_nil, htree, Tree.lexemes_root rfl]
    rfl
  have hstretches := ((hblanks hbefore).append ((hvalue.stretches hgaps).append (hblanks hafter))).imp
    hlexemes hinput.symm fun _ h => h
  obtain ⟨before', _, hbefore', ⟨_, after', ⟨tree', value', blank, hvalue', hblank, rfl, houtline⟩,
    hafter', rfl⟩, hwide⟩ := hspared.wider hsound hstretches
  have hinput' : (Text.insertAll gaps input).toList =
      gaps 0 ++ before' ++ (value' ++ (blank ++ after')) := by
    rw [Text.insertAll, String.toList_ofList, hwide]
    simp
  rcases run_document hmakes hknows hresolves hidentifies limits' memoize' complete'
    ((hgaps 0).append hbefore') (hblank.append hafter') hvalue' hinput' with hlimit |
    ⟨token', hrun', htree'⟩
  · exact .inl hlimit
  · refine .inr ⟨token', hrun', ?_⟩
    rw [htree', htree, Tree.unwrap_root hvalue'.name_ne, Tree.unwrap_root hvalue.name_ne, houtline]

end JsonValue

end Packrat
