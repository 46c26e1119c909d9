import Packrat.Proofs.Depth
import Packrat.Proofs.JsonDocuments

/-!
# The depth of JSON documents

How deep the rules of the JSON grammar are applied is linear in how deep objects and arrays
are nested in a document, and has nothing to do with its length.

- `Tree.nesting`: how deep trees of some names are nested in a tree.
- `JsonValue.Rules.Composed.nests_value`, `nests_pair`, `JsonValue.IsContainer.nests`: what
  each rule needs, given what its parts need.
- `JsonValue.Spells.nests`, `JsonValue.Rules.Composed.nests_document`: what is needed for the
  texts of the language.
-/

namespace Packrat

/-! ## Nested trees -/

mutual

/-- How many trees with the given names are inside one another in the tree, itself included. -/
def Tree.nesting (names : List String) : Tree → Nat
  | .mk name _ children => Tree.nestingAll names children + if name ∈ names then 1 else 0

/-- How many are inside one another in any of the trees. -/
def Tree.nestingAll (names : List String) : List Tree → Nat
  | [] => 0
  | tree :: rest => max (tree.nesting names) (Tree.nestingAll names rest)

end

/-- The tree around a tree does not count if its name does not. -/
theorem Tree.nesting_root {names : List String} {name text : String} {tree : Tree}
    (h : name ∉ names) : (Tree.root name text [tree]).nesting names = tree.nesting names := by
  obtain ⟨only, covered, children⟩ := tree
  rw [Tree.root]
  split
  · rfl
  · rw [nesting, nestingAll, nestingAll, if_neg h, Nat.max_zero, Nat.add_zero]

namespace JsonValue

open Builder Lexical
open Text (Avoids)

/-- The names of containers. -/
def containers : List String := ["Object", "Array"]

/-- What an item needs that has no containers in it. -/
def Kind.depth : Kind → Nat
  | pair => 13
  | value => 10

variable {scope : Scope} {r : Rules} {kind : Kind} {item rule : Rule} {unsigned : Builder Rule}
  {depth depth' : Nat} {read rest ahead blank items : List Char} {trees : List Tree}

theorem StandsFor.nests (h : StandsFor scope rule item) (hnests : Nests scope depth rule ahead) :
    Nests scope (depth + 1) item ahead := by
  rcases h with rfl | ⟨id, key, rfl, htarget⟩
  · exact hnests.mono (Nat.le_succ _)
  · exact hnests.recursive htarget

theorem IsSigned.bounded (h : IsSigned unsigned rule)
    (hunsigned : ∀ number, unsigned.Makes number → number.Bounded (depth + 2)) :
    rule.Bounded (depth + 4) := by
  obtain ⟨id, id', perhaps, minus, number, hnumber, rfl⟩ := h
  simp [hunsigned number hnumber]

/-- Without its bracket a container needs no depth. -/
theorem IsContainer.nests_failed (h : IsContainer kind item rule)
    (hrest : Avoids (· == kind.opening) ahead) : Nests scope 5 rule ahead := by
  obtain ⟨id, id', opening, lexeme, comma, items, closing, hopening, -, -, -, rfl⟩ := h
  exact .node (.seq_failed (refuses_mark hopening hrest) (bounded_symbol hopening).nests)

/-- A container needs what its items need, and two applications around them. -/
theorem IsContainer.nests (h : IsContainer kind item rule) (hblank : Blank blank)
    (hbegins : Avoids isBlank (items ++ kind.closing :: rest))
    (hitems : ∀ lexeme comma list, (Lexical.lexeme item).Makes lexeme →
      (symbol ",").Makes comma → (Lexical.list lexeme comma).Makes list →
      Nests scope (depth + 3) list (items ++ kind.closing :: rest) ∧
        ∃ trees, Reads scope list items (kind.closing :: rest) trees) :
    Nests scope (depth + 5) rule (kind.opening :: (blank ++ (items ++ kind.closing :: rest))) := by
  obtain ⟨id, id', opening, lexeme, comma, list, closing, hopening, hlexeme, hcomma, hlist, rfl⟩ := h
  obtain ⟨hnests, trees, hreads⟩ := hitems lexeme comma list hlexeme hcomma hlist
  have hfirst : Reads scope opening (kind.opening :: blank) (items ++ kind.closing :: rest) [] :=
    reads_mark hopening hblank hbegins
  have hsymbol : Nests scope (depth + 3) opening
      (kind.opening :: blank ++ (items ++ kind.closing :: rest)) :=
    (bounded_symbol hopening).nests.mono (Nat.le_add_left ..)
  have hlast : Nests scope (depth + 4)
      (.seq id' [.literal closing (String.singleton kind.closing)]) (kind.closing :: rest) :=
    .seq_singleton Rule.bounded_literal.nests
  exact .node (.seq_cons hfirst hsymbol (.seq_cons hreads hnests hlast))

namespace Rules.Composed

theorem bounded_string (h : r.Composed) : r.string.Bounded 9 := by
  obtain ⟨id, id', double, single, hdouble, hsingle, heq⟩ := h.string
  simp [heq, bounded_quotedString hdouble, bounded_quotedString hsingle]

/-- A value that is no container needs no more than a string or a number does. -/
theorem nests_value (h : r.Composed) (hdepth : 9 ≤ depth)
    (hcontainer : ∀ kind : Kind, ahead.head? = some kind.opening →
      Nests scope depth (r.container kind) ahead) :
    Nests scope (depth + 1) r.value ahead := by
  have hcontainers (kind : Kind) {item : Rule} (hmade : IsContainer kind item (r.container kind)) :
      Nests scope depth (r.container kind) ahead := by
    by_cases hhead : ahead.head? = some kind.opening
    · exact hcontainer kind hhead
    · refine (hmade.nests_failed fun c hc => beq_false_of_ne ?_).mono (by omega)
      rintro rfl
      exact hhead hc
  have hbounded {rule : Rule} (hrule : rule.Bounded 9) : Nests scope depth rule ahead :=
    (hrule.mono hdepth).nests
  have hfloat : r.float.Bounded 9 := h.float.bounded fun _ => bounded_float
  have hinteger : r.integer.Bounded 9 :=
    h.integer.bounded fun _ hmakes => (bounded_integer hmakes).mono (by decide)
  have hword {id : RuleId} {text : String} {word : Rule} (hmakes : (Lexical.word text).Makes word) :
      Rule.Bounded 9 (.node id word) :=
    Rule.bounded_node.2 ((bounded_word hmakes).mono (by decide))
  obtain ⟨id, heq⟩ := h.value
  obtain ⟨member, harray⟩ := h.array
  obtain ⟨_, _, htrue, heqTrue⟩ := h.trueWord
  obtain ⟨_, _, hfalse, heqFalse⟩ := h.falseWord
  obtain ⟨_, _, hnull, heqNull⟩ := h.nullWord
  rw [heq]
  refine .choice ?_
  simp only [List.forall_mem_cons]
  exact ⟨hcontainers .pair h.object, hcontainers .value harray, hbounded h.bounded_string,
    hbounded hfloat, hbounded hinteger, heqTrue ▸ hbounded (hword htrue),
    heqFalse ▸ hbounded (hword hfalse), heqNull ▸ hbounded (hword hnull), List.forall_mem_nil _⟩

/-- Where a container ends there is no item in it. -/
theorem nests_closing (h : r.Composed) (kind : Kind) :
    Nests scope kind.depth (r.item kind) (kind.closing :: rest) := by
  cases kind with
  | pair =>
    obtain ⟨id, id', key, colon, value, hkey, -, heq⟩ := h.pair
    have hstring : Refuses scope r.string ('\x7d' :: rest) :=
      h.refuses_string (Text.avoids_cons.2 rfl)
    have hbounded : key.Bounded 11 := (bounded_lexeme hkey h.bounded_string).mono (by decide)
    rw [Rules.item, heq]
    exact .node (.seq_failed (refuses_lexeme hkey hstring) hbounded.nests)
  | value =>
    refine h.nests_value (Nat.le_refl 9) fun kind hhead => ?_
    cases kind <;> cases hhead

/-- A pair needs what its value needs, and three applications around it. -/
theorem nests_pair {key blank' value : List Char} (h : r.Composed)
    (hknown : scope.Knows r.draft.rules) (hkey : StringText key) (hblank : Blank blank)
    (hblank' : Blank blank') (hbegins : Avoids isBlank (value ++ rest))
    (hdepth : 10 ≤ depth) (hvalue : Nests scope depth r.value (value ++ rest)) :
    Nests scope (depth + 3) r.pair (key ++ blank ++ (':' :: blank' ++ (value ++ rest))) := by
  obtain ⟨id, id', lexeme, colon, member, hlexeme, hcolon, hmember, heq⟩ := h.pair_member hknown
  have hfirst : Reads scope lexeme (key ++ blank) (':' :: blank' ++ (value ++ rest))
      [branch "String" key []] :=
    reads_lexeme hlexeme (h.reads_string hknown hkey) hblank (Text.avoids_cons.2 rfl)
  have hmark : Reads scope colon (':' :: blank') (value ++ rest) [] :=
    reads_symbol hcolon hblank' hbegins
  have hstring : lexeme.Bounded (depth + 1) :=
    (bounded_lexeme hlexeme h.bounded_string).mono (by omega)
  have hsymbol : colon.Bounded (depth + 1) := (bounded_symbol hcolon).mono (by omega)
  rw [heq]
  exact .node (.seq_cons hfirst hstring.nests
    (.seq_cons hmark hsymbol.nests (.seq_singleton (hmember.nests hvalue))))

end Rules.Composed

/-- The depth that items need inside a container, the first one as a lexeme and those after
it in the tail of the list. -/
def NestsItems (scope : Scope) (lexeme tail : Rule) (depth : Nat) (items rest : List Char) : Prop :=
  ∃ first more trees, items = first ++ more ∧ Reads scope lexeme first (more ++ rest) trees ∧
    Nests scope depth lexeme (items ++ rest) ∧ Nests scope (depth + 2) tail (more ++ rest)

/-- What it means that phrases with containers `k` deep need a depth linear in `k`. -/
def Phrase.NestsBy (scope : Scope) (r : Rules) (k : Nat) : Phrase → List Char → Prop
  | .one kind tree, text =>
    tree.nesting containers ≤ k → ∀ rest, Follows rest →
      Nests scope (11 * k + kind.depth) (r.item kind) (text ++ rest)
  | .several kind trees, text =>
    Tree.nestingAll containers trees ≤ k → ∀ item lexeme comma tail rest,
      StandsFor scope (r.item kind) item → (kind = .pair → item = r.pair) →
      (Lexical.lexeme item).Makes lexeme → (symbol ",").Makes comma → IsTail lexeme comma tail →
      NestsItems scope lexeme tail (11 * k + 14) text (kind.closing :: rest)

theorem nests_item {k : Nat} (hitem : StandsFor scope (r.item kind) item)
    (hpair : kind = .pair → item = r.pair)
    (h : Nests scope (11 * k + kind.depth) (r.item kind) ahead) :
    Nests scope (11 * k + 13) item ahead := by
  cases kind with
  | pair => exact hpair rfl ▸ h
  | value => exact (hitem.nests h).mono (by simp [Kind.depth])

/-- An item and the blanks behind it, in front of what may follow. -/
theorem Spells.nests_lexeme {k : Nat} {text : List Char} {tree : Tree} {lexeme : Rule}
    (h : Spells (.one kind tree) text) (hmade : r.Composed) (hknown : scope.Knows r.draft.rules)
    (hitem : StandsFor scope (r.item kind) item) (hpair : kind = .pair → item = r.pair)
    (hlexeme : (Lexical.lexeme item).Makes lexeme) (hblank : Blank blank) (hrest : Follows rest)
    (hbegins : Avoids isBlank rest)
    (hnests : ∀ rest, Follows rest → Nests scope (11 * k + kind.depth) (r.item kind) (text ++ rest)) :
    Reads scope lexeme (text ++ blank) rest [tree] ∧
      Nests scope (11 * k + 14) lexeme (text ++ (blank ++ rest)) := by
  have hfollows : Follows (blank ++ rest) := hrest.blank_append hblank
  have hreads : Reads scope item text (blank ++ rest) [tree] :=
    hitem.reads (h.reads hmade hknown _ hfollows)
  exact ⟨reads_lexeme hlexeme hreads hblank hbegins,
    Lexical.nests_lexeme hlexeme hreads (nests_item hitem hpair (hnests _ hfollows))⟩

theorem nesting_container (kind : Kind) (text : List Char) (trees : List Tree) :
    (branch kind.container text trees).nesting containers =
      Tree.nestingAll containers trees + 1 := by
  cases kind <;> rfl

theorem nesting_pair (text key : List Char) (tree : Tree) :
    (branch "Pair" text [branch "String" key [], tree]).nesting containers =
      tree.nesting containers := by
  simp [branch, Tree.nesting, Tree.nestingAll, containers]

namespace NestsItems

variable {lexeme tail : Rule} {id : RuleId}

/-- Items need four applications around what an item needs, be there one or many. -/
theorem seq (h : NestsItems scope lexeme tail depth items rest) :
    Nests scope (depth + 3) (.seq id [lexeme, tail]) (items ++ rest) := by
  obtain ⟨first, more, trees, rfl, hreads, hlexeme, htail⟩ := h
  rw [List.append_assoc] at hlexeme ⊢
  exact .seq_cons hreads (hlexeme.mono (Nat.le_add_right ..)) (.seq_singleton htail)

end NestsItems

/-- A container is a value that needs one application more. -/
theorem Rules.Composed.nests_container {k : Nat} (h : r.Composed)
    (hnests : Nests scope (11 * k + 20) (r.container kind) (kind.opening :: ahead)) :
    Nests scope (11 * (k + 1) + 10) r.value (kind.opening :: ahead) := by
  have hdepth : 9 ≤ 11 * k + 20 := by omega
  refine h.nests_value hdepth fun kind' hhead => ?_
  have hsame : kind' = kind := by
    cases kind <;> cases kind' <;> first | rfl | cases hhead
  exact hsame ▸ hnests

/-- **The rules need a depth linear in the nesting of containers**, whatever the length of
the text. -/
theorem Spells.nests {phrase : Phrase} (h : Spells phrase read) (hmade : r.Composed)
    (hknown : scope.Knows r.draft.rules) : ∀ k, phrase.NestsBy scope r k read := by
  -- by induction on how the text is spelled, for all that may follow its phrase
  induction h with
  | string htext =>
    intro k _ rest _
    obtain ⟨c, more, rfl, hc⟩ := htext.exists_cons
    refine hmade.nests_value (Nat.le_add_left ..) fun kind hhead => ?_
    cases hhead
    cases kind <;> cases hc
  | @integer sign digits hsign hdigits =>
    intro k _ rest _
    refine hmade.nests_value (Nat.le_add_left ..) fun kind hhead => ?_
    obtain ⟨c, more, heq, hc⟩ := exists_cons_of_number rest hsign hdigits
    rw [List.append_assoc, heq] at hhead
    cases hhead
    cases kind <;> cases hc
  | @float sign digits fraction power hsign hdigits =>
    intro k _ rest _
    refine hmade.nests_value (Nat.le_add_left ..) fun kind hhead => ?_
    obtain ⟨c, more, heq, hc⟩ := exists_cons_of_number (fraction ++ power) hsign hdigits
    rw [heq] at hhead
    cases hhead
    cases kind <;> cases hc
  | word hword =>
    intro k _ rest _
    refine hmade.nests_value (Nat.le_add_left ..) fun kind hhead => ?_
    simp only [words, List.mem_cons, Prod.mk.injEq, List.not_mem_nil, or_false] at hword
    rcases hword with ⟨-, rfl⟩ | ⟨-, rfl⟩ | ⟨-, rfl⟩ <;> cases kind <;> cases hhead
  | @empty kind blank hblank =>
    intro k hk rest _
    rw [nesting_container] at hk
    obtain ⟨k, rfl⟩ := Nat.exists_eq_add_of_le' (Nat.le_trans (Nat.le_add_left 1 _) hk)
    obtain ⟨item, hitem, hcontainer, hpair⟩ := hmade.container hknown kind
    have hrefuses : Refuses scope item (kind.closing :: rest) :=
      hitem.refuses (hmade.refuses_closing kind)
    have hnests : Nests scope 13 item (kind.closing :: rest) :=
      nests_item (k := 0) hitem hpair ((hmade.nests_closing kind).mono (Nat.le_add_left ..))
    have hbegins : Avoids isBlank ([] ++ kind.closing :: rest) :=
      Text.avoids_cons.2 (by cases kind <;> rfl)
    have hall : Nests scope (11 * k + 15 + 5) (r.container kind)
        (kind.opening :: (blank ++ ([] ++ kind.closing :: rest))) := by
      refine hcontainer.nests hblank hbegins ?_
      intro lexeme comma list hlexeme hcomma hlist
      refine ⟨?_, [], reads_list_nil hlist (refuses_lexeme hlexeme hrefuses)⟩
      obtain ⟨id, id', tail, -, rfl⟩ := makes_list hlist
      have hnone := nests_lexeme_failed hlexeme hrefuses hnests
      exact (Nests.opt (.seq_failed (refuses_lexeme hlexeme hrefuses) hnone)).mono (by omega)
    simpa [Rules.item, Kind.depth] using hmade.nests_container hall
  | @filled kind blank items trees hblank hitems ih =>
    intro k hk rest _
    rw [nesting_container] at hk
    obtain ⟨k, rfl⟩ := Nat.exists_eq_add_of_le' (Nat.le_trans (Nat.le_add_left 1 _) hk)
    obtain ⟨item, hitem, hcontainer, hpair⟩ := hmade.container hknown kind
    have hall : Nests scope (11 * k + 15 + 5) (r.container kind)
        (kind.opening :: (blank ++ (items ++ kind.closing :: rest))) := by
      refine hcontainer.nests hblank (hitems.avoids_isBlank (kind.closing :: rest)) ?_
      intro lexeme comma list hlexeme hcomma hlist
      obtain ⟨id, id', tail, htail, rfl⟩ := makes_list hlist
      have hreads := hitems.reads hmade hknown item lexeme comma tail rest hitem hlexeme hcomma htail
      have hnests := ih k (Nat.le_of_succ_le_succ hk) item lexeme comma tail rest hitem hpair
        hlexeme hcomma htail
      exact ⟨hnests.seq.opt, trees, .opt_taken hreads.seq⟩
    simpa [Rules.item, Kind.depth] using hmade.nests_container hall
  | @pair key blank blank' value tree hkey hblank hblank' hvalue ih =>
    intro k hk rest hrest
    rw [nesting_pair] at hk
    have hnests := hmade.nests_pair hknown hkey hblank hblank' (hvalue.avoids_isBlank rest)
      (Nat.le_add_left ..) (ih k hk rest hrest)
    simpa [Rules.item, Kind.depth] using hnests
  | @last kind item blank tree hitem hblank ih =>
    intro k hk rule lexeme comma tail rest hrule hpair hlexeme hcomma htail
    have htree : tree.nesting containers ≤ k := Nat.le_trans (Nat.le_max_left ..) hk
    have hbegins : Avoids isBlank (kind.closing :: rest) :=
      Text.avoids_cons.2 (by cases kind <;> rfl)
    obtain ⟨hreads, hnests⟩ := hitem.nests_lexeme hmade hknown hrule hpair hlexeme hblank
      (.cons kind.isFollower_closing) hbegins (ih k htree)
    have hcommas : Refuses scope comma (kind.closing :: rest) :=
      refuses_symbol hcomma (Text.not_prefix_of_avoids (Text.avoids_cons.2 (by cases kind <;> rfl)))
    have hsymbol : comma.Bounded (11 * k + 14) := (bounded_symbol hcomma).mono (by omega)
    obtain ⟨id, id', rfl⟩ := htail
    refine ⟨item ++ blank, [], [tree], by simp, hreads, by simpa using hnests, ?_⟩
    exact .zeroOrMore_ended hcommas.seq_failed (.seq_failed hcommas hsymbol.nests)
  | @next kind item blank blank' items tree trees hitem hblank hblank' hitems ih ih' =>
    intro k hk rule lexeme comma tail rest hrule hpair hlexeme hcomma htail
    have htree : tree.nesting containers ≤ k := Nat.le_trans (Nat.le_max_left ..) hk
    have htrees : Tree.nestingAll containers trees ≤ k := Nat.le_trans (Nat.le_max_right ..) hk
    obtain ⟨first, more, trees₁, rfl, hfirst, hnestsFirst, hnestsMore⟩ :=
      ih' k htrees rule lexeme comma tail rest hrule hpair hlexeme hcomma htail
    have hfollows : Follows (',' :: (blank' ++ (first ++ more) ++ kind.closing :: rest)) := .cons rfl
    obtain ⟨hreads, hnests⟩ := hitem.nests_lexeme hmade hknown hrule hpair hlexeme hblank hfollows
      (Text.avoids_cons.2 rfl) (ih k htree)
    have hcommas : Reads scope comma (',' :: blank') (first ++ (more ++ kind.closing :: rest)) [] := by
      refine reads_symbol hcomma hblank' ?_
      rw [← List.append_assoc]
      exact hitems.avoids_isBlank _
    have hsymbol : comma.Bounded (11 * k + 14) := (bounded_symbol hcomma).mono (by omega)
    obtain ⟨id, id', rfl⟩ := htail
    have hstep : Reads scope (.seq id' [comma, lexeme]) (',' :: blank' ++ first)
        (more ++ kind.closing :: rest) _ := hcommas.seq_cons hfirst.seq_singleton
    have hnestsStep : Nests scope (11 * k + 15) (.seq id' [comma, lexeme])
        (',' :: blank' ++ (first ++ (more ++ kind.closing :: rest))) := by
      rw [List.append_assoc] at hnestsFirst
      exact .seq_cons hcommas hsymbol.nests (.seq_singleton hnestsFirst)
    have hnestsTail : Nests scope (11 * k + 16) (.zeroOrMore id (.seq id' [comma, lexeme]))
        (',' :: blank' ++ first ++ (more ++ kind.closing :: rest)) := by
      refine .zeroOrMore_next hstep ?_ hnestsMore
      rwa [List.append_assoc]
    exact ⟨item ++ blank, ',' :: (blank' ++ (first ++ more)), [tree], rfl, by simpa using hreads,
      by simpa using hnests, by simpa using hnestsTail⟩

/-- A document needs one application more than its value. -/
theorem Rules.Composed.nests_document {before value after : List Char} {tree : Tree} {k : Nat}
    (h : r.Composed) (hknown : scope.Knows r.draft.rules) (hbefore : Blank before)
    (hafter : Blank after) (hvalue : Spells (.one .value tree) value)
    (hk : tree.nesting containers ≤ k) :
    Nests scope (11 * k + 11) r.json (before ++ (value ++ after)) := by
  obtain ⟨id, leading, trailing, stop, hleading, htrailing, heq⟩ := h.json
  have hfollows : Follows (after ++ []) := Follows.nil.blank_append hafter
  rw [List.append_nil] at hfollows
  have hfirst : Reads scope leading before (value ++ after) [] :=
    reads_blanks hleading hbefore (hvalue.avoids_isBlank after)
  have hread : Reads scope r.value value after [tree] := hvalue.reads h hknown after hfollows
  have hnests : Nests scope (11 * k + 10) r.value (value ++ after) :=
    hvalue.nests h hknown k hk after hfollows
  have hblanks {blanks : Rule} (hmakes : Lexical.blanks.Makes blanks) :
      blanks.Bounded (11 * k + 10) := (bounded_blanks hmakes).mono (by omega)
  have hlast : Nests scope (11 * k + 11) (.seq id [trailing, .endOfInput stop]) after := by
    have hreads : Reads scope trailing after [] [] :=
      reads_blanks htrailing hafter (Text.avoids_nil _)
    have hall : Nests scope (11 * k + 11) (.seq id [trailing, .endOfInput stop]) (after ++ []) :=
      .seq_cons hreads (hblanks htrailing).nests
        (.seq_singleton Rule.bounded_endOfInput.nests)
    rwa [List.append_nil] at hall
  rw [heq]
  exact .seq_cons hfirst (hblanks hleading).nests (.seq_cons hread hnests hlast)

/-! ## Runs -/

section

variable {before value after : List Char} {tree : Tree} {limits : Limits}
  {memoize complete : Bool} {input : String} {token : Token} {k : Nat}
  (hmakes : rules.Makes r) (hknows : scope.Knows r.draft.rules)
  (hresolves : scope.Resolves r.json) (hidentifies : scope.Identifies r.json)

include hmakes hknows hresolves hidentifies

/-- For a document no run needs more than a depth linear in the nesting of its containers, and
where they are not nested too deep, the standard limits are not met. -/
theorem within_of_spells (hbefore : Blank before) (hafter : Blank after)
    (hvalue : Spells (.one .value tree) value) (hinput : input.toList = before ++ (value ++ after))
    (hk : tree.nesting containers ≤ k) :
    Parser.Within r.json scope input (11 * k + 11) ∧
      (k ≤ 92 → ∀ memoize complete, ∃ found,
        (Parser.run ⟨r.json, .standard, memoize⟩ scope input complete).result = .ok (.ok found) ∧
          found.tree = Tree.root "Json" input [tree]) := by
  have hnests := (composed hmakes).nests_document hknows hbefore hafter hvalue hk
  have hwithin := Parser.within_of_nests hresolves hidentifies (hinput ▸ hnests)
  refine ⟨hwithin, fun hdepth memoize complete => ?_⟩
  refine (run_document hmakes hknows hresolves hidentifies .standard memoize complete hbefore
    hafter hvalue hinput).resolve_left fun ⟨error, hlimit⟩ => ?_
  exact hwithin.result_ne_limit (by omega) memoize complete error hlimit

/-- The same of every input that some run accepts. -/
theorem within_of_run
    (hrun : (Parser.run ⟨r.json, limits, memoize⟩ scope input complete).result = .ok (.ok token))
    (hk : token.tree.nesting containers ≤ k) :
    Parser.Within r.json scope input (11 * k + 11) ∧
      (k ≤ 92 → ∀ memoize complete, ∃ found,
        (Parser.run ⟨r.json, .standard, memoize⟩ scope input complete).result = .ok (.ok found) ∧
          found.tree = token.tree) := by
  obtain ⟨before, value, after, tree, hbefore, hafter, hvalue, hinput, htree⟩ :=
    exists_document hmakes hknows hresolves hidentifies hrun
  rw [htree, Tree.nesting_root (by decide)] at hk
  rw [htree]
  exact within_of_spells hmakes hknows hresolves hidentifies hbefore hafter hvalue hinput hk

end

end JsonValue

end Packrat
