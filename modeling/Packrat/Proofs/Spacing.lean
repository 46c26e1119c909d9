import Packrat.Proofs.Leaves
import Packrat.Proofs.Lexemes

/-!
# Blanks between lexemes

Texts inserted in a source, at offsets that are not inside its lexemes, and where the
lexemes stand: a token knows its offsets, a language only the order of the lexemes.

- `Text.insertAll`: the source with a text inserted at each offset.
- `Text.Scattered`: the lexemes of a text with their offsets, and what may be between.
- `Text.Stretches`: what a text is like with something inserted outside its lexemes. A
  text stretches where its parts do.
- `Token.Ordered.sites_eq`: tokens in order, with the texts of the lexemes, stand where
  these do. So the lexemes of a language are where the tokens of a run are.
- `Tree.outline`, `Tree.unwrap`: what a tree has in common with that of the wider source.
-/

namespace Packrat

open Lexical (Blank)
open Text (utf8Length)

/-! ## Insertion -/

namespace Text

/-- The characters of a text that starts at an offset, each with what is inserted behind
it. -/
def spread (gaps : Nat → List Char) : Nat → List Char → List Char
  | _, [] => []
  | pos, c :: rest =>
    c :: (gaps (pos + c.utf8Size) ++ spread gaps (pos + c.utf8Size) rest)

/-- The source with `gaps offset` inserted at each of its offsets. -/
def insertAll (gaps : Nat → List Char) (source : String) : String :=
  String.ofList (gaps 0 ++ spread gaps 0 source.toList)

variable {gaps : Nat → List Char} {pos : Nat} {text more : List Char}

@[simp] theorem spread_nil : spread gaps pos [] = [] := rfl

@[simp] theorem spread_cons (c : Char) : spread gaps pos (c :: text) =
    c :: (gaps (pos + c.utf8Size) ++ spread gaps (pos + c.utf8Size) text) := rfl

@[simp] theorem spread_append : spread gaps pos (text ++ more) =
    spread gaps pos text ++ spread gaps (pos + utf8Length text) more := by
  induction text generalizing pos with
  | nil => simp
  | cons c text ih => simp [ih, Nat.add_assoc]

theorem blank_spread (hgaps : ∀ offset, Blank (gaps offset)) (h : Blank text) :
    Blank (spread gaps pos text) := by
  induction text generalizing pos with
  | nil => exact h
  | cons c text ih =>
    obtain ⟨hc, htext⟩ := List.forall_mem_cons.1 h
    exact List.forall_mem_cons.2 ⟨hc, (hgaps _).append (ih htext)⟩

/-- Nothing is inserted inside a lexeme that stands at an offset. -/
def Spares (gaps : Nat → List Char) (site : Nat × List Char) : Prop :=
  ∀ offset, site.1 < offset → offset < site.1 + utf8Length site.2 → gaps offset = []

/-- A lexeme that is spared stays as it is. -/
theorem Spares.spread_eq (hne : text ≠ []) (h : Spares gaps (pos, text)) :
    spread gaps pos text = text ++ gaps (pos + utf8Length text) := by
  induction text generalizing pos with
  | nil => exact absurd rfl hne
  | cons c text ih =>
    cases text with
    | nil => simp
    | cons d text =>
      have hd := d.utf8Size_pos
      have hc := c.utf8Size_pos
      have hnone : gaps (pos + c.utf8Size) = [] := by
        refine h _ (Nat.lt_add_of_pos_right hc) ?_
        simp only [utf8Length_cons]
        omega
      have hrest : Spares gaps (pos + c.utf8Size, d :: text) := fun offset hlt hgt => by
        refine h offset (Nat.lt_of_le_of_lt (Nat.le_add_right ..) hlt) ?_
        rwa [utf8Length_cons, ← Nat.add_assoc]
      rw [spread_cons, hnone, List.nil_append, ih (List.cons_ne_nil _ _) hrest, utf8Length_cons c,
        Nat.add_assoc]
      rfl

/-! ## Where lexemes stand -/

/-- A lexeme begins and ends with a character that is not one of those between lexemes. -/
def Firm (between : Char → Bool) (lexeme : List Char) : Prop :=
  (∃ c rest, lexeme = c :: rest ∧ between c = false) ∧
    ∃ rest c, lexeme = rest ++ [c] ∧ between c = false

/-- The lexemes of a text that starts at an offset, each with the offset where it
stands. All other characters are of those between lexemes. -/
inductive Scattered (between : Char → Bool) : Nat → List (Nat × List Char) → List Char → Prop where
  | nil {pos : Nat} : Scattered between pos [] []
  | gap {pos : Nat} {c : Char} {sites : List (Nat × List Char)} {rest : List Char} :
      between c = true → Scattered between (pos + c.utf8Size) sites rest →
      Scattered between pos sites (c :: rest)
  | lexeme {pos : Nat} {lexeme : List Char} {sites : List (Nat × List Char)} {rest : List Char} :
      Firm between lexeme → Scattered between (pos + utf8Length lexeme) sites rest →
      Scattered between pos ((pos, lexeme) :: sites) (lexeme ++ rest)

variable {between : Char → Bool} {lexeme : List Char} {sites sites' : List (Nat × List Char)}

theorem Between.behind {source : String} {lo hi : Nat} (h : Between source lo (text ++ more) hi) :
    Between source (lo + utf8Length text) more hi := by
  obtain ⟨before, after, hsource, hbefore, hlength⟩ := h
  refine ⟨before ++ text, after, by simp [hsource], by simp [hbefore], ?_⟩
  rwa [utf8Length_append, ← Nat.add_assoc] at hlength

theorem Firm.of_forall (hne : lexeme ≠ []) (h : ∀ c ∈ lexeme, between c = false) :
    Firm between lexeme := by
  obtain ⟨first, more, hfirst⟩ := List.exists_cons_of_ne_nil hne
  refine ⟨⟨first, more, hfirst, h _ (hfirst ▸ List.mem_cons_self)⟩, _, _,
    (List.dropLast_append_getLast hne).symm, h _ (List.getLast_mem hne)⟩

theorem Firm.ne_nil (h : Firm between lexeme) : lexeme ≠ [] := by
  obtain ⟨⟨c, rest, rfl, -⟩, -⟩ := h
  exact List.cons_ne_nil _ _

namespace Scattered

theorem of_forall (h : ∀ c ∈ text, between c = true) : Scattered between pos [] text := by
  induction text generalizing pos with
  | nil => exact .nil
  | cons c text ih =>
    obtain ⟨hc, htext⟩ := List.forall_mem_cons.1 h
    exact .gap hc (ih htext)

theorem append (h : Scattered between pos sites text)
    (h' : Scattered between (pos + utf8Length text) sites' more) :
    Scattered between pos (sites ++ sites') (text ++ more) := by
  induction h with
  | nil => exact h'
  | gap hc _ ih => exact .gap hc (ih (by rwa [utf8Length_cons, ← Nat.add_assoc] at h'))
  | lexeme hfirm _ ih =>
    rw [List.append_assoc]
    exact .lexeme hfirm (ih (by rwa [utf8Length_append, ← Nat.add_assoc] at h'))

/-- In front of the first lexeme all characters are of those between lexemes. -/
theorem between_of_le (h : Scattered between pos sites (text ++ more))
    (hsites : ∀ site ∈ sites, pos + utf8Length text ≤ site.1) : ∀ c ∈ text, between c = true := by
  induction text generalizing pos with
  | nil => exact List.forall_mem_nil _
  | cons c text ih =>
    have hsize := c.utf8Size_pos
    rw [List.cons_append] at h
    generalize hall : c :: (text ++ more) = all at h
    cases h with
    | nil => cases hall
    | gap hc hrest =>
      cases hall
      refine List.forall_mem_cons.2 ⟨hc, ih hrest fun site hsite => ?_⟩
      have := hsites site hsite
      rwa [utf8Length_cons, ← Nat.add_assoc] at this
    | lexeme =>
      have := hsites _ List.mem_cons_self
      simp only [utf8Length_cons] at this
      omega

theorem firm_of_mem (h : Scattered between pos sites text) :
    ∀ site ∈ sites, Firm between site.2 := by
  induction h with
  | nil => exact List.forall_mem_nil _
  | gap _ _ ih => exact ih
  | lexeme hfirm _ ih => exact List.forall_mem_cons.2 ⟨hfirm, ih⟩

end Scattered

/-! ## Stretching -/

/-- The lexemes stand somewhere in the text, and where they are spared, the text with what
is inserted in it is as `wider` says. -/
def Stretches (between : Char → Bool) (gaps : Nat → List Char) (lexemes : List (List Char))
    (text : List Char) (wider : List Char → Prop) : Prop :=
  ∀ pos, ∃ sites, Scattered between pos sites text ∧ sites.map Prod.snd = lexemes ∧
    ((∀ site ∈ sites, Spares gaps site) → wider (spread gaps pos text))

/-- The part with blanks behind it. -/
def Trailed (part text : List Char) : Prop := ∃ blank, Blank blank ∧ text = part ++ blank

namespace Stretches

variable {lexemes lexemes' : List (List Char)} {wider wider' : List Char → Prop}

theorem imp (h : Stretches between gaps lexemes text wider) (hlexemes : lexemes = lexemes')
    (htext : text = more) (himp : ∀ wide, wider wide → wider' wide) :
    Stretches between gaps lexemes' more wider' := by
  intro pos
  obtain ⟨sites, hscattered, hsites, hwider⟩ := h pos
  exact ⟨sites, htext ▸ hscattered, hsites.trans hlexemes, fun hspares =>
    htext ▸ himp _ (hwider hspares)⟩

theorem nil : Stretches between gaps [] [] (· = []) :=
  fun _ => ⟨[], .nil, rfl, fun _ => rfl⟩

/-- A text stretches part by part. -/
theorem append (h : Stretches between gaps lexemes text wider)
    (h' : Stretches between gaps lexemes' more wider') :
    Stretches between gaps (lexemes ++ lexemes') (text ++ more)
      (fun wide => ∃ first last, wider first ∧ wider' last ∧ wide = first ++ last) := by
  intro pos
  obtain ⟨sites, hscattered, hsites, hwider⟩ := h pos
  obtain ⟨sites', hscattered', hsites', hwider'⟩ := h' (pos + utf8Length text)
  refine ⟨sites ++ sites', hscattered.append hscattered', ?_, fun hspares => ?_⟩
  · rw [List.map_append, hsites, hsites']
  · obtain ⟨hspares, hspares'⟩ := List.forall_mem_append.1 hspares
    exact ⟨_, _, hwider hspares, hwider' hspares', spread_append⟩

section

variable {blank : List Char} (hgaps : ∀ offset, Blank (gaps offset))
  (hbetween : ∀ c, Lexical.isBlank c = true → between c = true)
include hgaps hbetween

theorem blanks (h : Blank blank) : Stretches between gaps [] blank Blank :=
  fun _ => ⟨[], .of_forall fun c hc => hbetween c (h c hc), rfl, fun _ => blank_spread hgaps h⟩

/-- A lexeme with blanks behind it stays what it is. -/
theorem firm (h : Firm between text) (hblank : Blank blank) :
    Stretches between gaps [text] (text ++ blank) (Trailed text) := by
  intro pos
  have hbehind : Scattered between (pos + utf8Length text) [] blank :=
    .of_forall fun c hc => hbetween c (hblank c hc)
  refine ⟨[(pos, text)], .lexeme h hbehind, rfl, fun hspares => ?_⟩
  refine ⟨gaps (pos + utf8Length text) ++ spread gaps (pos + utf8Length text) blank,
    (hgaps _).append (blank_spread hgaps hblank), ?_⟩
  rw [spread_append, (List.forall_mem_singleton.1 hspares).spread_eq h.ne_nil, List.append_assoc]

/-- A mark between lexemes with blanks behind it stays where it is. -/
theorem mark {c : Char} (hc : between c = true) (hblank : Blank blank) :
    Stretches between gaps [] (c :: blank) (Trailed [c]) := by
  intro pos
  refine ⟨[], .gap hc (.of_forall fun c hc => hbetween c (hblank c hc)), rfl, fun _ => ?_⟩
  exact ⟨_, (hgaps _).append (blank_spread hgaps hblank), rfl⟩

end

end Stretches

end Text

/-! ## Tokens and lexemes -/

namespace Tree

/-- The text of the token. -/
def text : Tree → String
  | .mk _ text _ => text

/-- The texts of the leaves that have one of the names. -/
def lexemes (names : List String) (trees : List Tree) : List (List Char) :=
  ((partsAll trees).filter fun part => part.children.isEmpty && names.contains part.name).map
    (·.text.toList)

variable {names : List String} {name text : String} {children trees : List Tree} {tree : Tree}

@[simp] theorem lexemes_nil : lexemes names [] = [] := rfl

theorem lexemes_cons : lexemes names (tree :: trees) = lexemes names [tree] ++ lexemes names trees := by
  simp [lexemes, partsAll]

theorem lexemes_leaf (h : names.contains name = true) :
    lexemes names (.mk name text [] :: trees) = text.toList :: lexemes names trees := by
  simp only [lexemes, partsAll, parts, List.cons_append, List.nil_append, List.filter_cons, children,
    Tree.name, h, List.isEmpty_nil, Bool.and_self, if_true, List.map_cons]
  rfl

theorem lexemes_mk (h : names.contains name = false) :
    lexemes names [.mk name text children] = lexemes names children := by
  simp only [lexemes, partsAll, parts, List.append_nil, List.filter_cons, Tree.name, h,
    Bool.and_false]
  rfl

end Tree

namespace Token

variable {source : String} {lo hi : Nat} {t : Token} {ts : List Token} {part : List Char}
  {between : Char → Bool} {sites : List (Nat × List Char)} {names : List String}

/-- Where the token stands, and its text. -/
def site (t : Token) : Nat × List Char := (t.start, t.text.toList)

theorem Ordered.le_start : ∀ {ts : List Token} {lo : Nat}, Ordered source lo ts hi →
    ∀ t ∈ ts, lo ≤ t.start
  | [], _, _ => List.forall_mem_nil _
  | first :: _, _, ⟨hstart, hsound, hrest⟩ => by
    refine List.forall_mem_cons.2 ⟨hstart, fun t ht => ?_⟩
    have hle := hsound.start_le_stop
    have := hrest.le_start t ht
    omega

/-- **Tokens stand where the lexemes do**: tokens in order that have the texts of the
lexemes of a source have their offsets. -/
theorem Ordered.sites_eq (h : Text.Scattered between lo sites part) :
    ∀ {ts : List Token}, Ordered source lo ts hi → Text.Between source lo part hi →
      ts.map (·.text.toList) = sites.map Prod.snd → sites = ts.map site := by
  induction h with
  | nil =>
    intro ts _ _ htexts
    rw [List.map_nil, List.map_eq_nil_iff] at htexts
    rw [htexts, List.map_nil]
  | @gap pos c sites rest hc hrest ih =>
    intro ts hordered hbetween htexts
    cases ts with
    | nil => rw [List.map_eq_nil_iff.1 htexts.symm, List.map_nil]
    | cons t ts =>
      obtain ⟨gap, more, hpart, hstart, -, -⟩ := hordered.exists_splits hbetween
      have hfirm : Text.Firm between t.text.toList :=
        List.forall_mem_map.2 hrest.firm_of_mem _ (htexts ▸ List.mem_cons_self)
      cases gap with
      | nil =>
        -- the token would begin with a character that is between lexemes
        obtain ⟨⟨first, after, htext, hfirst⟩, -⟩ := hfirm
        rw [htext] at hpart
        cases hpart
        exact absurd hc (Bool.eq_false_iff.1 hfirst)
      | cons d gap =>
        have hbehind : Text.Between source (pos + utf8Length [c]) rest hi :=
          Text.Between.behind hbetween
        cases hpart
        rw [Text.utf8Length_cons] at hstart
        exact ih ⟨by omega, hordered.2⟩ hbehind htexts
  | @lexeme pos lexeme sites rest hfirm hrest ih =>
    intro ts hordered hbetween htexts
    obtain ⟨t, ts, rfl, htext, hmore⟩ := List.map_eq_cons_iff.1 htexts
    obtain ⟨gap, more, hpart, hstart, hstop, -⟩ := hordered.exists_splits hbetween
    dsimp only at htext
    rw [htext] at hpart hstop
    have hbehind : Ordered source (pos + utf8Length lexeme) ts hi := hordered.2.2.mono (by omega)
    have hsites : sites = ts.map site := ih hbehind hbetween.behind hmore
    -- a token that stands further behind ends further behind, but in front of the next one
    obtain ⟨beyond, hbeyond, rfl⟩ :=
      Text.exists_append_of_le (hpart.trans (List.append_assoc ..).symm) (by simp)
    have hlength := congrArg utf8Length hbeyond
    simp only [Text.utf8Length_append] at hlength
    have hlater : ∀ site ∈ sites, pos + utf8Length lexeme + utf8Length beyond ≤ site.1 := by
      rw [hsites]
      refine List.forall_mem_map.2 fun t' ht' => ?_
      have : t.stop ≤ t'.start := hordered.2.2.le_start t' ht'
      show _ ≤ t'.start
      omega
    have hnone : beyond = [] := by
      obtain ⟨-, front, c, hlast, hc⟩ := hfirm
      rcases List.eq_nil_or_concat' beyond with hnil | ⟨front', d, rfl⟩
      · exact hnil
      · have hends := congrArg List.getLast? hbeyond
        simp only [hlast, List.getLast?_append, List.getLast?_singleton, Option.some_or,
          Option.some.injEq] at hends
        have hd := hrest.between_of_le hlater d (by simp)
        rw [← hends, hc] at hd
        cases hd
    have hpos : t.start = pos := by
      rw [hnone, Text.utf8Length_nil] at hlength
      omega
    rw [List.map_cons, site, hpos, htext, hsites]

theorem Ordered.filter (p : Token → Bool) : ∀ {ts : List Token} {lo : Nat}, Ordered source lo ts hi →
    Ordered source lo (ts.filter p) hi
  | [], _, h => h
  | t :: _, _, ⟨hstart, hsound, hrest⟩ => by
    have hmore := hrest.filter p
    rw [List.filter_cons]
    split
    · exact ⟨hstart, hsound, hmore⟩
    · exact hmore.mono (Nat.le_trans hstart hsound.start_le_stop)

/-- The leaves that have one of the names. -/
def lexemes (names : List String) (token : Token) : List Token :=
  (leaves [token]).filter (names.contains ·.name)

theorem lexemes_tree (names : List String) (token : Token) :
    (token.lexemes names).map (·.text.toList) = Tree.lexemes names [token.tree] := by
  have hparts : Tree.partsAll [token.tree] = (preorderAll [token]).map tree :=
    (map_preorderAll [token]).symm
  rw [Tree.lexemes, hparts, List.filter_map, List.map_map, lexemes, leaves, List.filter_filter]
  congr 1
  · funext t
    simp [Tree.text, tree_eq]
  · refine List.filter_congr fun t _ => ?_
    simp [isLeaf, Bool.and_comm]

/-- The lexemes of the source of a sound tree are its tokens. -/
theorem Sound.sites_eq {token : Token} (h : token.Sound source)
    (hscattered : Text.Scattered between 0 sites source.toList)
    (htexts : sites.map Prod.snd = Tree.lexemes names [token.tree]) :
    sites = (token.lexemes names).map site :=
  Ordered.sites_eq hscattered (h.ordered.filter _) Text.between_toList
    ((lexemes_tree names token).trans htexts.symm)

/-- Nothing is inserted inside a token that has one of the names. -/
def Spared (names : List String) (gaps : Nat → List Char) (token : Token) : Prop :=
  ∀ t ∈ token.preorder, t.name ∈ names → ∀ offset, t.start < offset → offset < t.stop →
    gaps offset = []

theorem Sound.spares_site_iff {gaps : Nat → List Char} (h : t.Sound source) :
    Text.Spares gaps t.site ↔ ∀ offset, t.start < offset → offset < t.stop → gaps offset = [] := by
  obtain ⟨before, rest, -, -, hstop⟩ := h.exists_splits
  rw [← hstop]
  rfl

/-- **Where the tokens of a run are spared, the lexemes of its source are**: they are the
same. -/
theorem Spared.wider {token : Token} {gaps : Nat → List Char} {wider : List Char → Prop}
    (hspared : token.Spared names gaps) (hsound : token.Sound source)
    (h : Text.Stretches between gaps (Tree.lexemes names [token.tree]) source.toList wider) :
    wider (Text.spread gaps 0 source.toList) := by
  obtain ⟨sites, hscattered, htexts, hwider⟩ := h 0
  rw [hsound.sites_eq hscattered htexts] at hwider
  refine hwider (List.forall_mem_map.2 fun t ht => ?_)
  obtain ⟨hleaf, hname⟩ := List.mem_filter.1 ht
  have hmem : t ∈ token.preorder := by
    rw [← preorderAll_singleton]
    exact (List.mem_filter.1 hleaf).1
  exact (Sound.of_mem_preorder token hsound hmem).spares_site_iff.2
    (hspared t hmem (List.contains_iff_mem.1 hname))

/-- Tokens with these names are spared if the lexemes are, and no others have the names. -/
theorem Sound.spared {token : Token} {gaps : Nat → List Char} (h : token.Sound source)
    (hscattered : Text.Scattered between 0 sites source.toList)
    (htexts : sites.map Prod.snd = Tree.lexemes names [token.tree])
    (hleaves : ∀ part ∈ token.tree.parts, part.name ∈ names → part.children = [])
    (hspares : ∀ site ∈ sites, Text.Spares gaps site) : token.Spared names gaps := by
  intro t ht hname
  rw [h.sites_eq hscattered htexts, List.forall_mem_map] at hspares
  have hleaf : t.isLeaf = true := by
    have hchildren := hleaves _ (tree_mem_parts ht) ((name_tree t).symm ▸ hname)
    rw [children_tree, List.map_eq_nil_iff] at hchildren
    rw [isLeaf, hchildren, List.isEmpty_nil]
  have hmem : t ∈ token.lexemes names := by
    rw [lexemes, Token.leaves, preorderAll_singleton]
    exact List.mem_filter.2 ⟨List.mem_filter.2 ⟨ht, hleaf⟩, List.contains_iff_mem.2 hname⟩
  exact (Sound.of_mem_preorder token h ht).spares_site_iff.1 (hspares t hmem)

end Token

/-! ## What a wider layout leaves -/

namespace Tree

mutual

/-- The tree without the texts of the tokens that have none of the names. -/
def outline (names : List String) : Tree → Tree
  | .mk name text children =>
    .mk name (if names.contains name then text else "") (outlineAll names children)

/-- The trees without these texts. -/
def outlineAll (names : List String) : List Tree → List Tree
  | [] => []
  | tree :: rest => outline names tree :: outlineAll names rest

end

/-- Outlines have no texts of tokens with other names. -/
theorem outline_eq {names : List String} {name text text' : String} {children children' : List Tree}
    (hname : names.contains name = false)
    (h : outlineAll names children' = outlineAll names children) :
    (mk name text' children').outline names = (mk name text children).outline names := by
  simp only [outline, hname, Bool.false_eq_true, if_false, h]

/-- The tree without a token around it that has the name and nothing else inside. -/
def unwrap (wrapper : String) : Tree → Tree
  | .mk name text [only] => if name = wrapper then only else .mk name text [only]
  | tree => tree

theorem unwrap_of_ne {wrapper : String} {tree : Tree} (h : tree.name ≠ wrapper) :
    tree.unwrap wrapper = tree := by
  unfold unwrap
  split
  · exact if_neg h
  · rfl

/-- Without the wrapper, the tree over a text is the one inside. -/
theorem unwrap_root {wrapper text : String} {tree : Tree} (h : tree.name ≠ wrapper) :
    (root wrapper text [tree]).unwrap wrapper = tree := by
  obtain ⟨name, covered, children⟩ := tree
  rw [root]
  split
  · exact unwrap_of_ne h
  · exact if_pos rfl

/-- A wrapper has no lexemes but those inside. -/
theorem lexemes_root {names : List String} {wrapper text : String} {tree : Tree}
    (h : names.contains wrapper = false) :
    lexemes names [root wrapper text [tree]] = lexemes names [tree] := by
  obtain ⟨name, covered, children⟩ := tree
  rw [root]
  split
  · rfl
  · exact lexemes_mk h

end Tree

/-- Blanks mean nothing outside the tokens that have one of the names: where a run from the
rule accepts a source, one over the source with blanks inserted meets a limit, or its tree
has the same outline, up to the wrapper around it. -/
def Rule.IgnoresBlanks (scope : Scope) (root : Rule) (names : List String) (wrapper : String) : Prop :=
  ∀ (limits limits' : Limits) (memoize memoize' complete complete' : Bool) (input : String)
    (token : Token) (gaps : Nat → List Char),
    (Parser.run ⟨root, limits, memoize⟩ scope input complete).result = .ok (.ok token) →
    (∀ offset, Blank (gaps offset)) → token.Spared names gaps →
    (∃ error, (Parser.run ⟨root, limits', memoize'⟩ scope (Text.insertAll gaps input)
      complete').result = .ok (.error (.limit error))) ∨
    ∃ token', (Parser.run ⟨root, limits', memoize'⟩ scope (Text.insertAll gaps input)
      complete').result = .ok (.ok token') ∧
      (token'.tree.unwrap wrapper).outline names = (token.tree.unwrap wrapper).outline names

end Packrat
