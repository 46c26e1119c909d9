import Packrat.Proofs.Content
import Packrat.Proofs.JsonRoundTrip
import Packrat.Token.Export

/-!
# Reading outlines

An outline has one line for each token. How deep a token is shows in the blanks in front of
its name, and that it is a leaf in the quoted text behind it. No text can break a line or
begin a terminal code, as control characters are escaped.

- `Text.writesString_escapeQuoted`: quoted text is a string of standard JSON.
- `Token.levels`: the tokens in pre-order, each with its depth. `Token.line`: the line of a
  token at a depth.
- `Outline.decode`: the content of an outline: what is inside of a token are the lines below
  its own that are indented further.
- `Outline.removeSgr`: text without terminal codes that select colours.
- `Token.dump_lossless`: **outlines keep the content of a tree**, in colours or without.
-/

namespace Packrat

/-! ## Quoted text -/

namespace Text

variable {c : Char}

theorem toNat_lt_of_isControl (h : Unicode.isControl c = true) : c.toNat < 0xA0 := by
  unfold Unicode.isControl at h
  rcases Bool.or_eq_true_iff.1 h with h | h
  · have := of_decide_eq_true h
    omega
  · exact of_decide_eq_true (Bool.and_eq_true_iff.1 h).2

theorem le_toNat_of_not_isControl (h : Unicode.isControl c = false) : 0x20 ≤ c.toNat := by
  unfold Unicode.isControl at h
  exact Nat.not_lt.1 (of_decide_eq_false (Bool.or_eq_false_iff.1 h).1)

/-- The number of a control character is written with four digits. -/
theorem hexNumber_hex4 : ∀ n < 0xA0, JsonValue.HexNumber (hex4 n) n := by
  have hall : ∀ n < 0xA0, (hex4 n).length = 4 ∧ JsonValue.hexNumber? (hex4 n) = some n := by
    decide +kernel
  exact hall

/-- What is written for a character stands for it in standard JSON, and there is no control
character in it. -/
theorem escapeQuotedChar_spec (c : Char) :
    JsonValue.WritesChar c (escapeQuotedChar c) ∧
      (escapeQuotedChar c).all (!Unicode.isControl ·) = true := by
  unfold escapeQuotedChar
  split
  · rename_i hquote
    subst hquote
    exact ⟨.short (by decide), rfl⟩
  split
  · rename_i hbackslash
    subst hbackslash
    exact ⟨.short (by decide), rfl⟩
  split
  · rename_i hnewline
    subst hnewline
    exact ⟨.short (by decide), rfl⟩
  split
  · rename_i hreturn
    subst hreturn
    exact ⟨.short (by decide), rfl⟩
  split
  · rename_i htab
    subst htab
    exact ⟨.short (by decide), rfl⟩
  split
  · rename_i hcontrol
    have hlt := toNat_lt_of_isControl hcontrol
    have hall : ∀ n < 0xA0, (['\\', 'u'] ++ hex4 n).all (!Unicode.isControl ·) = true := by
      decide +kernel
    exact ⟨.code (hexNumber_hex4 c.toNat hlt), hall c.toNat hlt⟩
  · rename_i hquote hbackslash _ _ _ hcontrol
    have hplain : Unicode.isControl c = false := Bool.eq_false_iff.2 hcontrol
    exact ⟨.plain (le_toNat_of_not_isControl hplain) hquote hbackslash, by simp [hplain]⟩

theorem writesChars_flatMap : ∀ chars : List Char,
    JsonValue.WritesChars chars (chars.flatMap escapeQuotedChar)
  | [] => .nil
  | c :: rest => .cons (escapeQuotedChar_spec c).1 (writesChars_flatMap rest)

/-- **Quoted text is a string of standard JSON** that stands for the text. -/
theorem writesString_escapeQuoted (s : String) :
    JsonValue.WritesString s.toList ('"' :: ((escapeQuoted s).toList ++ ['"'])) := by
  rw [escapeQuoted, String.toList_ofList]
  exact ⟨_, writesChars_flatMap s.toList, rfl⟩

theorem units_escapeQuoted (s : String) : Lexical.Units '"' (escapeQuoted s).toList := by
  rw [escapeQuoted, String.toList_ofList]
  exact (writesChars_flatMap s.toList).units

/-- Quoted text has no control character. -/
theorem isControl_escapeQuoted (s : String) :
    ∀ c ∈ (escapeQuoted s).toList, Unicode.isControl c = false := by
  intro c hmem
  rw [escapeQuoted, String.toList_ofList, List.mem_flatMap] at hmem
  obtain ⟨d, -, hmem⟩ := hmem
  simpa using List.all_eq_true.1 (escapeQuotedChar_spec d).2 c hmem

/-- Quoted text is free of each control character. -/
theorem not_mem_escapeQuoted (s : String) (hcontrol : Unicode.isControl c = true) :
    c ∉ (escapeQuoted s).toList := by
  intro hmem
  rw [isControl_escapeQuoted s c hmem] at hcontrol
  cases hcontrol

end Text

/-! ## Lines -/

namespace Token

mutual

/-- The tokens in pre-order with their depths, where that of the first one is given. -/
def levels (depth : Nat) : Token → List (Nat × Token)
  | ⟨name, source, span, children⟩ =>
    (depth, ⟨name, source, span, children⟩) :: levelsAll (depth + 1) children

/-- The levels of several tokens at one depth. -/
def levelsAll (depth : Nat) : List Token → List (Nat × Token)
  | [] => []
  | t :: ts => levels depth t ++ levelsAll depth ts

end

mutual

theorem map_levels (depth : Nat) : ∀ t : Token, (t.levels depth).map Prod.snd = t.preorder
  | ⟨name, source, span, children⟩ => by
    rw [levels, preorder, List.map_cons, map_levelsAll (depth + 1) children]

theorem map_levelsAll (depth : Nat) :
    ∀ ts : List Token, (levelsAll depth ts).map Prod.snd = preorderAll ts
  | [] => rfl
  | t :: ts => by
    rw [levelsAll, preorderAll, List.map_append, map_levels depth t, map_levelsAll depth ts]

end

theorem named_of_mem_levels {p : String → Prop} {t : Token} {depth : Nat} {level : Nat × Token}
    (hnames : t.Named p) (hmem : level ∈ t.levels depth) : p level.2.name := by
  have hbelow : level.2 ∈ (t.levels depth).map Prod.snd := List.mem_map_of_mem hmem
  rw [map_levels] at hbelow
  exact hnames level.2 hbelow

/-- The line of a token: blanks for its depth, its name, and the text of a leaf. -/
def line (palette : Palette) (depth : Nat) (t : Token) : String :=
  String.join (List.replicate depth "  ") ++ palette.blue ++ t.name ++ palette.reset ++
    if t.isLeaf then
      " " ++ palette.green ++ "\"" ++ Text.escapeQuoted t.text ++ "\"" ++ palette.reset
    else ""

mutual

/-- An outline is made of the lines of the tokens in pre-order. -/
theorem outlineLines_eq (palette : Palette) (depth : Nat) : ∀ t : Token,
    outlineLines palette depth t = (t.levels depth).map fun level => level.2.line palette level.1
  | ⟨name, source, span, []⟩ => by
    rw [outlineLines, levels, levelsAll, List.map_cons, line]
    simp [isLeaf, text_mk, String.append_assoc]
  | ⟨name, source, span, child :: rest⟩ => by
    have hrest := outlineLinesAll_eq palette (depth + 1) (child :: rest)
    rw [outlineLinesAll] at hrest
    rw [outlineLines, levels, List.map_cons, line, hrest]
    simp [isLeaf]

theorem outlineLinesAll_eq (palette : Palette) (depth : Nat) : ∀ ts : List Token,
    outlineLinesAll palette depth ts =
      (levelsAll depth ts).map fun level => level.2.line palette level.1
  | [] => rfl
  | t :: ts => by
    rw [outlineLinesAll, levelsAll, List.map_append, outlineLines_eq palette depth t,
      outlineLinesAll_eq palette depth ts]

end

end Token

/-! ## Reading lines -/

namespace Outline

/-- What a line says: how deep a token is, its name, and its text if it is a leaf. -/
structure Entry where
  depth : Nat
  name : String
  text : Option String

/-- The entry of a line with this behind the name. -/
def readTail? (depth : Nat) (name : String) : List Char → Option Entry
  | [] => some ⟨depth, name, none⟩
  | _ :: quoted =>
    (JsonValue.unescape quoted).map fun chars => ⟨depth, name, some (String.ofList chars)⟩

/-- The entry of a line. -/
def read? (line : List Char) : Option Entry :=
  let blanks := line.takeWhile (· == ' ')
  let rest := line.dropWhile (· == ' ')
  readTail? (blanks.length / 2) (String.ofList (rest.takeWhile (· != ' ')))
    (rest.dropWhile (· != ' '))

/-- Puts an entry in front of trees that stand in its order, each with its depth. Those that
are deeper, up to the first one that is not, are inside of it. -/
def Entry.place (e : Entry) (forest : List (Nat × Content)) : List (Nat × Content) :=
  match e.text with
  | some text => (e.depth, .leaf e.name text) :: forest
  | none =>
    (e.depth, .composite e.name ((forest.takeWhile (e.depth < ·.1)).map Prod.snd)) ::
      forest.dropWhile (e.depth < ·.1)

/-- The content of an outline. -/
def decode (outline : String) : Option Content :=
  match (outline.toList.splitOn '\n').mapM read? with
  | some entries =>
    match entries.foldr Entry.place [] with
    | [(_, content)] => some content
    | _ => none
  | none => none

/-- What a line can say the name of. -/
def IsName (name : String) : Prop :=
  name ≠ "" ∧ ∀ c ∈ name.toList, c ≠ ' ' ∧ c ≠ '\n' ∧ c ≠ '"' ∧ c ≠ '\x1b'

instance (name : String) : Decidable (IsName name) :=
  @instDecidableAnd _ _ _ (List.decidableBAll _ name.toList)

variable {name : String} {depth : Nat} {tail : List Char}

namespace IsName

theorem not_blank (h : IsName name) : ∀ c ∈ name.toList, (c != ' ') = true :=
  fun c hmem => bne_iff_ne.2 (h.2 c hmem).1

theorem not_newline (h : IsName name) : '\n' ∉ name.toList := fun hmem => (h.2 _ hmem).2.1 rfl

theorem not_escape (h : IsName name) : '\x1b' ∉ name.toList := fun hmem => (h.2 _ hmem).2.2.2 rfl

/-- The blanks in front of a name end where it begins. -/
theorem span_blanks (h : IsName name) (n : Nat) (tail : List Char) :
    (List.replicate n ' ' ++ (name.toList ++ tail)).takeWhile (· == ' ') = List.replicate n ' ' ∧
      (List.replicate n ' ' ++ (name.toList ++ tail)).dropWhile (· == ' ') =
        name.toList ++ tail := by
  have hblanks : ∀ c ∈ List.replicate n ' ', (c == ' ') = true := by
    intro c hmem
    rw [List.eq_of_mem_replicate hmem]
    rfl
  rw [List.takeWhile_append_of_pos hblanks, List.dropWhile_append_of_pos hblanks]
  cases hname : name.toList with
  | nil => exact absurd (String.toList_eq_nil_iff.1 hname) h.1
  | cons c rest =>
    have hc : (c == ' ') = false := by
      have hmem : c ∈ name.toList := by
        rw [hname]
        exact List.mem_cons_self
      exact beq_false_of_ne (h.2 c hmem).1
    simp [hc]

/-- A name ends at the blank behind it, or with the line. -/
theorem span_name (h : IsName name) (htail : ∀ c, tail.head? = some c → c = ' ') :
    (name.toList ++ tail).takeWhile (· != ' ') = name.toList ∧
      (name.toList ++ tail).dropWhile (· != ' ') = tail := by
  rw [List.takeWhile_append_of_pos h.not_blank, List.dropWhile_append_of_pos h.not_blank]
  cases tail with
  | nil => simp
  | cons c rest =>
    obtain rfl := htail c rfl
    simp

end IsName

/-- What is read of a line, whose name is followed by a blank if by anything. -/
theorem read?_append (hname : IsName name) (htail : ∀ c, tail.head? = some c → c = ' ') :
    read? (List.replicate (2 * depth) ' ' ++ (name.toList ++ tail)) =
      readTail? depth name tail := by
  obtain ⟨htake, hdrop⟩ := hname.span_blanks (2 * depth) tail
  obtain ⟨htake', hdrop'⟩ := hname.span_name htail
  have hhalf : (List.replicate (2 * depth) ' ').length / 2 = depth := by
    rw [List.length_replicate]
    omega
  unfold read?
  simp only [htake, hdrop, htake', hdrop', hhalf, String.ofList_toList]

end Outline

namespace Token

open Outline

/-- What the line of a token says. -/
def entry (depth : Nat) (t : Token) : Entry :=
  ⟨depth, t.name, if t.isLeaf then some t.text else none⟩

theorem toList_blanks (depth : Nat) :
    (String.join (List.replicate depth "  ")).toList = List.replicate (2 * depth) ' ' := by
  induction depth with
  | zero => rfl
  | succ depth ih =>
    rw [List.replicate_succ, String.join_cons, String.toList_append, ih]
    rfl

theorem toList_line (palette : Palette) (depth : Nat) (t : Token) :
    (t.line palette depth).toList = List.replicate (2 * depth) ' ' ++ (palette.blue.toList ++
      (t.name.toList ++ (palette.reset.toList ++ if t.isLeaf then
        ' ' :: (palette.green.toList ++ '"' :: ((Text.escapeQuoted t.text).toList ++
          '"' :: palette.reset.toList)) else []))) := by
  simp only [line, String.toList_append, toList_blanks, List.append_assoc]
  split <;> simp

/-- **Lines are read back.** -/
theorem read?_line {t : Token} (hname : IsName t.name) (depth : Nat) :
    read? (t.line .plain depth).toList = some (t.entry depth) := by
  rw [toList_line, entry]
  by_cases hleaf : t.isLeaf = true
  · rw [if_pos hleaf, if_pos hleaf]
    have hunescape := (Text.writesString_escapeQuoted t.text).unescape_eq
    refine (read?_append hname (by simp [Palette.plain])).trans ?_
    simp [readTail?, Palette.plain, hunescape]
  · rw [if_neg hleaf, if_neg hleaf]
    exact read?_append hname (by simp [Palette.plain])

/-- No line is broken. -/
theorem not_newline_line {t : Token} (hname : IsName t.name) (depth : Nat) :
    '\n' ∉ (t.line .plain depth).toList := by
  have htext : '\n' ∉ (Text.escapeQuoted t.text).toList :=
    Text.not_mem_escapeQuoted t.text (by decide)
  rw [toList_line]
  split <;> simp [Palette.plain, hname.not_newline, htext]

end Token

/-! ## Rebuilding trees -/

namespace Outline

/-- The forest begins with nothing that is deeper. -/
def Outside (depth : Nat) (forest : List (Nat × Content)) : Prop :=
  ∀ tree, forest.head? = some tree → tree.1 ≤ depth

variable {depth : Nat} {forest : List (Nat × Content)} {contents : List Content}

theorem Outside.span (h : Outside depth forest) :
    forest.takeWhile (depth < ·.1) = [] ∧ forest.dropWhile (depth < ·.1) = forest := by
  cases forest with
  | nil => exact ⟨rfl, rfl⟩
  | cons tree rest =>
    have hle := Nat.not_lt.2 (h tree rfl)
    simp [hle]

/-- Trees at one depth are in front of what is outside of that depth. -/
theorem Outside.append (h : Outside depth forest) (contents : List Content) :
    Outside depth (contents.map ((depth, ·)) ++ forest) := by
  intro tree htree
  cases contents with
  | nil => exact h tree htree
  | cons content rest =>
    cases htree
    exact Nat.le_refl _

/-- What is one level below an entry is inside of it. -/
theorem Entry.place_composite {e : Entry} (htext : e.text = none) (h : Outside e.depth forest)
    (contents : List Content) :
    e.place (contents.map ((e.depth + 1, ·)) ++ forest) =
      (e.depth, .composite e.name contents) :: forest := by
  have hdeeper : ∀ tree ∈ contents.map ((e.depth + 1, ·)), decide (e.depth < tree.1) = true := by
    intro tree hmem
    obtain ⟨content, -, rfl⟩ := List.mem_map.1 hmem
    exact decide_eq_true (Nat.lt_succ_self _)
  obtain ⟨htake, hdrop⟩ := h.span
  rw [place, htext]
  dsimp only
  rw [List.takeWhile_append_of_pos hdeeper, List.dropWhile_append_of_pos hdeeper, htake, hdrop,
    List.append_nil, List.map_map]
  congr 3
  exact List.map_id'' (fun _ => rfl) contents

/-- The trees that lines at these levels stand for, in front of others. -/
def build (levels : List (Nat × Token)) (forest : List (Nat × Content)) : List (Nat × Content) :=
  (levels.map fun level => level.2.entry level.1).foldr Entry.place forest

theorem build_append (levels levels' : List (Nat × Token)) (forest : List (Nat × Content)) :
    build (levels ++ levels') forest = build levels (build levels' forest) := by
  rw [build, List.map_append, List.foldr_append]
  rfl

end Outline

namespace Token

open Outline

/-- Trees in a row are built one in front of another. -/
theorem build_levelsAll {depth : Nat} {ts : List Token} {forest : List (Nat × Content)}
    (h : ∀ t ∈ ts, ∀ forest, Outside depth forest →
      build (t.levels depth) forest = (depth, t.content) :: forest)
    (hforest : Outside depth forest) :
    build (levelsAll depth ts) forest = (contents ts).map ((depth, ·)) ++ forest := by
  induction ts with
  | nil => rfl
  | cons t rest ih =>
    have hrest := ih fun t' hmem => h t' (List.mem_cons_of_mem _ hmem)
    rw [levelsAll, build_append, hrest,
      h t List.mem_cons_self _ (hforest.append (contents rest))]
    rfl

/-- **The lines of a tree are built into its content**, in front of what is not inside. -/
theorem build_levels (t : Token) (depth : Nat) (forest : List (Nat × Content))
    (hforest : Outside depth forest) :
    build (t.levels depth) forest = (depth, t.content) :: forest := by
  induction t using tree_induction generalizing depth forest with
  | leaf name source span => rfl
  | composite name source span child rest ih =>
    have hbelow : Outside (depth + 1) forest := fun tree htree =>
      Nat.le_succ_of_le (hforest tree htree)
    have hchildren := build_levelsAll (fun t hmem forest' => ih t hmem (depth + 1) forest') hbelow
    have hentry : Outside (entry depth ⟨name, source, span, child :: rest⟩).depth forest := hforest
    rw [levels]
    show (entry depth ⟨name, source, span, child :: rest⟩).place
      (build (levelsAll (depth + 1) (child :: rest)) forest) = _
    rw [hchildren]
    exact Entry.place_composite rfl hentry (contents (child :: rest))

/-- The lines of an outline, one for each token. -/
theorem splitOn_dump (t : Token) (hnames : t.Named IsName) :
    t.dump.toList.splitOn '\n' =
      (t.levels 0).map fun level => (level.2.line .plain level.1).toList := by
  have hsome : t.levels 0 ≠ [] := by
    obtain ⟨name, source, span, children⟩ := t
    exact List.cons_ne_nil _ _
  have hnewline : "\n".toList = ['\n'] := rfl
  rw [dump, outline, String.toList_intercalate, outlineLines_eq, List.map_map, hnewline]
  refine List.splitOn_intercalate '\n' ?_ (by simpa using hsome)
  intro chars hmem
  obtain ⟨level, hlevel, rfl⟩ := List.mem_map.1 hmem
  exact not_newline_line (named_of_mem_levels hnames hlevel) level.1

/-- All lines are read back. -/
theorem mapM_read?_lines {levels : List (Nat × Token)}
    (h : ∀ level ∈ levels, IsName level.2.name) :
    (levels.map fun level => (level.2.line .plain level.1).toList).mapM read? =
      some (levels.map fun level => level.2.entry level.1) := by
  induction levels with
  | nil => rfl
  | cons level rest ih =>
    rw [List.map_cons, List.mapM_cons, read?_line (h level List.mem_cons_self) level.1,
      ih fun level' hmem => h level' (List.mem_cons_of_mem _ hmem)]
    rfl

end Token

/-! ## Terminal codes -/

namespace Outline

/-- What stands between the beginning and the end of a code that selects colours. -/
def isParameter (c : Char) : Bool := c.isDigit || c == ';'

/-- What is behind a code that selects colours, if the text begins with one. -/
def afterSgr? : List Char → Option (List Char)
  | '\x1b' :: '[' :: code =>
    match code.dropWhile isParameter with
    | 'm' :: rest => some rest
    | _ => none
  | _ => none

theorem length_lt_of_afterSgr? {chars rest : List Char} (h : afterSgr? chars = some rest) :
    rest.length < chars.length := by
  unfold afterSgr? at h
  split at h
  · rename_i code
    split at h
    · rename_i hdrop
      cases h
      have hle := (List.dropWhile_suffix (l := code) isParameter).length_le
      rw [hdrop, List.length_cons] at hle
      simp only [List.length_cons]
      omega
    · cases h
  · cases h

/-- The text without its codes that select colours. -/
def removeSgr (chars : List Char) : List Char :=
  match _h : afterSgr? chars with
  | some rest => removeSgr rest
  | none =>
    match chars with
    | [] => []
    | c :: rest => c :: removeSgr rest
termination_by chars.length
decreasing_by
  · exact length_lt_of_afterSgr? _h
  · exact Nat.lt_succ_self _

theorem removeSgr_of_afterSgr? {chars rest : List Char} (h : afterSgr? chars = some rest) :
    removeSgr chars = removeSgr rest := by
  rw [removeSgr]
  split
  · rename_i hrest
    rw [h] at hrest
    cases hrest
    rfl
  · rename_i hnone
    rw [h] at hnone
    cases hnone

theorem removeSgr_cons {c : Char} (hc : c ≠ '\x1b') (rest : List Char) :
    removeSgr (c :: rest) = c :: removeSgr rest := by
  have hnone : afterSgr? (c :: rest) = none := by
    unfold afterSgr?
    split
    · rename_i hcode
      cases hcode
      exact absurd rfl hc
    · rfl
  rw [removeSgr]
  split
  · rename_i hsome
    rw [hnone] at hsome
    cases hsome
  · rfl

/-- Without its codes the first text is the second one, whatever comes behind. -/
def Strips (coloured bare : List Char) : Prop :=
  ∀ rest, removeSgr (coloured ++ rest) = bare ++ removeSgr rest

namespace Strips

variable {coloured bare coloured' bare' : List Char}

theorem nil : Strips [] [] := fun _ => rfl

theorem append (h : Strips coloured bare) (h' : Strips coloured' bare') :
    Strips (coloured ++ coloured') (bare ++ bare') := by
  intro rest
  rw [List.append_assoc, h, h', List.append_assoc]

/-- Text without the character that codes begin with stays. -/
theorem plain {chars : List Char} (h : '\x1b' ∉ chars) : Strips chars chars := by
  intro rest
  induction chars with
  | nil => rfl
  | cons c more ih =>
    rw [List.mem_cons, not_or] at h
    rw [List.cons_append, removeSgr_cons (Ne.symm h.1), ih h.2]
    rfl

/-- A code goes. -/
theorem code (parameters : List Char) (h : parameters.all isParameter = true) :
    Strips ('\x1b' :: '[' :: (parameters ++ ['m'])) [] := by
  intro rest
  refine removeSgr_of_afterSgr? ?_
  have hdrop : (parameters ++ ['m'] ++ rest).dropWhile isParameter = 'm' :: rest := by
    rw [List.append_assoc, List.dropWhile_append_of_pos (List.all_eq_true.1 h)]
    rfl
  show (match (parameters ++ ['m'] ++ rest).dropWhile isParameter with
    | 'm' :: rest => some rest
    | _ => none) = some rest
  rw [hdrop]
  rfl

/-- Lines that are joined are stripped one by one. -/
theorem intercalate {lines lines' : List (List Char)} {separator : List Char}
    (hseparator : '\x1b' ∉ separator) (h : List.Forall₂ Strips lines lines') :
    Strips (separator.intercalate lines) (separator.intercalate lines') := by
  induction h with
  | nil => exact nil
  | @cons line line' rest rest' hline hrest ih =>
    cases hrest with
    | nil => simpa [List.intercalate] using hline
    | cons hsecond hmore =>
      have hjoined := hline.append ((plain hseparator).append ih)
      simpa [List.intercalate] using hjoined

end Strips

end Outline

namespace Token

open Outline

theorem strips_line {t : Token} (hname : IsName t.name) (depth : Nat) :
    Strips (t.line .ansi depth).toList (t.line .plain depth).toList := by
  have hblanks : Strips (List.replicate (2 * depth) ' ') (List.replicate (2 * depth) ' ') :=
    .plain fun hmem => absurd (List.eq_of_mem_replicate hmem) (by decide)
  have hblue : Strips Palette.ansi.blue.toList [] := .code ['3', '4'] rfl
  have hgreen : Strips Palette.ansi.green.toList [] := .code ['3', '2'] rfl
  have hreset : Strips Palette.ansi.reset.toList [] := .code ['0'] rfl
  have htext : '\x1b' ∉ (Text.escapeQuoted t.text).toList :=
    Text.not_mem_escapeQuoted t.text (by decide)
  have hquoted : Strips ('"' :: ((Text.escapeQuoted t.text).toList ++ ['"']))
      ('"' :: ((Text.escapeQuoted t.text).toList ++ ['"'])) := .plain (by simp [htext])
  have hblank : Strips [' '] [' '] := .plain (by decide)
  have hhead := hblanks.append (hblue.append ((Strips.plain hname.not_escape).append hreset))
  rw [toList_line, toList_line]
  by_cases hleaf : t.isLeaf = true
  · rw [if_pos hleaf, if_pos hleaf]
    have hline := hhead.append (hblank.append (hgreen.append (hquoted.append hreset)))
    simpa [Palette.plain] using hline
  · rw [if_neg hleaf, if_neg hleaf]
    simpa [Palette.plain] using hhead

/-- An outline in colours is one without, and codes. -/
theorem removeSgr_outline (t : Token) (hnames : t.Named IsName) :
    removeSgr (t.outline .ansi).toList = t.dump.toList := by
  have hlines : List.Forall₂ Strips ((outlineLines .ansi 0 t).map String.toList)
      ((outlineLines .plain 0 t).map String.toList) := by
    rw [outlineLines_eq, outlineLines_eq]
    simp only [List.forall₂_map_left_iff, List.forall₂_map_right_iff, List.forall₂_same]
    intro level hmem
    exact strips_line (named_of_mem_levels hnames hmem) level.1
  have hbreak : '\x1b' ∉ ['\n'] := by decide
  have hjoined := Strips.intercalate hbreak hlines []
  have hnil : removeSgr [] = [] := by rw [removeSgr]; rfl
  rw [List.append_nil, hnil, List.append_nil] at hjoined
  rw [dump, outline, outline, String.toList_intercalate, String.toList_intercalate]
  exact hjoined

/-- **Outlines keep the content of a tree.** There is one line for each token, in pre-order,
and names, texts and what is inside of what are found again. A text of any characters is
quoted without control characters and bare quotes, as a string of standard JSON that stands
for it. In colours, the outline is the same with codes in it. -/
theorem dump_lossless (t : Token) (hnames : t.Named IsName) :
    (t.dump.toList.splitOn '\n' =
        ((t.levels 0).map fun level => (level.2.line .plain level.1).toList) ∧
      (t.levels 0).map Prod.snd = t.preorder) ∧
    decode t.dump = some t.content ∧
    (∀ s : String, (∀ c ∈ (Text.escapeQuoted s).toList, Unicode.isControl c = false) ∧
      Lexical.Units '"' (Text.escapeQuoted s).toList ∧
      JsonValue.unescape ('"' :: ((Text.escapeQuoted s).toList ++ ['"'])) = some s.toList) ∧
    removeSgr (t.outline .ansi).toList = t.dump.toList := by
  refine ⟨⟨t.splitOn_dump hnames, t.map_levels 0⟩, ?_, ?_, t.removeSgr_outline hnames⟩
  · have hread := mapM_read?_lines fun level (hmem : level ∈ t.levels 0) =>
      named_of_mem_levels hnames hmem
    have hbuilt : build (t.levels 0) [] = [(0, t.content)] := t.build_levels 0 [] nofun
    rw [decode, t.splitOn_dump hnames, hread]
    show (match build (t.levels 0) [] with
      | [(_, content)] => some content
      | _ => none) = _
    rw [hbuilt]
  · intro s
    exact ⟨Text.isControl_escapeQuoted s, Text.units_escapeQuoted s,
      (Text.writesString_escapeQuoted s).unescape_eq⟩

/-! ## A text that breaks lines -/

/-- A line break and a quote, nothing, and a control character with two bytes. -/
def broken : Token :=
  let source := "\n\"\u009f"
  ⟨"Text", source, ⟨0, 4⟩, [⟨"Mark", source, ⟨0, 2⟩, []⟩, ⟨"Gap", source, ⟨2, 2⟩, []⟩,
    ⟨"Code", source, ⟨2, 4⟩, []⟩]⟩

/-- Each text is on the line of its token. -/
theorem dump_lossless_broken :
    decode "Text\n  Mark \"\\n\\\"\"\n  Gap \"\"\n  Code \"\\u009f\"" =
        some (.composite "Text" [.leaf "Mark" "\n\"", .leaf "Gap" "", .leaf "Code" "\u009f"]) ∧
      removeSgr (broken.outline .ansi).toList = broken.dump.toList := by
  have hdump : broken.dump = "Text\n  Mark \"\\n\\\"\"\n  Gap \"\"\n  Code \"\\u009f\"" := by
    decide +kernel
  have hmark : text ⟨"Mark", "\n\"\u009f", ⟨0, 2⟩, []⟩ = "\n\"" := by decide +kernel
  have hgap : text ⟨"Gap", "\n\"\u009f", ⟨2, 2⟩, []⟩ = "" := by decide +kernel
  have hcode : text ⟨"Code", "\n\"\u009f", ⟨2, 4⟩, []⟩ = "\u009f" := by decide +kernel
  obtain ⟨-, hdecode, -, hplain⟩ := dump_lossless broken (by decide)
  refine ⟨?_, hplain⟩
  rw [← hdump, hdecode]
  simp [broken, content, contents, hmark, hgap, hcode]

end Token

end Packrat
