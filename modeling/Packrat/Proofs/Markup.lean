import Packrat.Proofs.Content
import Packrat.Proofs.Layout
import Packrat.Token.Export

/-!
# Reading exported XML

The elements of an exported tree can be told from its texts, whatever these are: a text that
is escaped has no angle bracket in it, and a name has no slash. So a reader that goes through
the characters once, with the elements that are open on a stack, finds the tree again.

- `Text.unescapeMarkup`: the text that escaped text stands for.
- `Markup.step`: what a reader does with one character. `Markup.decode`: the content of a
  document.
- `Markup.Scans chars opened opened'`: reading `chars` between tags makes `opened'` of the
  open elements.
- `Token.scans_toXml`: reading an element adds its content to the element around it.
- `Token.toXml_lossless`: **exported XML keeps the content of a tree.**
-/

namespace Packrat

/-! ## Escaped text -/

namespace Text

/-- The text that the content of an element stands for. -/
def unescapeMarkup : List Char → List Char
  | '&' :: 'a' :: 'm' :: 'p' :: ';' :: rest => '&' :: unescapeMarkup rest
  | '&' :: 'l' :: 't' :: ';' :: rest => '<' :: unescapeMarkup rest
  | '&' :: 'g' :: 't' :: ';' :: rest => '>' :: unescapeMarkup rest
  | '&' :: 'q' :: 'u' :: 'o' :: 't' :: ';' :: rest => '"' :: unescapeMarkup rest
  | c :: rest => c :: unescapeMarkup rest
  | [] => []

theorem unescapeMarkup_cons {c : Char} (h : c ≠ '&') (rest : List Char) :
    unescapeMarkup (c :: rest) = c :: unescapeMarkup rest := by
  rw [unescapeMarkup.eq_def]
  split <;> simp_all

/-- What is written for a character stands for it, and opens no tag. -/
theorem escapeMarkupChar_spec (c : Char) (rest : List Char) :
    unescapeMarkup (escapeMarkupChar c ++ rest) = c :: unescapeMarkup rest ∧
      '<' ∉ escapeMarkupChar c := by
  unfold escapeMarkupChar
  split
  · rename_i hamp
    subst hamp
    exact ⟨rfl, by decide⟩
  split
  · rename_i hlt
    subst hlt
    exact ⟨rfl, by decide⟩
  split
  · rename_i hgt
    subst hgt
    exact ⟨rfl, by decide⟩
  split
  · rename_i hquote
    subst hquote
    exact ⟨rfl, by decide⟩
  · rename_i hamp hlt _ _
    refine ⟨unescapeMarkup_cons hamp rest, ?_⟩
    rw [List.mem_singleton]
    exact Ne.symm hlt

/-- Escaping is undone. An ampersand is escaped itself, so that none of those that are read
back belongs to the text. -/
theorem unescapeMarkup_flatMap (chars : List Char) :
    unescapeMarkup (chars.flatMap escapeMarkupChar) = chars := by
  induction chars with
  | nil => rfl
  | cons c rest ih => rw [List.flatMap_cons, (escapeMarkupChar_spec c _).1, ih]

theorem unescapeMarkup_escapeMarkup (s : String) :
    unescapeMarkup (escapeMarkup s).toList = s.toList := by
  rw [escapeMarkup, String.toList_ofList, unescapeMarkup_flatMap]

/-- Escaped text opens no tag. -/
theorem not_mem_escapeMarkup (s : String) : '<' ∉ (escapeMarkup s).toList := by
  rw [escapeMarkup, String.toList_ofList, List.mem_flatMap]
  rintro ⟨c, -, hmem⟩
  exact (escapeMarkupChar_spec c []).2 hmem

/-- Between an offset and itself there is no text. -/
theorem slice?_self_getD (n : Nat) (s : String) : (slice? n n s).getD "" = "" := by
  cases hslice : slice? n n s with
  | none => rfl
  | some t =>
    obtain ⟨before, after, -, -, hlen⟩ := slice?_eq_some_iff.1 hslice
    have hzero : t.utf8ByteSize = 0 := by omega
    exact String.utf8ByteSize_eq_zero_iff.1 hzero

end Text

/-! ## A reader -/

namespace Markup

/-- An element that is open: its name, and the characters and elements in it so far. -/
structure Element where
  name : List Char
  text : List Char
  children : List Content

/-- Where a reader is: what it has read of a tag, if it is in one, and the elements that are
open, the innermost one first. -/
structure Reader where
  tag : Option (List Char)
  opened : List Element

/-- What an element holds that has come to its end. -/
def Element.content (e : Element) : Content :=
  match e.children with
  | [] => .leaf (String.ofList e.name) (String.ofList (Text.unescapeMarkup e.text))
  | child :: rest => .composite (String.ofList e.name) (child :: rest)

/-- The element with more content. -/
def Element.add (e : Element) (contents : List Content) : Element :=
  { e with children := e.children ++ contents }

/-- The open elements with one more element in the innermost one. -/
def add? (content : Content) : List Element → Option (List Element)
  | [] => none
  | inner :: outer => some (inner.add [content] :: outer)

/-- The open elements after a tag. A slash in front closes the innermost element, one at the
end makes an element without content. -/
def tagged? (tag : List Char) (opened : List Element) : Option (List Element) :=
  match tag with
  | '/' :: name =>
    match opened with
    | [] => none
    | inner :: outer => if inner.name = name then add? inner.content outer else none
  | _ =>
    if tag.getLast? = some '/' then add? (.leaf (String.ofList tag.dropLast) "") opened
    else some (⟨tag, [], []⟩ :: opened)

/-- What a reader does with one character. -/
def step (r : Reader) (c : Char) : Option Reader :=
  match r.tag with
  | some tag =>
    if c = '>' then (tagged? tag r.opened).map (⟨none, ·⟩) else some ⟨some (tag ++ [c]), r.opened⟩
  | none =>
    if c = '<' then some ⟨some [], r.opened⟩
    else
      match r.opened with
      | [] => none
      | inner :: outer => some ⟨none, { inner with text := inner.text ++ [c] } :: outer⟩

/-- The content of a document. -/
def decode (xml : String) : Option Content :=
  match xml.toList.foldlM step ⟨none, [⟨[], [], []⟩]⟩ with
  | some ⟨none, [⟨_, _, [content]⟩]⟩ => some content
  | _ => none

/-- Reading the characters between tags makes `opened'` of the open elements. -/
def Scans (chars : List Char) (opened opened' : List Element) : Prop :=
  chars.foldlM step ⟨none, opened⟩ = some ⟨none, opened'⟩

/-- What a tag can say the name of: something that is neither bracket nor slash. -/
def IsName (name : String) : Prop :=
  name ≠ "" ∧ ∀ c ∈ name.toList, c ≠ '<' ∧ c ≠ '>' ∧ c ≠ '/'

instance (name : String) : Decidable (IsName name) :=
  @instDecidableAnd _ _ _ (List.decidableBAll _ name.toList)

variable {chars more : List Char} {opened opened' opened'' outer : List Element}
  {inner : Element} {name : String}

namespace Scans

theorem nil : Scans [] opened opened := rfl

theorem append (h : Scans chars opened opened') (h' : Scans more opened' opened'') :
    Scans (chars ++ more) opened opened'' := by
  unfold Scans at h ⊢
  rw [List.foldlM_append, h]
  exact h'

/-- Characters other than brackets are text of the innermost element. -/
theorem text (h : '<' ∉ chars) :
    Scans chars (inner :: outer) ({ inner with text := inner.text ++ chars } :: outer) := by
  induction chars generalizing inner with
  | nil =>
    rw [List.append_nil]
    exact nil
  | cons c rest ih =>
    rw [List.mem_cons, not_or] at h
    obtain ⟨hc, hrest⟩ := h
    have hstep : step ⟨none, inner :: outer⟩ c =
        some ⟨none, { inner with text := inner.text ++ [c] } :: outer⟩ := by
      simp [step, Ne.symm hc]
    have hih := @ih { inner with text := inner.text ++ [c] } hrest
    unfold Scans at hih ⊢
    rw [List.foldlM_cons, hstep]
    simpa using hih

/-- What is read of a tag is kept until it ends. -/
theorem foldlM_tag (h : '>' ∉ chars) (read : List Char) :
    chars.foldlM step ⟨some read, opened⟩ = some ⟨some (read ++ chars), opened⟩ := by
  induction chars generalizing read with
  | nil => simp
  | cons c rest ih =>
    rw [List.mem_cons, not_or] at h
    obtain ⟨hc, hrest⟩ := h
    have hstep : step ⟨some read, opened⟩ c = some ⟨some (read ++ [c]), opened⟩ := by
      simp [step, Ne.symm hc]
    rw [List.foldlM_cons, hstep]
    simpa using ih hrest (read ++ [c])

/-- A tag does what it says once it is read. -/
theorem tag (h : '>' ∉ chars) (htagged : tagged? chars opened = some opened') :
    Scans ('<' :: (chars ++ ['>'])) opened opened' := by
  have hbegin : step ⟨none, opened⟩ '<' = some ⟨some [], opened⟩ := rfl
  have hend : step ⟨some chars, opened⟩ '>' = some ⟨none, opened'⟩ := by
    simp [step, htagged]
  unfold Scans
  rw [List.foldlM_cons, hbegin]
  show (chars ++ ['>']).foldlM step ⟨some [], opened⟩ = _
  rw [List.foldlM_append, foldlM_tag h, List.nil_append]
  show ['>'].foldlM step ⟨some chars, opened⟩ = _
  rw [List.foldlM_cons, hend]
  rfl

end Scans

namespace IsName

theorem not_mem (h : IsName name) : '>' ∉ name.toList := fun hmem => (h.2 _ hmem).2.1 rfl

/-- A name begins and ends with something that is no slash. -/
theorem exists_ends (h : IsName name) :
    (∃ c rest, name.toList = c :: rest ∧ c ≠ '/') ∧ name.toList.getLast? ≠ some '/' := by
  obtain ⟨hne, hchars⟩ := h
  constructor
  · cases hname : name.toList with
    | nil => exact absurd (String.toList_eq_nil_iff.1 hname) hne
    | cons c rest =>
      rw [hname] at hchars
      exact ⟨c, rest, rfl, (hchars c List.mem_cons_self).2.2⟩
  · intro hlast
    exact (hchars '/' (List.mem_of_getLast? hlast)).2.2 rfl

/-- A start tag opens an element. -/
theorem scans_start (h : IsName name) :
    Scans ('<' :: (name.toList ++ ['>'])) opened (⟨name.toList, [], []⟩ :: opened) := by
  obtain ⟨⟨c, rest, hname, hc⟩, hlast⟩ := h.exists_ends
  refine .tag h.not_mem ?_
  rw [hname] at hlast ⊢
  unfold tagged?
  split
  · rename_i hslash
    cases hslash
    exact absurd rfl hc
  · rw [if_neg hlast]

/-- A tag that closes itself is an element without text. -/
theorem scans_empty (h : IsName name) :
    Scans ('<' :: (name.toList ++ ['/'] ++ ['>'])) (inner :: outer)
      (inner.add [.leaf name ""] :: outer) := by
  obtain ⟨⟨c, rest, hname, hc⟩, -⟩ := h.exists_ends
  refine .tag ?_ ?_
  · simp [h.not_mem]
  · have hlast : (name.toList ++ ['/']).getLast? = some '/' := List.getLast?_concat
    have hfront : String.ofList (name.toList ++ ['/']).dropLast = name := by
      rw [List.dropLast_concat, String.ofList_toList]
    unfold tagged?
    split
    · rename_i hslash
      rw [hname] at hslash
      cases hslash
      exact absurd rfl hc
    · rw [if_pos hlast, hfront]
      rfl

/-- An end tag closes the element of that name. -/
theorem scans_end (h : IsName name) {closed : Element} (hclosed : closed.name = name.toList) :
    Scans ('<' :: ('/' :: name.toList ++ ['>'])) (closed :: inner :: outer)
      (inner.add [closed.content] :: outer) := by
  refine .tag ?_ ?_
  · simp [h.not_mem]
  · show (if closed.name = name.toList then add? closed.content (inner :: outer) else none) = _
    rw [if_pos hclosed]
    rfl

end IsName

end Markup

/-! ## Elements -/

namespace Token

open Markup

/-- Elements in a row are read one after another. -/
theorem scans_toXmlAll {ts : List Token} {inner : Element} {outer : List Element}
    (h : ∀ t ∈ ts, ∀ inner : Element,
      Scans t.toXml.toList (inner :: outer) (inner.add [t.content] :: outer)) :
    Scans (toXmlAll ts).toList (inner :: outer) (inner.add (contents ts) :: outer) := by
  induction ts generalizing inner with
  | nil =>
    have hsame : inner.add (contents []) = inner := by simp [Element.add, contents]
    rw [hsame]
    exact .nil
  | cons t rest ih =>
    have hrest := @ih (inner.add [t.content]) fun t' hmem => h t' (List.mem_cons_of_mem _ hmem)
    have hadded : (inner.add [t.content]).add (contents rest) =
        inner.add (contents (t :: rest)) := by simp [Element.add, contents]
    rw [hadded] at hrest
    rw [toXmlAll, String.toList_append]
    exact (h t List.mem_cons_self inner).append hrest

/-- **Reading an element adds its content to the element around it.** -/
theorem scans_toXml (t : Token) (hnames : t.Named IsName) (inner : Element)
    (outer : List Element) :
    Scans t.toXml.toList (inner :: outer) (inner.add [t.content] :: outer) := by
  induction t using tree_induction generalizing inner outer with
  | leaf name source span =>
    have hname := (named_iff.1 hnames).1
    rw [toXml, content]
    split
    · rename_i hempty
      have htext : text ⟨name, source, span, []⟩ = "" := by
        show (Text.slice? span.start span.stop source).getD "" = ""
        rw [← beq_iff_eq.1 hempty]
        exact Text.slice?_self_getD span.start source
      rw [htext]
      have hread : Scans _ (inner :: outer) _ := hname.scans_empty
      simpa using hread
    · -- the text between the tags is that of the one element that they open and close
      have hread : Scans _ (inner :: outer) _ := hname.scans_start.append ((Scans.text
        (Text.not_mem_escapeMarkup (text ⟨name, source, span, []⟩))).append (hname.scans_end rfl))
      simpa [Element.content, Text.unescapeMarkup_escapeMarkup] using hread
  | composite name source span child rest ih =>
    obtain ⟨hname, hchildren⟩ := named_iff.1 hnames
    have hinside : Scans (toXmlAll (child :: rest)).toList (⟨name.toList, [], []⟩ :: inner :: outer)
        (Element.add ⟨name.toList, [], []⟩ (contents (child :: rest)) :: inner :: outer) :=
      scans_toXmlAll fun t hmem inner' => ih t hmem (hchildren t hmem) inner' _
    have hread := hname.scans_start.append (hinside.append (hname.scans_end rfl))
    simpa [toXml, toXmlAll, content, contents, Element.content, Element.add] using hread

/-- **Exported XML keeps the content of a tree.** Names and texts are found again and so is
what is inside of what, so that two trees with the same XML have the same content. -/
theorem toXml_lossless (t : Token) (hnames : t.Named IsName) :
    decode t.toXml = some t.content ∧
      ∀ t' : Token, t'.Named IsName → t'.toXml = t.toXml → t'.content = t.content := by
  have hdecode : ∀ t : Token, t.Named IsName → decode t.toXml = some t.content := by
    intro t hnames
    have hread : t.toXml.toList.foldlM step ⟨none, [⟨[], [], []⟩]⟩ = _ :=
      t.scans_toXml hnames ⟨[], [], []⟩ []
    rw [decode, hread]
    rfl
  refine ⟨hdecode t hnames, ?_⟩
  intro t' hnames' hsame
  have hcontent := hdecode t' hnames'
  rw [hsame, hdecode t hnames] at hcontent
  exact (Option.some.inj hcontent).symm

/-! ## Texts that look like markup -/

/-- What is tagged at the end of `source`, from the offset `start`: a bracket, nothing, and
what would be a reference in XML. -/
def tagged (source : String) (start : Nat) : Token :=
  ⟨"Tag", source, ⟨start, start + 6⟩, [⟨"Open", source, ⟨start, start + 1⟩, []⟩,
    ⟨"Gap", source, ⟨start + 1, start + 1⟩, []⟩, ⟨"Word", source, ⟨start + 1, start + 6⟩, []⟩]⟩

/-- A text that looks like a reference is told from the character that the reference stands
for, and two sources with the same texts from each other not at all. -/
theorem toXml_lossless_tagged :
    decode "<Tag><Open>&lt;</Open><Gap/><Word>&amp;amp;</Word></Tag>" =
        some (.composite "Tag" [.leaf "Open" "<", .leaf "Gap" "", .leaf "Word" "&amp;"]) ∧
      (tagged "é<&amp;" 2).content = (tagged "<&amp;" 0).content := by
  have hxml : (tagged "<&amp;" 0).toXml =
      "<Tag><Open>&lt;</Open><Gap/><Word>&amp;amp;</Word></Tag>" := by decide +kernel
  have hxml' : (tagged "é<&amp;" 2).toXml = (tagged "<&amp;" 0).toXml := by decide +kernel
  have hopen : text ⟨"Open", "<&amp;", ⟨0, 1⟩, []⟩ = "<" := by decide +kernel
  have hgap : text ⟨"Gap", "<&amp;", ⟨1, 1⟩, []⟩ = "" := by decide +kernel
  have hword : text ⟨"Word", "<&amp;", ⟨1, 6⟩, []⟩ = "&amp;" := by decide +kernel
  obtain ⟨hdecode, hsame⟩ := toXml_lossless (tagged "<&amp;" 0) (by decide)
  refine ⟨?_, hsame (tagged "é<&amp;" 2) (by decide) hxml'⟩
  rw [← hxml, hdecode]
  simp [tagged, content, contents, hopen, hgap, hword]

end Token

end Packrat
