import Packrat.Proofs.JsonTexts

/-!
# What exported JSON says

A token is exported in two layouts. Both are texts of standard JSON, and they stand for one
value. The value says what equality of tokens asks for: name, span, and the text of a leaf
or the children of a composite. The text of a composite is not in it, but source and span
determine that.

- `JsonValue.withoutBlanks`: text without the blanks outside of its strings.
- `Json.value`: the value of a document. `Json.denotes_compact`, `Json.denotes_prettyAt`: both
  layouts stand for it. `Json.squeezes_prettyAt`: they differ by blanks.
- `Token.value`: the value of a token. `Token.same_of_value_eq`: tokens over one source that
  have one value are equal.
- `Token.toJson_decides`: **exported JSON decides equality of tokens.**
-/

namespace Packrat

namespace JsonValue

open Lexical

/-! ## Layouts -/

/-- Texts that all begin alike are separated by more. -/
theorem intercalate_indent (margin separator text : List Char) (texts : List (List Char)) :
    separator.intercalate ((text :: texts).map (margin ++ ·)) =
      margin ++ (separator ++ margin).intercalate (text :: texts) := by
  induction texts generalizing text with
  | nil => simp [List.intercalate]
  | cons next texts ih =>
    have hmore := ih next
    simp only [List.intercalate, List.map_cons, List.intersperse_cons_cons,
      List.flatten_cons] at hmore ⊢
    rw [hmore]
    simp

/-! ## Blanks -/

/-- The text without the blanks outside of strings. `inside` says whether a string has begun. -/
def withoutBlanks (inside : Bool) : List Char → List Char
  | [] => []
  | '\\' :: c :: rest => '\\' :: c :: withoutBlanks inside rest
  | c :: rest =>
    if c = '"' then c :: withoutBlanks (!inside) rest
    else if !inside && isBlank c then withoutBlanks inside rest
    else c :: withoutBlanks inside rest

/-- Text that is no blank stays, and so does that inside of strings. -/
theorem withoutBlanks_plain {inside : Bool} {text : List Char}
    (h : ∀ c ∈ text, c ≠ '"' ∧ c ≠ '\\' ∧ (!inside && isBlank c) = false) (rest : List Char) :
    withoutBlanks inside (text ++ rest) = text ++ withoutBlanks inside rest := by
  induction text with
  | nil => rfl
  | cons c more ih =>
    obtain ⟨⟨hquote, hbackslash, hkeep⟩, hmore⟩ := List.forall_mem_cons.1 h
    rw [List.cons_append, withoutBlanks, if_neg hquote, hkeep, ih hmore]
    · rfl
    · exact fun _ _ h => absurd h hbackslash

theorem withoutBlanks_units {text : List Char} (h : Units '"' text) (rest : List Char) :
    withoutBlanks true (text ++ rest) = text ++ withoutBlanks true rest := by
  induction h with
  | nil => rfl
  | @plain c text hquote hbackslash _ ih =>
    have hfirst : withoutBlanks true ([c] ++ (text ++ rest)) = _ :=
      withoutBlanks_plain (List.forall_mem_singleton.2 ⟨hquote, hbackslash, rfl⟩) _
    rw [List.cons_append, ← List.singleton_append, hfirst, ih]
    rfl
  | @escape first text hescape _ ih =>
    rcases hescape with ⟨letter, -, rfl⟩ | ⟨digits, -, hdigits, rfl⟩
    · exact congrArg ('\\' :: letter :: ·) ih
    · have hplain : ∀ c ∈ digits, c ≠ '"' ∧ c ≠ '\\' ∧ (!true && isBlank c) = false := by
        intro c hmem
        have hdigit := hdigits c hmem
        refine ⟨?_, ?_, rfl⟩
        all_goals
          rintro rfl
          exact absurd hdigit (by decide)
      rw [List.append_assoc]
      show '\\' :: 'u' :: withoutBlanks true (digits ++ (text ++ rest)) = _
      rw [withoutBlanks_plain hplain, ih]
      simp

/-- Without its blanks the first text is the second one, whatever comes behind. -/
def Squeezes (text bare : List Char) : Prop :=
  ∀ rest, withoutBlanks false (text ++ rest) = bare ++ withoutBlanks false rest

namespace Squeezes

variable {text bare text' bare' : List Char}

theorem append (h : Squeezes text bare) (h' : Squeezes text' bare') :
    Squeezes (text ++ text') (bare ++ bare') := by
  intro rest
  rw [List.append_assoc, h, h', List.append_assoc]

theorem blank (h : Blank text) : Squeezes text [] := by
  intro rest
  induction text with
  | nil => rfl
  | cons c more ih =>
    obtain ⟨hc, hmore⟩ := List.forall_mem_cons.1 h
    have hne {d : Char} (hd : isBlank d = false) : c ≠ d := by
      rintro rfl
      rw [hc] at hd
      cases hd
    rw [List.cons_append, withoutBlanks, if_neg (hne rfl), hc]
    · exact ih hmore
    · exact fun _ _ h => absurd h (hne rfl)

theorem plain (h : ∀ c ∈ text, c ≠ '"' ∧ c ≠ '\\' ∧ isBlank c = false) : Squeezes text text :=
  withoutBlanks_plain fun c hmem => ⟨(h c hmem).1, (h c hmem).2.1, by simp [(h c hmem).2.2]⟩

/-- A string stays with its blanks. -/
theorem string {chars : List Char} (h : WritesString chars text) : Squeezes text text := by
  intro rest
  obtain ⟨body, hbody, rfl⟩ := h
  have hunits := withoutBlanks_units hbody.units ('"' :: rest)
  show '"' :: withoutBlanks true (body ++ ['"'] ++ rest) = _
  rw [List.append_assoc, List.singleton_append, hunits]
  simp [withoutBlanks]

theorem intercalate {texts texts' : List (List Char)} {separator separator' : List Char}
    (hseparator : Squeezes separator separator') (h : List.Forall₂ Squeezes texts texts') :
    Squeezes (separator.intercalate texts) (separator'.intercalate texts') := by
  induction h with
  | nil => exact fun _ => rfl
  | cons hfirst hrest ih =>
    cases hrest with
    | nil => simpa [List.intercalate] using hfirst
    | cons hsecond hmore =>
      have hjoined := hfirst.append (hseparator.append ih)
      simpa [List.intercalate] using hjoined

end Squeezes

end JsonValue

namespace Json

open JsonValue Lexical

mutual

/-- The value of a document. -/
def value : Json → Value
  | .number n => .number (Nat.toDigits 10 n)
  | .string s => .string s.toList
  | .array items => .array (values items)
  | .object fields => .object (members fields)

/-- The values of several documents. -/
def values : List Json → List Value
  | [] => []
  | item :: rest => value item :: values rest

/-- The values of several fields, with their keys. -/
def members : List (String × Json) → List (List Char × Value)
  | [] => []
  | (key, document) :: rest => (key.toList, value document) :: members rest

end

theorem writes_field (key : String) {value : Value} {blank text : List Char}
    (hblank : Blank blank) (h : Denotes text value) :
    ∃ tree, Writes (.member key.toList value) (.one .pair tree)
      ((quote key).toList ++ ':' :: (blank ++ text)) := by
  obtain ⟨tree, h⟩ := h
  exact ⟨_, by simpa using Writes.member (writesString_quote key) (List.forall_mem_nil _) hblank h⟩

mutual

theorem denotes_compact : ∀ document : Json, Denotes document.compact.toList document.value
  | .number n => denotes_number n
  | .string s => ⟨_, .string (writesString_quote s)⟩
  | .array items => by
    have hnone : Blank [] := List.forall_mem_nil _
    have h := denotes_array (denotes_compactItems items) hnone hnone hnone
    simpa [compact, value, String.toList_intercalate] using h
  | .object fields => by
    have hnone : Blank [] := List.forall_mem_nil _
    have h := denotes_object (denotes_compactFields fields) hnone hnone hnone
    simpa [compact, value, String.toList_intercalate] using h

theorem denotes_compactItems : ∀ items : List Json,
    List.Forall₂ (fun value text => Denotes text value) (values items)
      ((compactItems items).map String.toList)
  | [] => .nil
  | item :: rest => .cons (denotes_compact item) (denotes_compactItems rest)

theorem denotes_compactFields : ∀ fields : List (String × Json),
    List.Forall₂ (fun member text => ∃ tree,
      Writes (.member member.1 member.2) (.one .pair tree) text) (members fields)
      ((compactFields fields).map String.toList)
  | [] => .nil
  | (key, document) :: rest => by
    have h := writes_field key (List.forall_mem_nil _) (denotes_compact document)
    exact .cons (by simpa using h) (denotes_compactFields rest)

end


theorem blank_indent {margin : String} (hmargin : Blank margin.toList) :
    Blank (margin ++ "  ").toList := by
  rw [String.toList_append]
  exact hmargin.append (List.forall_mem_cons.2 ⟨rfl, List.forall_mem_singleton.2 rfl⟩)

/-- Parts one a line are parts with blanks around them. -/
theorem toList_enclose {margin : String} (hmargin : Blank margin.toList) (opening closing : String)
    (parts : List String) :
    ∃ before gap after : List Char, Blank before ∧ Blank gap ∧ Blank after ∧
      (enclose opening margin parts closing).toList = opening.toList ++
        (before ++ ((',' :: gap).intercalate (parts.map String.toList) ++ after ++
          closing.toList)) := by
  cases parts with
  | nil =>
    have hnone : Blank [] := List.forall_mem_nil _
    exact ⟨[], [], [], hnone, hnone, hnone, by simp [enclose, List.intercalate]⟩
  | cons part rest =>
    have hline : Blank ('\n' :: (margin ++ "  ").toList) :=
      List.forall_mem_cons.2 ⟨rfl, blank_indent hmargin⟩
    refine ⟨_, _, '\n' :: margin.toList, hline, hline, List.forall_mem_cons.2 ⟨rfl, hmargin⟩, ?_⟩
    have hjoined := intercalate_indent (margin ++ "  ").toList ",\n".toList part.toList
      (rest.map String.toList)
    have hmap : ((part :: rest).map (margin ++ "  " ++ ·)).map String.toList =
        (part.toList :: rest.map String.toList).map ((margin ++ "  ").toList ++ ·) := by
      simp [Function.comp_def]
    simp only [enclose, List.isEmpty_cons, Bool.false_eq_true, if_false, String.toList_append,
      String.toList_intercalate] at hjoined hmap ⊢
    rw [hmap, hjoined]
    simp

mutual

theorem denotes_prettyAt : ∀ (document : Json) {margin : String}, Blank margin.toList →
    Denotes (document.prettyAt margin).toList document.value
  | .number n, _, _ => denotes_number n
  | .string s, _, _ => ⟨_, .string (writesString_quote s)⟩
  | .array items, margin, hmargin => by
    obtain ⟨before, gap, after, hbefore, hgap, hafter, htext⟩ :=
      toList_enclose hmargin "[" "]" (prettyItems (margin ++ "  ") items)
    rw [prettyAt, htext, value]
    exact denotes_array (denotes_prettyItems items (blank_indent hmargin)) hbefore hgap hafter
  | .object fields, margin, hmargin => by
    obtain ⟨before, gap, after, hbefore, hgap, hafter, htext⟩ :=
      toList_enclose hmargin "\x7b" "\x7d" (prettyFields (margin ++ "  ") fields)
    rw [prettyAt, htext, value]
    exact denotes_object (denotes_prettyFields fields (blank_indent hmargin)) hbefore hgap hafter

theorem denotes_prettyItems : ∀ (items : List Json) {margin : String}, Blank margin.toList →
    List.Forall₂ (fun value text => Denotes text value) (values items)
      ((prettyItems margin items).map String.toList)
  | [], _, _ => .nil
  | item :: rest, _, hmargin =>
    .cons (denotes_prettyAt item hmargin) (denotes_prettyItems rest hmargin)

theorem denotes_prettyFields : ∀ (fields : List (String × Json)) {margin : String},
    Blank margin.toList →
    List.Forall₂ (fun member text => ∃ tree,
      Writes (.member member.1 member.2) (.one .pair tree) text) (members fields)
      ((prettyFields margin fields).map String.toList)
  | [], _, _ => .nil
  | (key, document) :: rest, _, hmargin => by
    have hblank : Blank [' '] := List.forall_mem_singleton.2 rfl
    have hfield := writes_field key hblank (denotes_prettyAt document hmargin)
    exact .cons (by simpa using hfield) (denotes_prettyFields rest hmargin)

end

/-- Parts with blanks around them are parts without. -/
theorem squeezes_enclose {margin : String} (hmargin : Blank margin.toList)
    {opening closing : String} {parts parts' : List String}
    (hopening : Squeezes opening.toList opening.toList)
    (hclosing : Squeezes closing.toList closing.toList)
    (h : List.Forall₂ Squeezes (parts.map String.toList) (parts'.map String.toList)) :
    Squeezes (enclose opening margin parts closing).toList
      (opening ++ ",".intercalate parts' ++ closing).toList := by
  obtain ⟨before, gap, after, hbefore, hgap, hafter, htext⟩ :=
    toList_enclose hmargin opening closing parts
  have hcomma : Squeezes [','] [','] := .plain (List.forall_mem_singleton.2 (by decide))
  have hseparator : Squeezes (',' :: gap) [','] := hcomma.append (.blank hgap)
  have hjoined := hopening.append ((Squeezes.blank hbefore).append
    (((Squeezes.intercalate hseparator h).append (.blank hafter)).append hclosing))
  rw [htext]
  simpa [String.toList_intercalate] using hjoined

mutual

/-- **Layouts differ by blanks outside of strings.** -/
theorem squeezes_prettyAt : ∀ (document : Json) {margin : String}, Blank margin.toList →
    Squeezes (document.prettyAt margin).toList document.compact.toList
  | .number n, _, _ => by
    refine .plain fun c hmem => ?_
    rw [prettyAt, Nat.toString_eq_ofList_toDigits, String.toList_ofList] at hmem
    have hdigit : c.isDigit = true := Nat.isDigit_of_mem_toDigits (by decide) (by decide) hmem
    have hne {d : Char} (hd : d.isDigit = false) : c ≠ d := by
      rintro rfl
      rw [hdigit] at hd
      cases hd
    exact ⟨hne rfl, hne rfl, by simp [isBlank, hne]⟩
  | .string s, _, _ => .string (writesString_quote s)
  | .array items, margin, hmargin => by
    rw [prettyAt, compact]
    exact squeezes_enclose hmargin (.plain (List.forall_mem_singleton.2 (by decide)))
      (.plain (List.forall_mem_singleton.2 (by decide)))
      (squeezes_prettyItems items (blank_indent hmargin))
  | .object fields, margin, hmargin => by
    rw [prettyAt, compact]
    exact squeezes_enclose hmargin (.plain (List.forall_mem_singleton.2 (by decide)))
      (.plain (List.forall_mem_singleton.2 (by decide)))
      (squeezes_prettyFields fields (blank_indent hmargin))

theorem squeezes_prettyItems : ∀ (items : List Json) {margin : String}, Blank margin.toList →
    List.Forall₂ Squeezes ((prettyItems margin items).map String.toList)
      ((compactItems items).map String.toList)
  | [], _, _ => .nil
  | item :: rest, _, hmargin =>
    .cons (squeezes_prettyAt item hmargin) (squeezes_prettyItems rest hmargin)

theorem squeezes_prettyFields : ∀ (fields : List (String × Json)) {margin : String},
    Blank margin.toList →
    List.Forall₂ Squeezes ((prettyFields margin fields).map String.toList)
      ((compactFields fields).map String.toList)
  | [], _, _ => .nil
  | (key, document) :: rest, _, hmargin => by
    have hcolon : Squeezes [':'] [':'] := .plain (List.forall_mem_singleton.2 (by decide))
    have hblank : Squeezes [' '] [] := .blank (List.forall_mem_singleton.2 rfl)
    have hfield := (Squeezes.string (writesString_quote key)).append
      ((hcolon.append hblank).append (squeezes_prettyAt document hmargin))
    exact .cons (by simpa using hfield) (squeezes_prettyFields rest hmargin)

end

end Json

namespace Token

open JsonValue

/-! ## Tokens -/

mutual

/-- The value of a token. -/
def value : Token → Value
  | ⟨name, source, span, children⟩ =>
    let head := [("name".toList, Value.string name.toList),
      ("span".toList, Value.array [.number (Nat.toDigits 10 span.start),
        .number (Nat.toDigits 10 span.stop)])]
    match children with
    | [] => .object (head ++ [("text".toList, .string (text ⟨name, source, span, []⟩).toList)])
    | child :: rest => .object (head ++ [("children".toList, .array (value child :: values rest))])

/-- The values of several tokens. -/
def values : List Token → List Value
  | [] => []
  | t :: ts => value t :: values ts

end

mutual

/-- The document of a token has its value. -/
theorem value_document : ∀ t : Token, t.document.value = t.value
  | ⟨name, source, span, []⟩ => rfl
  | ⟨name, source, span, child :: rest⟩ => by
    have hchildren := values_documents (child :: rest)
    rw [documents, values] at hchildren
    rw [document, value]
    simp [Json.value, Json.members, Json.values, ← hchildren]

theorem values_documents : ∀ ts : List Token, Json.values (documents ts) = values ts
  | [] => rfl
  | t :: ts => by rw [documents, Json.values, values, value_document t, values_documents ts]

end

theorem denotes_toJson (t : Token) (indented : Bool) :
    Denotes (t.toJson indented).toList t.value := by
  rw [← value_document]
  cases indented with
  | false => exact Json.denotes_compact t.document
  | true => exact Json.denotes_prettyAt t.document (List.forall_mem_nil _)

/-! ## Equality -/

mutual

/-- Equal tokens have one document. -/
theorem document_eq_of_same : ∀ {t t' : Token}, same t t' = true → t.document = t'.document
  | ⟨name, source, span, children⟩, ⟨name', source', span', children'⟩, h => by
    rw [same, Bool.and_eq_true, Bool.and_eq_true, Bool.and_eq_true] at h
    obtain ⟨⟨⟨hname, hspan⟩, htext⟩, hchildren⟩ := h
    obtain rfl := eq_of_beq hname
    obtain rfl := eq_of_beq hspan
    have hdocuments := documents_eq_of_sameAll hchildren
    cases children with
    | nil =>
      cases children' with
      | nil => rw [document, document, eq_of_beq htext]
      | cons child' rest' => cases hchildren
    | cons child rest =>
      cases children' with
      | nil => cases hchildren
      | cons child' rest' =>
        rw [documents, documents] at hdocuments
        rw [document, document, hdocuments]

theorem documents_eq_of_sameAll : ∀ {ts ts' : List Token},
    sameAll ts ts' = true → documents ts = documents ts'
  | [], [], _ => rfl
  | t :: ts, t' :: ts', h => by
    rw [sameAll, Bool.and_eq_true] at h
    rw [documents, documents, document_eq_of_same h.1, documents_eq_of_sameAll h.2]

end

/-- All tokens in the tree are over one source. -/
def Over (source : String) (t : Token) : Prop := ∀ d ∈ t.preorder, d.source = source

instance (source : String) (t : Token) : Decidable (t.Over source) :=
  inferInstanceAs (Decidable (∀ d ∈ t.preorder, d.source = source))

variable {source : String}

theorem over_iff {name source' : String} {span : Span} {children : List Token} :
    Over source ⟨name, source', span, children⟩ ↔
      source' = source ∧ ∀ child ∈ children, child.Over source :=
  forall_mem_preorder

/-- The value says name, span and children. -/
theorem eq_of_value_eq {name name' source source' : String} {span span' : Span}
    {children children' : List Token}
    (h : value ⟨name, source, span, children⟩ = value ⟨name', source', span', children'⟩) :
    name = name' ∧ span = span' ∧ values children = values children' := by
  obtain ⟨start, stop⟩ := span
  obtain ⟨start', stop'⟩ := span'
  have hnumbers (h : Nat.toDigits 10 start = Nat.toDigits 10 start' ∧
      Nat.toDigits 10 stop = Nat.toDigits 10 stop') : Span.mk start stop = ⟨start', stop'⟩ := by
    rw [toDigits_inj h.1, toDigits_inj h.2]
  cases children with
  | nil =>
    cases children' with
    | nil =>
      simp only [value, List.cons_append, List.nil_append, Value.object.injEq, List.cons.injEq,
        Prod.mk.injEq, Value.string.injEq, Value.array.injEq, Value.number.injEq, true_and,
        and_true, String.toList_inj] at h
      exact ⟨h.1, hnumbers h.2.1, rfl⟩
    | cons child' rest' => simp [value] at h
  | cons child rest =>
    cases children' with
    | nil => simp [value] at h
    | cons child' rest' =>
      simp only [value, List.cons_append, List.nil_append, Value.object.injEq, List.cons.injEq,
        Prod.mk.injEq, Value.string.injEq, Value.array.injEq, Value.number.injEq, true_and,
        and_true, String.toList_inj] at h
      exact ⟨h.1, hnumbers h.2.1, by rw [values, values, h.2.2.1, h.2.2.2]⟩

theorem sameAll_of_values_eq {ts ts' : List Token}
    (h : ∀ t ∈ ts, ∀ t' ∈ ts', t.value = t'.value → same t t' = true)
    (hvalues : values ts = values ts') : sameAll ts ts' = true := by
  induction ts generalizing ts' with
  | nil =>
    cases ts' with
    | nil => rfl
    | cons => cases hvalues
  | cons t rest ih =>
    cases ts' with
    | nil => cases hvalues
    | cons t' rest' =>
      rw [values, values, List.cons.injEq] at hvalues
      rw [sameAll, h t List.mem_cons_self t' List.mem_cons_self hvalues.1, Bool.true_and]
      exact ih (fun t hmem t' hmem' =>
        h t (List.mem_cons_of_mem _ hmem) t' (List.mem_cons_of_mem _ hmem')) hvalues.2

/-- **Over one source the value says all that equality asks for.** The text of a composite
is not in it, but that is the source under the span. -/
theorem same_of_value_eq {t t' : Token} (ht : t.Over source) (ht' : t'.Over source)
    (h : t.value = t'.value) : same t t' = true := by
  have hstep {name source₁ : String} {span : Span} {children : List Token} {t' : Token}
      (ht : Over source ⟨name, source₁, span, children⟩) (ht' : t'.Over source)
      (h : value ⟨name, source₁, span, children⟩ = t'.value)
      (ih : ∀ t ∈ children, ∀ {t' : Token}, t.Over source → t'.Over source → t.value = t'.value →
        same t t' = true) : same ⟨name, source₁, span, children⟩ t' = true := by
    obtain ⟨name', source₂, span', children'⟩ := t'
    obtain ⟨rfl, hchildren⟩ := over_iff.1 ht
    obtain ⟨rfl, hchildren'⟩ := over_iff.1 ht'
    obtain ⟨rfl, rfl, hvalues⟩ := eq_of_value_eq h
    have hall := sameAll_of_values_eq (fun t hmem t' hmem' =>
      ih t hmem (hchildren t hmem) (hchildren' t' hmem')) hvalues
    simp [same, hall]
  induction t using tree_induction generalizing t' with
  | leaf name source₁ span => exact hstep ht ht' h (List.forall_mem_nil _)
  | composite name source₁ span child rest ih => exact hstep ht ht' h ih

/-! ## What exported JSON decides -/

/-- The text without blanks, from those of the children. -/
theorem toJson_false (t : Token) :
    t.toJson false = "\x7b\"name\":" ++ Json.quote t.name ++ ",\"span\":[" ++ toString t.start ++
      "," ++ toString t.stop ++ "]," ++
      (if t.isLeaf then "\"text\":" ++ Json.quote t.text
        else "\"children\":[" ++ ",".intercalate (t.children.map (toJson false)) ++ "]") ++
      "\x7d" := by
  have hdocuments (ts : List Token) :
      Json.compactItems (documents ts) = ts.map (toJson false) := by
    induction ts with
    | nil => rfl
    | cons t ts ih =>
      rw [documents, Json.compactItems, ih]
      rfl
  have hname : Json.quote "name" = "\"name\"" := by decide +kernel
  have hspan : Json.quote "span" = "\"span\"" := by decide +kernel
  obtain ⟨name, source, span, children⟩ := t
  cases children with
  | nil =>
    have htext : Json.quote "text" = "\"text\"" := by decide +kernel
    simp [← String.toList_inj, toJson, document, Json.compact, Json.compactFields,
      Json.compactItems, isLeaf, start, stop, hname, hspan, htext, text_mk]
  | cons child rest =>
    have hchildren : Json.quote "children" = "\"children\"" := by decide +kernel
    have hdocument : document ⟨name, source, span, child :: rest⟩ = .object [("name", .string name),
        ("span", .array [.number span.start, .number span.stop]),
        ("children", .array (documents (child :: rest)))] := by
      rw [document, documents]
      rfl
    show (document ⟨name, source, span, child :: rest⟩).compact = _
    rw [hdocument]
    simp [← String.toList_inj, Json.compact, Json.compactFields, Json.compactItems, hdocuments,
      String.toList_intercalate, isLeaf, start, stop, hname, hspan, hchildren]

/-- **Exported JSON decides equality of tokens.** Both layouts stand for the value of the
token, and for no other; they differ by blanks outside of strings, and strings are written in
the shortest way. Equal tokens are exported alike, and over one source no others are. -/
theorem toJson_decides :
    (∀ t : Token,
      (∀ indented value, Denotes (t.toJson indented).toList value ↔ value = t.value) ∧
      t.toJson false = "\x7b\"name\":" ++ Json.quote t.name ++ ",\"span\":[" ++ toString t.start ++
        "," ++ toString t.stop ++ "]," ++
        (if t.isLeaf then "\"text\":" ++ Json.quote t.text
          else "\"children\":[" ++ ",".intercalate (t.children.map (toJson false)) ++ "]") ++
        "\x7d" ∧
      withoutBlanks false (t.toJson true).toList = (t.toJson false).toList) ∧
    (∀ (s : String) (text : List Char),
      ShortestString s.toList text ↔ text = (Json.quote s).toList) ∧
    (∀ t t' : Token, (t == t') = true → ∀ indented, t.toJson indented = t'.toJson indented) ∧
    ∀ (t t' : Token) (source : String) (indented : Bool), t.Over source → t'.Over source →
      t.toJson indented = t'.toJson indented → (t == t') = true := by
  refine ⟨fun t => ⟨fun indented value => ?_, t.toJson_false, ?_⟩, fun s _ => shortestString_iff s,
    fun t t' hsame indented => ?_, fun t t' source indented ht ht' htext => ?_⟩
  · constructor
    · exact fun h => h.unique (t.denotes_toJson indented)
    · rintro rfl
      exact t.denotes_toJson indented
  · have hnone : Lexical.Blank "".toList := List.forall_mem_nil _
    have hblanks := Json.squeezes_prettyAt t.document hnone []
    rw [List.append_nil] at hblanks
    exact hblanks.trans (List.append_nil _)
  · rw [toJson, toJson, document_eq_of_same hsame]
  · have hvalue := t.denotes_toJson indented
    rw [htext] at hvalue
    exact same_of_value_eq ht ht' (hvalue.unique (t'.denotes_toJson indented))

/-- A quote, a line break and a control character, in a text that goes on with `more`. -/
def escaped (more : String) : Token :=
  let source := "\"\n\x01" ++ more
  ⟨"Text", source, ⟨0, 3⟩, [⟨"Mark", source, ⟨0, 2⟩, []⟩, ⟨"Code", source, ⟨2, 3⟩, []⟩]⟩

/-- What the text goes on with is not exported. -/
theorem toJson_decides_escaped :
    (escaped "").toJson false = "\x7b\"name\":\"Text\",\"span\":[0,3],\"children\":[" ++
        "\x7b\"name\":\"Mark\",\"span\":[0,2],\"text\":\"\\\"\\n\"\x7d," ++
        "\x7b\"name\":\"Code\",\"span\":[2,3],\"text\":\"\\u0001\"\x7d]\x7d" ∧
      (escaped "" == escaped "more") = true ∧
      (escaped "").toJson true = (escaped "more").toJson true ∧
      (escaped "more").Over "\"\n\x01more" ∧
      (escaped "more" == escaped "more") = true := by
  obtain ⟨-, -, hequal, hsource⟩ := toJson_decides
  have hsame : (escaped "" == escaped "more") = true := by decide +kernel
  have hover : (escaped "more").Over "\"\n\x01more" := by decide
  exact ⟨by decide +kernel, hsame, hequal _ _ hsame true, hover, hsource _ _ _ true hover hover rfl⟩

end Token

end Packrat
