import Packrat.Proofs.JsonDocuments

/-!
# Writing and parsing JSON values

A value can be written in many ways: with blanks, with escapes in its strings, with
numerals in several forms. All of them parse to a tree that mirrors the value, and the
value can be read off the tree.

- `JsonValue.Value`: values. `JsonValue.Writes`: the texts of a value in standard JSON,
  each with the tokens that its parts are.
- `JsonValue.decode`: the value of a tree.
- `JsonValue.Writes.spells`, `JsonValue.Writes.decodes`: standard JSON is in the language
  of the grammar, and its trees have the values that were written.
- `JsonValue.run_written`, `JsonValue.run_writes`: parsing undoes writing.
-/

namespace Packrat

namespace JsonValue

open Lexical

/-! ## Values -/

/-- A JSON value. A number is its numeral, and the keys of an object may come again. -/
inductive Value where
  | null
  | bool (value : Bool)
  | number (numeral : List Char)
  | string (chars : List Char)
  | array (elements : List Value)
  | object (members : List (List Char × Value))

/-- What a text stands for: a value, a member of an object, or several of them. -/
inductive Part where
  | value (value : Value)
  | member (key : List Char) (value : Value)
  | elements (values : List Value)
  | members (members : List (List Char × Value))

/-! ## Writing characters -/

/-- The letters that stand for a character after a backslash. -/
def shortEscapes : List (Char × Char) :=
  [('"', '"'), ('\\', '\\'), ('/', '/'), ('b', '\x08'), ('f', '\x0c'), ('n', '\n'), ('r', '\r'),
    ('t', '\t')]

/-- The number that hexadecimal digits stand for. -/
def hexNumber? (digits : List Char) : Option Nat :=
  digits.foldlM (fun n c => (Text.hexDigit? c).map (16 * n + ·)) 0

/-- Four hexadecimal digits, in either case, that stand for `n`. -/
def HexNumber (digits : List Char) (n : Nat) : Prop :=
  digits.length = 4 ∧ hexNumber? digits = some n

/-- Whether two numbers are a surrogate pair. -/
def ArePair (high low : Nat) : Prop :=
  0xD800 ≤ high ∧ high ≤ 0xDBFF ∧ 0xDC00 ≤ low ∧ low ≤ 0xDFFF

instance (high low : Nat) : Decidable (ArePair high low) :=
  inferInstanceAs (Decidable (_ ∧ _))

/-- The code point of a surrogate pair. -/
def pairCode (high low : Nat) : Nat := 0x10000 + (high - 0xD800) * 0x400 + (low - 0xDC00)

/-- The ways to write a character inside a string: as it is, unless it is a quote, a
backslash or a control character; by its letter; by its number; or, if its number is too
large for that, by those of its surrogates. -/
inductive WritesChar : Char → List Char → Prop where
  | plain {c : Char} : 0x20 ≤ c.toNat → c ≠ '"' → c ≠ '\\' → WritesChar c [c]
  | short {c letter : Char} : (letter, c) ∈ shortEscapes → WritesChar c ['\\', letter]
  | code {c : Char} {digits : List Char} :
      HexNumber digits c.toNat → WritesChar c ('\\' :: 'u' :: digits)
  | pair {c : Char} {first second : List Char} {high low : Nat} :
      HexNumber first high → HexNumber second low → ArePair high low →
      c.toNat = pairCode high low →
      WritesChar c ('\\' :: 'u' :: (first ++ '\\' :: 'u' :: second))

/-- What is written for several characters. -/
inductive WritesChars : List Char → List Char → Prop where
  | nil : WritesChars [] []
  | cons {c : Char} {chars text more : List Char} :
      WritesChar c text → WritesChars chars more → WritesChars (c :: chars) (text ++ more)

/-- Characters between double quotes. -/
def WritesString (chars text : List Char) : Prop :=
  ∃ body, WritesChars chars body ∧ text = '"' :: (body ++ ['"'])

/-- Digits that begin with zero only if there is no other. -/
def Whole (digits : List Char) : Prop :=
  Digits digits ∧ (digits.head? = some '0' → digits = ['0'])

/-! ## Writing values -/

/-- The texts of standard JSON for values, members and several of them, with the tokens
that they are. Blanks stand inside brackets and around commas and colons. -/
inductive Writes : Part → Phrase → List Char → Prop where
  | null : Writes (.value .null) (.one .value (branch "Null" "null".toList [])) "null".toList
  | true : Writes (.value (.bool true)) (.one .value (branch "True" "true".toList [])) "true".toList
  | false :
      Writes (.value (.bool false)) (.one .value (branch "False" "false".toList [])) "false".toList
  | integer {sign digits : List Char} :
      Optionally (· = ['-']) sign → Whole digits →
      Writes (.value (.number (sign ++ digits)))
        (.one .value (branch "Integer" (sign ++ digits) [])) (sign ++ digits)
  | float {sign digits fraction power : List Char} :
      Optionally (· = ['-']) sign → Whole digits → Optionally Fraction fraction →
      Optionally Exponent power → fraction ++ power ≠ [] →
      Writes (.value (.number (sign ++ (digits ++ (fraction ++ power)))))
        (.one .value (branch "Float" (sign ++ (digits ++ (fraction ++ power))) []))
        (sign ++ (digits ++ (fraction ++ power)))
  | string {chars text : List Char} :
      WritesString chars text →
      Writes (.value (.string chars)) (.one .value (branch "String" text [])) text
  | emptyArray {blank : List Char} :
      Blank blank →
      Writes (.value (.array [])) (.one .value (branch "Array" ('[' :: (blank ++ [']'])) []))
        ('[' :: (blank ++ [']']))
  | array {values : List Value} {trees : List Tree} {blank items : List Char} :
      Blank blank → Writes (.elements values) (.several .value trees) items →
      Writes (.value (.array values))
        (.one .value (branch "Array" ('[' :: (blank ++ (items ++ [']']))) trees))
        ('[' :: (blank ++ (items ++ [']'])))
  | emptyObject {blank : List Char} :
      Blank blank →
      Writes (.value (.object []))
        (.one .value (branch "Object" ('\x7b' :: (blank ++ ['\x7d'])) []))
        ('\x7b' :: (blank ++ ['\x7d']))
  | object {members : List (List Char × Value)} {trees : List Tree} {blank items : List Char} :
      Blank blank → Writes (.members members) (.several .pair trees) items →
      Writes (.value (.object members))
        (.one .value (branch "Object" ('\x7b' :: (blank ++ (items ++ ['\x7d']))) trees))
        ('\x7b' :: (blank ++ (items ++ ['\x7d'])))
  | member {chars key blank blank' text : List Char} {value : Value} {tree : Tree} :
      WritesString chars key → Blank blank → Blank blank' →
      Writes (.value value) (.one .value tree) text →
      Writes (.member chars value)
        (.one .pair
          (branch "Pair" (key ++ blank ++ ':' :: (blank' ++ text)) [branch "String" key [], tree]))
        (key ++ blank ++ ':' :: (blank' ++ text))
  | lastElement {value : Value} {tree : Tree} {item blank : List Char} :
      Writes (.value value) (.one .value tree) item → Blank blank →
      Writes (.elements [value]) (.several .value [tree]) (item ++ blank)
  | nextElement {value : Value} {values : List Value} {tree : Tree} {trees : List Tree}
      {item blank blank' items : List Char} :
      Writes (.value value) (.one .value tree) item → Blank blank → Blank blank' →
      Writes (.elements values) (.several .value trees) items →
      Writes (.elements (value :: values)) (.several .value (tree :: trees))
        (item ++ blank ++ ',' :: (blank' ++ items))
  | lastMember {chars : List Char} {value : Value} {tree : Tree} {item blank : List Char} :
      Writes (.member chars value) (.one .pair tree) item → Blank blank →
      Writes (.members [(chars, value)]) (.several .pair [tree]) (item ++ blank)
  | nextMember {chars : List Char} {value : Value} {members : List (List Char × Value)}
      {tree : Tree} {trees : List Tree} {item blank blank' items : List Char} :
      Writes (.member chars value) (.one .pair tree) item → Blank blank → Blank blank' →
      Writes (.members members) (.several .pair trees) items →
      Writes (.members ((chars, value) :: members)) (.several .pair (tree :: trees))
        (item ++ blank ++ ',' :: (blank' ++ items))

/-! ## What is written is in the language -/

theorem isHexDigit_of_hexDigit? {c : Char} {n : Nat} (h : Text.hexDigit? c = some n) :
    isHexDigit c = true := by
  unfold Text.hexDigit? at h
  unfold isHexDigit
  split at h
  · simp_all
  · split at h
    · simp_all
    · split at h
      · simp_all
      · cases h

theorem isHexDigit_of_foldlM {digits : List Char} {first n : Nat}
    (h : digits.foldlM (fun n c => (Text.hexDigit? c).map (16 * n + ·)) first = some n) :
    ∀ c ∈ digits, isHexDigit c = true := by
  induction digits generalizing first with
  | nil => exact List.forall_mem_nil _
  | cons c rest ih =>
    rw [List.foldlM_cons] at h
    obtain ⟨next, hnext, hrest⟩ := Option.bind_eq_some_iff.1 h
    obtain ⟨digit, hdigit, -⟩ := Option.map_eq_some_iff.1 hnext
    exact List.forall_mem_cons.2 ⟨isHexDigit_of_hexDigit? hdigit, ih hrest⟩

variable {digits text chars : List Char} {n : Nat} {c : Char}

theorem HexNumber.escape (h : HexNumber digits n) : Escape ('\\' :: 'u' :: digits) :=
  .inr ⟨digits, h.1, isHexDigit_of_foldlM h.2, rfl⟩

theorem WritesChars.units (h : WritesChars chars text) : Units '"' text := by
  induction h with
  | nil => exact .nil
  | cons hchar _ ih =>
    cases hchar with
    | plain _ hquote hbackslash => exact .plain hquote hbackslash ih
    | @short letter hletter =>
      have hmem : letter ∈ simpleEscapes := by
        have hall : ∀ entry ∈ shortEscapes, entry.1 ∈ simpleEscapes := by decide
        exact hall _ hletter
      exact .escape (.inl ⟨letter, hmem, rfl⟩) ih
    | code hdigits => exact .escape hdigits.escape ih
    | pair hfirst hsecond =>
      have hmore := Units.escape hfirst.escape (.escape hsecond.escape ih)
      simpa using hmore

theorem WritesString.stringText (h : WritesString chars text) : StringText text := by
  obtain ⟨body, hbody, rfl⟩ := h
  exact .inl ⟨body, hbody.units, rfl⟩

/-- **Standard JSON is in the language of the grammar**, with the same tokens. -/
theorem Writes.spells {part : Part} {phrase : Phrase} (h : Writes part phrase text) :
    Spells phrase text := by
  induction h with
  | null => exact .word (by simp [words])
  | true => exact .word (by simp [words])
  | false => exact .word (by simp [words])
  | integer hsign hdigits => exact .integer hsign hdigits.1
  | float hsign hdigits hfraction hpower hsome =>
    exact .float hsign hdigits.1 hfraction hpower hsome
  | string htext => exact .string htext.stringText
  | emptyArray hblank => exact @Spells.empty .value _ hblank
  | array hblank _ ih => exact .filled hblank ih
  | emptyObject hblank => exact @Spells.empty .pair _ hblank
  | object hblank _ ih => exact .filled hblank ih
  | member hkey hblank hblank' _ ih => exact .pair hkey.stringText hblank hblank' ih
  | lastElement _ hblank ih => exact .last ih hblank
  | nextElement _ hblank hblank' _ ih ih' => exact .next ih hblank hblank' ih'
  | lastMember _ hblank ih => exact .last ih hblank
  | nextMember _ hblank hblank' _ ih ih' => exact .next ih hblank hblank' ih'

/-! ## Reading characters back -/

/-- The numbers that the units of a string stand for: characters by their code points,
numbers as they are. -/
def codes : List Char → Option (List Nat)
  | [] => some []
  | '\\' :: 'u' :: a :: b :: c :: d :: rest =>
    (hexNumber? [a, b, c, d]).bind fun n => (codes rest).map (n :: ·)
  | '\\' :: letter :: rest =>
    (shortEscapes.lookup letter).bind fun c => (codes rest).map (c.toNat :: ·)
  | c :: rest => (codes rest).map (c.toNat :: ·)

/-- The characters that numbers stand for, one by one or as surrogate pairs. -/
def scalars : List Nat → Option (List Char)
  | [] => some []
  | n :: rest =>
    if n.isValidChar then (scalars rest).map (Char.ofNat n :: ·)
    else
      match rest with
      | [] => none
      | low :: rest =>
        if ArePair n low then (scalars rest).map (Char.ofNat (pairCode n low) :: ·) else none

/-- The characters of a string between its quotes. -/
def unescape (text : List Char) : Option (List Char) := (codes text.tail.dropLast).bind scalars

theorem codes_plain {rest : List Char} (h : c ≠ '\\') :
    codes (c :: rest) = (codes rest).map (c.toNat :: ·) := by
  rw [codes]
  · exact fun _ _ _ _ _ hc => absurd hc h
  · exact fun _ _ hc => absurd hc h

theorem codes_code {rest : List Char} (h : HexNumber digits n) :
    codes ('\\' :: 'u' :: (digits ++ rest)) = (codes rest).map (n :: ·) := by
  obtain ⟨hlen, hnumber⟩ := h
  obtain ⟨a, b, c, d, rfl⟩ := List.length_eq_four.1 hlen
  show (hexNumber? [a, b, c, d]).bind _ = _
  rw [hnumber]
  rfl

theorem codes_short {letter : Char} {rest : List Char} (h : (letter, c) ∈ shortEscapes) :
    codes ('\\' :: letter :: rest) = (codes rest).map (c.toNat :: ·) := by
  simp only [shortEscapes, List.mem_cons, Prod.mk.injEq, List.not_mem_nil, or_false] at h
  rcases h with ⟨rfl, rfl⟩ | ⟨rfl, rfl⟩ | ⟨rfl, rfl⟩ | ⟨rfl, rfl⟩ | ⟨rfl, rfl⟩ | ⟨rfl, rfl⟩ |
    ⟨rfl, rfl⟩ | ⟨rfl, rfl⟩ <;> rfl

theorem scalars_char (c : Char) (rest : List Nat) :
    scalars (c.toNat :: rest) = (scalars rest).map (c :: ·) := by
  have hvalid : c.toNat.isValidChar := c.valid
  rw [scalars.eq_def]
  dsimp only
  rw [if_pos hvalid, Char.ofNat_toNat]

theorem scalars_pair {high low : Nat} {rest : List Nat} (h : ArePair high low)
    (hcode : c.toNat = pairCode high low) :
    scalars (high :: low :: rest) = (scalars rest).map (c :: ·) := by
  have hinvalid : ¬high.isValidChar := by
    obtain ⟨hhigh, hhigh', -, -⟩ := h
    unfold Nat.isValidChar
    omega
  rw [scalars.eq_def]
  dsimp only
  rw [if_neg hinvalid, if_pos h, ← hcode, Char.ofNat_toNat]

/-- What is written for characters stands for numbers, and these for the characters. -/
theorem WritesChars.exists_codes (h : WritesChars chars text) :
    ∃ numbers, codes text = some numbers ∧ scalars numbers = some chars := by
  induction h with
  | nil => exact ⟨[], rfl, rfl⟩
  | @cons c chars text more hchar _ ih =>
    obtain ⟨numbers, hcodes, hscalars⟩ := ih
    cases hchar with
    | plain _ _ hbackslash =>
      refine ⟨c.toNat :: numbers, ?_, ?_⟩
      · rw [List.singleton_append, codes_plain hbackslash, hcodes]
        rfl
      · rw [scalars_char, hscalars]
        rfl
    | short hletter =>
      refine ⟨c.toNat :: numbers, ?_, ?_⟩
      · rw [List.cons_append, List.singleton_append, codes_short hletter, hcodes]
        rfl
      · rw [scalars_char, hscalars]
        rfl
    | code hdigits =>
      refine ⟨c.toNat :: numbers, ?_, ?_⟩
      · rw [List.cons_append, List.cons_append, codes_code hdigits, hcodes]
        rfl
      · rw [scalars_char, hscalars]
        rfl
    | @pair first second high low hfirst hsecond hpair hcode =>
      refine ⟨high :: low :: numbers, ?_, ?_⟩
      · rw [List.cons_append, List.cons_append, List.append_assoc, codes_code hfirst,
          List.cons_append, List.cons_append, codes_code hsecond, hcodes]
        rfl
      · rw [scalars_pair hpair hcode, hscalars]
        rfl

theorem WritesString.unescape_eq (h : WritesString chars text) : unescape text = some chars := by
  obtain ⟨body, hbody, rfl⟩ := h
  obtain ⟨numbers, hcodes, hscalars⟩ := hbody.exists_codes
  rw [unescape, List.tail_cons, List.dropLast_concat, hcodes]
  exact hscalars

/-! ## Reading values back -/

mutual

/-- The value of a tree. -/
def decode : Tree → Option Value
  | .mk name text children =>
    match name, children with
    | "Null", [] => some .null
    | "True", [] => some (.bool true)
    | "False", [] => some (.bool false)
    | "Integer", [] | "Float", [] => some (.number text.toList)
    | "String", [] => (unescape text.toList).map .string
    | "Array", elements => (decodeElements elements).map .array
    | "Object", pairs => (decodeMembers pairs).map .object
    | "Json", [tree] => decode tree
    | _, _ => none

/-- The values of the trees in an array. -/
def decodeElements : List Tree → Option (List Value)
  | [] => some []
  | tree :: rest => (decode tree).bind fun value => (decodeElements rest).map (value :: ·)

/-- The members that the trees in an object are. -/
def decodeMembers : List Tree → Option (List (List Char × Value))
  | [] => some []
  | .mk "Pair" _ [.mk "String" key [], tree] :: rest =>
    (unescape key.toList).bind fun key => (decode tree).bind fun value =>
      (decodeMembers rest).map ((key, value) :: ·)
  | _ :: _ => none

end

/-- The trees have the values that the text stands for. -/
def Part.DecodedFrom : Part → Phrase → Prop
  | .value v, .one .value tree => decode tree = some v
  | .member key v, .one .pair tree =>
    ∀ rest, decodeMembers (tree :: rest) = (decodeMembers rest).map ((key, v) :: ·)
  | .elements vs, .several .value trees => decodeElements trees = some vs
  | .members ms, .several .pair trees => decodeMembers trees = some ms
  | _, _ => False

/-- **What was written can be read off the trees.** -/
theorem Writes.decodes {part : Part} {phrase : Phrase} (h : Writes part phrase text) :
    part.DecodedFrom phrase := by
  induction h with
  | null => rfl
  | true => rfl
  | false => rfl
  | integer => exact congrArg (some ∘ Value.number) (String.toList_ofList)
  | float => exact congrArg (some ∘ Value.number) (String.toList_ofList)
  | string htext =>
    show (unescape (String.ofList _).toList).map Value.string = _
    rw [String.toList_ofList, htext.unescape_eq]
    rfl
  | emptyArray => rfl
  | array _ _ ih =>
    show (decodeElements _).map Value.array = _
    rw [show decodeElements _ = some _ from ih]
    rfl
  | emptyObject => rfl
  | object _ _ ih =>
    show (decodeMembers _).map Value.object = _
    rw [show decodeMembers _ = some _ from ih]
    rfl
  | member hkey _ _ _ ih =>
    intro rest
    show (unescape (String.ofList _).toList).bind _ = _
    rw [String.toList_ofList, hkey.unescape_eq, Option.bind_some, show decode _ = some _ from ih,
      Option.bind_some]
  | lastElement _ _ ih =>
    show (decode _).bind _ = _
    rw [show decode _ = some _ from ih]
    rfl
  | nextElement _ _ _ _ ih ih' =>
    show (decode _).bind _ = _
    rw [show decode _ = some _ from ih, show decodeElements _ = some _ from ih']
    rfl
  | lastMember _ _ ih => exact ih []
  | nextMember _ _ _ _ ih ih' =>
    show decodeMembers (_ :: _) = _
    rw [show ∀ rest, decodeMembers (_ :: rest) = _ from ih, show decodeMembers _ = some _ from ih']
    rfl

/-! ## Parsing undoes writing -/

/-- What is written is parsed to the tree that mirrors it and read back, up to limits. -/
theorem run_written {r : Rules} (hmakes : rules.Makes r) {scope : Scope}
    (hknows : scope.Knows r.draft.rules) (hresolves : scope.Resolves r.json)
    (hidentifies : scope.Identifies r.json) (limits : Limits) (memoize complete : Bool)
    {value : Value} {tree : Tree} {before text after : List Char}
    (hbefore : Blank before) (hafter : Blank after)
    (hwrites : Writes (.value value) (.one .value tree) text) :
    let input := String.ofList (before ++ (text ++ after))
    let result := (Parser.run ⟨r.json, limits, memoize⟩ scope input complete).result
    (∃ error, result = .ok (.error (.limit error))) ∨
      ∃ token, result = .ok (.ok token) ∧
        token.tree = (if before = [] ∧ after = [] then tree else .mk "Json" input [tree]) ∧
        decode token.tree = some value := by
  intro input result
  have hdecode : decode tree = some value := hwrites.decodes
  have hrun := run_document hmakes hknows hresolves hidentifies limits memoize complete hbefore
    hafter hwrites.spells String.toList_ofList
  refine hrun.imp_right fun ⟨token, htoken, htree⟩ => ⟨token, htoken, ?_⟩
  rw [hwrites.spells.root_eq] at htree
  refine ⟨htree, ?_⟩
  rw [htree]
  split
  · exact hdecode
  · exact hdecode

/-- **Parsing undoes writing.** However a value is written, with whatever blanks around
it, a run that meets no limit finds the tree that mirrors the value. It is the whole
tree if there are no blanks around the value, and the only child of a `Json` tree
otherwise; in both cases the value can be read off. -/
theorem run_writes {value : Value} {tree : Tree} {before text after : List Char}
    (hbefore : Blank before) (hafter : Blank after)
    (hwrites : Writes (.value value) (.one .value tree) text) :
    ∃ g, Catalog.standard.find? "json" = some g ∧
      ∀ (limits : Limits) (memoize complete : Bool),
        let input := String.ofList (before ++ (text ++ after))
        let result := (Parser.run ⟨g.root, limits, memoize⟩ Catalog.standard.scope input complete).result
        (∃ error, result = .ok (.error (.limit error))) ∨
          ∃ token, result = .ok (.ok token) ∧
            token.tree = (if before = [] ∧ after = [] then tree else .mk "Json" input [tree]) ∧
            decode token.tree = some value := by
  obtain ⟨r, g, hmakes, hfind, hroot, hknows, hresolves, hidentifies⟩ := Catalog.exists_json
  refine ⟨g, hfind, fun limits memoize complete => ?_⟩
  rw [hroot]
  exact run_written hmakes hknows hresolves hidentifies limits memoize complete hbefore hafter
    hwrites

/-- A clef that is written by its surrogates, in an object with a blank before it. -/
theorem run_writes_clef :
    ∃ g, Catalog.standard.find? "json" = some g ∧
      ∀ (limits : Limits) (memoize complete : Bool),
        let input := " \x7b\"k\" : \"\\ud834\\uDD1E\"\x7d"
        let result := (Parser.run ⟨g.root, limits, memoize⟩ Catalog.standard.scope input complete).result
        (∃ error, result = .ok (.error (.limit error))) ∨
          ∃ token, result = .ok (.ok token) ∧
            token.tree = .mk "Json" input
              [.mk "Object" "\x7b\"k\" : \"\\ud834\\uDD1E\"\x7d"
                [.mk "Pair" "\"k\" : \"\\ud834\\uDD1E\""
                  [.mk "String" "\"k\"" [], .mk "String" "\"\\ud834\\uDD1E\"" []]]] ∧
            decode token.tree = some (.object [(['k'], .string ['𝄞'])]) := by
  have hspace : Blank [' '] := by simp [Blank, isBlank]
  have hnone : Blank [] := List.forall_mem_nil _
  have hkey : WritesString ['k'] ['"', 'k', '"'] :=
    ⟨['k'], .cons (.plain (by decide) (by decide) (by decide)) .nil, rfl⟩
  have hpair : WritesChar '𝄞' "\\ud834\\uDD1E".toList :=
    @WritesChar.pair '𝄞' ['d', '8', '3', '4'] ['D', 'D', '1', 'E'] 0xD834 0xDD1E ⟨rfl, rfl⟩
      ⟨rfl, rfl⟩ (by decide) (by decide)
  have hclef : WritesString ['𝄞'] "\"\\ud834\\uDD1E\"".toList := ⟨_, .cons hpair .nil, rfl⟩
  have hmember := Writes.member hkey hspace hspace (.string hclef)
  have hobject := Writes.object hnone (.lastMember hmember hnone)
  obtain ⟨g, hfind, hrun⟩ := run_writes hspace hnone hobject
  refine ⟨g, hfind, fun limits memoize complete => ?_⟩
  simpa [branch] using hrun limits memoize complete

end JsonValue

end Packrat
