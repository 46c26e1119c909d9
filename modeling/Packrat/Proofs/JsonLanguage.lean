import Packrat.Proofs.Catalog
import Packrat.Proofs.Lexemes

/-!
# The language of JSON documents

The texts of JSON documents as a context-free grammar, each with the tokens that its
parts are, and the rules of the JSON grammar, which generate nothing else.

- `JsonValue.Spells`, `JsonValue.Document`: the language.
- `JsonValue.Rules.Composed`: what the rules are made of, which `composed` reads off
  the program that builds them.
- `JsonValue.Rules.Composed.spells_value`, `document_of_generates`: what the rules
  generate is in the language.
-/

namespace Packrat

namespace JsonValue

open Builder Lexical
open Text (Avoids)

/-! ## The language -/

/-- What a container holds: an object holds pairs, an array holds values. -/
inductive Kind where
  | pair
  | value

namespace Kind

/-- The token of the container. -/
def container : Kind → String
  | pair => "Object"
  | value => "Array"

/-- The bracket before the items. -/
def opening : Kind → Char
  | pair => '\x7b'
  | value => '['

/-- The bracket after the items. -/
def closing : Kind → Char
  | pair => '\x7d'
  | value => ']'

end Kind

/-- One item with its token, or several items, separated by commas, with theirs. -/
inductive Phrase where
  | one (kind : Kind) (tree : Tree)
  | several (kind : Kind) (trees : List Tree)

/-- A token with the text `text`. -/
def branch (name : String) (text : List Char) (children : List Tree) : Tree :=
  .mk name (String.ofList text) children

/-- Text between two double or between two single quotes. -/
def StringText (text : List Char) : Prop := Quoted '"' text ∨ Quoted '\x27' text

/-- The words, with their tokens. -/
def words : List (String × String) := [("True", "true"), ("False", "false"), ("Null", "null")]

/-- The texts of values, of pairs, and of what stands in a container. Blanks stand
inside brackets, around commas and colons, and nowhere else. -/
inductive Spells : Phrase → List Char → Prop where
  | string {text : List Char} :
      StringText text → Spells (.one .value (branch "String" text [])) text
  | integer {sign digits : List Char} :
      Optionally (· = ['-']) sign → Digits digits →
      Spells (.one .value (branch "Integer" (sign ++ digits) [])) (sign ++ digits)
  | float {sign digits fraction power : List Char} :
      Optionally (· = ['-']) sign → Digits digits → Optionally Fraction fraction →
      Optionally Exponent power → fraction ++ power ≠ [] →
      Spells (.one .value (branch "Float" (sign ++ (digits ++ (fraction ++ power))) []))
        (sign ++ (digits ++ (fraction ++ power)))
  | word {name text : String} :
      (name, text) ∈ words → Spells (.one .value (branch name text.toList [])) text.toList
  | empty {kind : Kind} {blank : List Char} :
      Blank blank →
      Spells (.one .value (branch kind.container (kind.opening :: (blank ++ [kind.closing])) []))
        (kind.opening :: (blank ++ [kind.closing]))
  | filled {kind : Kind} {blank items : List Char} {trees : List Tree} :
      Blank blank → Spells (.several kind trees) items →
      Spells
        (.one .value
          (branch kind.container (kind.opening :: (blank ++ (items ++ [kind.closing]))) trees))
        (kind.opening :: (blank ++ (items ++ [kind.closing])))
  | pair {key blank blank' value : List Char} {tree : Tree} :
      StringText key → Blank blank → Blank blank' → Spells (.one .value tree) value →
      Spells
        (.one .pair
          (branch "Pair" (key ++ blank ++ ':' :: (blank' ++ value)) [branch "String" key [], tree]))
        (key ++ blank ++ ':' :: (blank' ++ value))
  | last {kind : Kind} {item blank : List Char} {tree : Tree} :
      Spells (.one kind tree) item → Blank blank → Spells (.several kind [tree]) (item ++ blank)
  | next {kind : Kind} {item blank blank' items : List Char} {tree : Tree} {trees : List Tree} :
      Spells (.one kind tree) item → Blank blank → Blank blank' →
      Spells (.several kind trees) items →
      Spells (.several kind (tree :: trees)) (item ++ blank ++ ',' :: (blank' ++ items))

/-- A document: a value with blanks around it. -/
def Document (text : List Char) : Prop :=
  ∃ before value after tree, Blank before ∧ Blank after ∧ Spells (.one .value tree) value ∧
    text = before ++ (value ++ after)

/-! ## The rules -/

/-- A number: perhaps a minus sign, then what `unsigned` builds. -/
def IsSigned (unsigned : Builder Rule) (rule : Rule) : Prop :=
  ∃ id id' perhaps minus number, unsigned.Makes number ∧
    rule = .node id (.seq id' [.opt perhaps (.char minus (.single '-')), number])

/-- A container of items that `item` reads. -/
def IsContainer (kind : Kind) (item rule : Rule) : Prop :=
  ∃ id id' opening lexeme comma items closing,
    (symbol (String.singleton kind.opening)).Makes opening ∧ (Lexical.lexeme item).Makes lexeme ∧
    (symbol ",").Makes comma ∧ (list lexeme comma).Makes items ∧
    rule = .node id (.seq id' [opening, items,
      .literal closing (String.singleton kind.closing)])

/-- What the rules of the grammar are made of. -/
structure Rules.Composed (r : Rules) : Prop where
  string : ∃ id id' double single, (quotedString '"').Makes double ∧
    (quotedString '\x27').Makes single ∧ r.string = .node id (.choice id' [double, single])
  float : IsSigned Lexical.float r.float
  integer : IsSigned Lexical.integer r.integer
  trueWord : ∃ id word, (Lexical.word "true").Makes word ∧ r.trueWord = .node id word
  falseWord : ∃ id word, (Lexical.word "false").Makes word ∧ r.falseWord = .node id word
  nullWord : ∃ id word, (Lexical.word "null").Makes word ∧ r.nullWord = .node id word
  pair : ∃ id id' key colon value, (lexeme r.string).Makes key ∧ (symbol ":").Makes colon ∧
    r.pair = .node id (.seq id' [key, colon, .recursive value "Value"])
  object : IsContainer .pair r.pair r.object
  array : ∃ value, IsContainer .value (.recursive value "Value") r.array
  value : ∃ id, r.value = .choice id [r.object, r.array, r.string, r.float, r.integer,
    r.trueWord, r.falseWord, r.nullWord]
  json : ∃ id before after stop, blanks.Makes before ∧ blanks.Makes after ∧
    r.json = .seq id [before, r.value, after, .endOfInput stop]

variable {scope : Scope} {r : Rules}

/-- The rules are composed as the program says that builds them. -/
theorem composed (h : rules.Makes r) : r.Composed := by
  obtain ⟨double, hdouble, h⟩ := h.bind
  obtain ⟨single, hsingle, h⟩ := h.bind
  obtain ⟨quoted, hquoted, h⟩ := h.bind
  obtain ⟨string, hstring, h⟩ := h.bind
  obtain ⟨minus, hminus, h⟩ := h.bind
  obtain ⟨perhaps, hperhaps, h⟩ := h.bind
  obtain ⟨unsigned, hunsigned, h⟩ := h.bind
  obtain ⟨signed, hsigned, h⟩ := h.bind
  obtain ⟨float, hfloat, h⟩ := h.bind
  obtain ⟨minus', hminus', h⟩ := h.bind
  obtain ⟨perhaps', hperhaps', h⟩ := h.bind
  obtain ⟨unsigned', hunsigned', h⟩ := h.bind
  obtain ⟨signed', hsigned', h⟩ := h.bind
  obtain ⟨integer, hinteger, h⟩ := h.bind
  obtain ⟨yes, hyes, h⟩ := h.bind
  obtain ⟨trueWord, htrue, h⟩ := h.bind
  obtain ⟨no, hno, h⟩ := h.bind
  obtain ⟨falseWord, hfalse, h⟩ := h.bind
  obtain ⟨nothing, hnothing, h⟩ := h.bind
  obtain ⟨nullWord, hnull, h⟩ := h.bind
  obtain ⟨key, hkey, h⟩ := h.bind
  obtain ⟨colon, hcolon, h⟩ := h.bind
  obtain ⟨member, hmember, h⟩ := h.bind
  obtain ⟨parts, hparts, h⟩ := h.bind
  obtain ⟨pair, hpair, h⟩ := h.bind
  obtain ⟨opening, hopening, h⟩ := h.bind
  obtain ⟨lexeme, hlexeme, h⟩ := h.bind
  obtain ⟨comma, hcomma, h⟩ := h.bind
  obtain ⟨items, hitems, h⟩ := h.bind
  obtain ⟨closing, hclosing, h⟩ := h.bind
  obtain ⟨body, hbody, h⟩ := h.bind
  obtain ⟨object, hobject, h⟩ := h.bind
  obtain ⟨opening', hopening', h⟩ := h.bind
  obtain ⟨element, helement, h⟩ := h.bind
  obtain ⟨lexeme', hlexeme', h⟩ := h.bind
  obtain ⟨comma', hcomma', h⟩ := h.bind
  obtain ⟨items', hitems', h⟩ := h.bind
  obtain ⟨closing', hclosing', h⟩ := h.bind
  obtain ⟨body', hbody', h⟩ := h.bind
  obtain ⟨array, harray, h⟩ := h.bind
  obtain ⟨value, hvalue, h⟩ := h.bind
  obtain ⟨before, hbefore, h⟩ := h.bind
  obtain ⟨after, hafter, h⟩ := h.bind
  obtain ⟨stop, hstop, h⟩ := h.bind
  obtain ⟨json, hjson, h⟩ := h.bind
  rw [h.pure]
  obtain ⟨_, rfl⟩ := makes_choice hquoted
  obtain ⟨_, rfl⟩ := makes_node hstring
  obtain ⟨_, rfl⟩ := makes_ch hminus
  obtain ⟨_, rfl⟩ := makes_opt hperhaps
  obtain ⟨_, rfl⟩ := makes_seq hsigned
  obtain ⟨_, rfl⟩ := makes_node hfloat
  obtain ⟨_, rfl⟩ := makes_ch hminus'
  obtain ⟨_, rfl⟩ := makes_opt hperhaps'
  obtain ⟨_, rfl⟩ := makes_seq hsigned'
  obtain ⟨_, rfl⟩ := makes_node hinteger
  obtain ⟨_, rfl⟩ := makes_node htrue
  obtain ⟨_, rfl⟩ := makes_node hfalse
  obtain ⟨_, rfl⟩ := makes_node hnull
  obtain ⟨_, rfl⟩ := makes_recursive hmember
  obtain ⟨_, rfl⟩ := makes_seq hparts
  obtain ⟨_, rfl⟩ := makes_node hpair
  obtain ⟨_, rfl⟩ := makes_literal hclosing
  obtain ⟨_, rfl⟩ := makes_seq hbody
  obtain ⟨_, rfl⟩ := makes_node hobject
  obtain ⟨_, rfl⟩ := makes_recursive helement
  obtain ⟨_, rfl⟩ := makes_literal hclosing'
  obtain ⟨_, rfl⟩ := makes_seq hbody'
  obtain ⟨_, rfl⟩ := makes_node harray
  obtain ⟨_, rfl⟩ := makes_choice hvalue
  obtain ⟨_, rfl⟩ := makes_endOfInput hstop
  obtain ⟨_, rfl⟩ := makes_seq hjson
  exact {
    string := ⟨_, _, double, single, hdouble, hsingle, rfl⟩
    float := ⟨_, _, _, _, unsigned, hunsigned, rfl⟩
    integer := ⟨_, _, _, _, unsigned', hunsigned', rfl⟩
    trueWord := ⟨_, yes, hyes, rfl⟩
    falseWord := ⟨_, no, hno, rfl⟩
    nullWord := ⟨_, nothing, hnothing, rfl⟩
    pair := ⟨_, _, key, colon, _, hkey, hcolon, rfl⟩
    object := ⟨_, _, opening, lexeme, comma, items, _, hopening, hlexeme, hcomma, hitems, rfl⟩
    array := ⟨_, _, _, opening', lexeme', comma', items', _, hopening', hlexeme', hcomma', hitems',
      rfl⟩
    value := ⟨_, rfl⟩
    json := ⟨_, before, after, _, hbefore, hafter, rfl⟩ }

/-! ## Names and targets -/

/-- The rule is `rule`, or a recursive rule that stands for it. -/
def StandsFor (scope : Scope) (rule item : Rule) : Prop :=
  item = rule ∨ ∃ id key, item = .recursive id key ∧ scope.target id key = some rule

namespace StandsFor

variable {rule item : Rule} {read rest : List Char} {trees : List Tree}

theorem reads (h : StandsFor scope rule item) (hread : Reads scope rule read rest trees) :
    Reads scope item read rest trees := by
  rcases h with rfl | ⟨id, key, rfl, htarget⟩
  · exact hread
  · exact .recursive htarget hread

theorem refuses (h : StandsFor scope rule item) (hrest : Refuses scope rule rest) :
    Refuses scope item rest := by
  rcases h with rfl | ⟨id, key, rfl, htarget⟩
  · exact hrest
  · exact .recursive htarget hrest

theorem generates (h : StandsFor scope rule item) (hread : Generates scope item read rest) :
    Generates scope rule read rest := by
  rcases h with rfl | ⟨id, key, rfl, htarget⟩
  · exact hread
  · exact hread.of_recursive htarget

end StandsFor

namespace Rules

/-- The rule of the items of a kind. -/
def item (r : Rules) : Kind → Rule
  | .pair => r.pair
  | .value => r.value

/-- The rule of the containers of items of a kind. -/
def container (r : Rules) : Kind → Rule
  | .pair => r.object
  | .value => r.array

theorem name_container (h : scope.Knows r.draft.rules) (kind : Kind) :
    scope.name (r.container kind).id = some kind.container := by
  cases kind with
  | pair => exact h.name_eq ("Object", r.object) (by simp [draft])
  | value => exact h.name_eq ("Array", r.array) (by simp [draft])

namespace Composed

/-- Where the value of a pair stands, `Value` stands for the rule of values. -/
theorem pair_member (h : r.Composed) (hknown : scope.Knows r.draft.rules) :
    ∃ id id' key colon member, (lexeme r.string).Makes key ∧ (symbol ":").Makes colon ∧
      StandsFor scope r.value member ∧ r.pair = .node id (.seq id' [key, colon, member]) := by
  obtain ⟨id, id', key, colon, value, hkey, hcolon, hpair⟩ := h.pair
  have hmem : (value, "Value") ∈ r.pair.references := by
    simp [hpair, Rule.references, Rule.referencesAll]
  have htarget := hknown.target_eq ("Pair", r.pair) (by simp [draft]) (value, "Value") hmem
  exact ⟨id, id', key, colon, _, hkey, hcolon, .inr ⟨value, "Value", rfl, htarget⟩, hpair⟩

/-- Containers of both kinds are made alike, but only values stand in them by name. -/
theorem container (h : r.Composed) (hknown : scope.Knows r.draft.rules) (kind : Kind) :
    ∃ item, StandsFor scope (r.item kind) item ∧ IsContainer kind item (r.container kind) ∧
      (kind = .pair → item = r.pair) := by
  cases kind with
  | pair => exact ⟨r.pair, .inl rfl, h.object, fun _ => rfl⟩
  | value =>
    obtain ⟨value, harray⟩ := h.array
    have hmem : (value, "Value") ∈ r.array.references := by
      obtain ⟨id, id', opening, lexeme, comma, items, closing, -, hlexeme, -, hitems, heq⟩ := harray
      obtain ⟨id₁, blanks, -, rfl⟩ := makes_lexeme hlexeme
      obtain ⟨id₂, id₃, tail, -, rfl⟩ := makes_list hitems
      simp [heq, Rule.references, Rule.referencesAll]
    have htarget := hknown.target_eq ("Array", r.array) (by simp [draft]) (value, "Value") hmem
    exact ⟨_, .inr ⟨value, "Value", rfl, htarget⟩, harray, fun hkind => Kind.noConfusion hkind⟩

end Composed

end Rules

/-! ## What the rules generate is in the language -/

variable {kind : Kind} {item rule : Rule} {unsigned : Builder Rule} {read rest : List Char}

theorem toList_singleton (c : Char) : (String.singleton c).toList = [c] := by simp

/-- A mark of one character and the blanks behind it. -/
theorem reads_mark {c : Char} {mark : Rule} {blank : List Char}
    (h : (symbol (String.singleton c)).Makes mark) (hblank : Blank blank)
    (hrest : Avoids isBlank rest) : Reads scope mark (c :: blank) rest [] := by
  rw [← List.singleton_append, ← toList_singleton]
  exact reads_symbol h hblank hrest

theorem refuses_mark {c : Char} {mark : Rule} (h : (symbol (String.singleton c)).Makes mark)
    (hrest : Avoids (· == c) rest) : Refuses scope mark rest := by
  refine refuses_symbol h ?_
  rw [toList_singleton]
  exact Text.not_prefix_of_avoids hrest

theorem IsSigned.generates (h : IsSigned unsigned rule) (hread : Generates scope rule read rest) :
    ∃ number sign digits, unsigned.Makes number ∧ Optionally (· = ['-']) sign ∧
      read = sign ++ digits ∧ Generates scope number digits rest := by
  obtain ⟨id, id', perhaps, minus, number, hnumber, rfl⟩ := h
  obtain ⟨sign, digits, rfl, hsign, hdigits⟩ := hread.of_node.of_seq_cons
  refine ⟨number, sign, digits, hnumber, ?_, rfl, hdigits.of_seq_singleton⟩
  rcases hsign.of_opt with rfl | hsign
  · exact .inl rfl
  · obtain ⟨c, rfl, hc⟩ := hsign.of_char
    exact .inr (by rw [eq_of_beq hc])

/-- What comes before the last bracket is nothing, or items. -/
theorem IsContainer.generates (h : IsContainer kind item rule)
    (hread : Generates scope rule read rest) :
    ∃ blank items, Blank blank ∧ read = kind.opening :: (blank ++ (items ++ [kind.closing])) ∧
      (items = [] ∨ ∃ lexeme comma tail first more rest', (Lexical.lexeme item).Makes lexeme ∧
        (symbol ",").Makes comma ∧ IsTail lexeme comma tail ∧ items = first ++ more ∧
        Generates scope lexeme first (more ++ rest') ∧ Generates scope tail more rest') := by
  obtain ⟨id, id', opening, lexeme, comma, list, closing, hopening, hlexeme, hcomma, hlist, rfl⟩ := h
  obtain ⟨id₁, id₂, tail, htail, rfl⟩ := makes_list hlist
  obtain ⟨start, inside, rfl, hstart, hinside⟩ := hread.of_node.of_seq_cons
  obtain ⟨items, stop, rfl, hitems, hstop⟩ := hinside.of_seq_cons
  obtain ⟨blank, hblank, rfl⟩ := generates_symbol hopening hstart
  have hlast : stop = [kind.closing] := by
    rw [hstop.of_seq_singleton.of_literal, toList_singleton]
  refine ⟨blank, items, hblank, by simp [hlast], hitems.of_opt.imp_right fun hsome => ?_⟩
  obtain ⟨first, more, heq, hfirst, hmore⟩ := hsome.of_seq_cons
  exact ⟨lexeme, comma, tail, first, more, _, hlexeme, hcomma, htail, heq, hfirst,
    hmore.of_seq_singleton⟩

/-- Items are spelled if those are that are no longer than all of them. -/
theorem spells_items {lexeme comma tail : Rule} {more : List Char} {n : Nat}
    (hlexeme : (Lexical.lexeme item).Makes lexeme) (hcomma : (symbol ",").Makes comma)
    (htail : IsTail lexeme comma tail)
    (hitem : ∀ {text rest : List Char}, text.length < n → Generates scope item text rest →
      ∃ tree, Spells (.one kind tree) text)
    (hmore : Generates scope tail more rest) :
    more.length < n → ∀ {first blank : List Char} {tree : Tree}, Spells (.one kind tree) first →
      Blank blank → ∃ trees, Spells (.several kind trees) (first ++ blank ++ more) := by
  obtain ⟨id, id', rfl⟩ := htail
  apply hmore.of_zeroOrMore
  case nil =>
    intro _ first blank tree hfirst hblank
    exact ⟨[tree], by simpa using Spells.last hfirst hblank⟩
  case cons =>
    intro step more rest hstep ih hlen first blank tree hfirst hblank
    obtain ⟨mark, part, rfl, hmark, hpart⟩ := hstep.of_seq_cons
    obtain ⟨blank', hblank', rfl⟩ := generates_symbol hcomma hmark
    obtain ⟨next, blank'', rfl, hblank'', hnext⟩ := generates_lexeme hlexeme hpart.of_seq_singleton
    simp only [List.length_append] at hlen
    obtain ⟨tree', hspells⟩ := hitem (by omega) hnext
    obtain ⟨trees, hall⟩ := ih (by omega) hspells hblank''
    refine ⟨tree :: trees, ?_⟩
    have hcomma : ",".toList = [','] := rfl
    simpa [hcomma] using Spells.next hfirst hblank hblank' hall

namespace Rules.Composed

theorem spells_string (h : r.Composed) (hread : Generates scope r.string read rest) :
    StringText read := by
  obtain ⟨id, id', double, single, hdouble, hsingle, heq⟩ := h.string
  rw [heq] at hread
  obtain ⟨taken, htaken, hquoted⟩ := hread.of_node.of_choice
  rcases List.mem_pair.1 htaken with rfl | rfl
  · exact .inl (generates_quotedString hdouble hquoted)
  · exact .inr (generates_quotedString hsingle hquoted)

theorem spells_pair {n : Nat} (h : r.Composed) (hknown : scope.Knows r.draft.rules)
    (hvalue : ∀ {text rest : List Char}, text.length < n → Generates scope r.value text rest →
      ∃ tree, Spells (.one .value tree) text)
    (hlen : read.length < n) (hread : Generates scope r.pair read rest) :
    ∃ tree, Spells (.one .pair tree) read := by
  obtain ⟨id, id', lexeme, colon, member, hlexeme, hcolon, hmember, heq⟩ := h.pair_member hknown
  rw [heq] at hread
  obtain ⟨start, more, rfl, hstart, hmore⟩ := hread.of_node.of_seq_cons
  obtain ⟨mark, value, rfl, hmark, hlast⟩ := hmore.of_seq_cons
  obtain ⟨key, blank, rfl, hblank, hkey⟩ := generates_lexeme hlexeme hstart
  obtain ⟨blank', hblank', rfl⟩ := generates_symbol hcolon hmark
  simp only [List.length_append] at hlen
  obtain ⟨tree, hspells⟩ := hvalue (by omega) (hmember.generates hlast.of_seq_singleton)
  have hcolon : ":".toList = [':'] := rfl
  exact ⟨_, by simpa [hcolon] using Spells.pair (h.spells_string hkey) hblank hblank' hspells⟩

theorem spells_container {n : Nat} (h : r.Composed) (hknown : scope.Knows r.draft.rules) (kind : Kind)
    (hitem : ∀ {text rest : List Char}, text.length < n → Generates scope (r.item kind) text rest →
      ∃ tree, Spells (.one kind tree) text)
    (hlen : read.length < n + 1) (hread : Generates scope (r.container kind) read rest) :
    ∃ tree, Spells (.one .value tree) read := by
  obtain ⟨item, hstands, hcontainer, -⟩ := h.container hknown kind
  obtain ⟨blank, items, hblank, rfl, hitems⟩ := hcontainer.generates hread
  rcases hitems with rfl | ⟨lexeme, comma, tail, first, more, rest', hlexeme, hcomma, htail, rfl,
    hfirst, hmore⟩
  · exact ⟨_, .empty hblank⟩
  · obtain ⟨part, blank', rfl, hblank', hpart⟩ := generates_lexeme hlexeme hfirst
    simp only [List.length_cons, List.length_append] at hlen
    obtain ⟨tree, hspells⟩ := hitem (by omega) (hstands.generates hpart)
    obtain ⟨trees, hall⟩ := spells_items hlexeme hcomma htail
      (fun hlen hread => hitem hlen (hstands.generates hread)) hmore (by omega) hspells hblank'
    exact ⟨_, .filled hblank hall⟩

/-- **What the rules generate is in the language**: a value is a text of a value. -/
theorem spells_value (h : r.Composed) (hknown : scope.Knows r.draft.rules) (n : Nat) :
    ∀ {text rest : List Char}, text.length < n → Generates scope r.value text rest →
      ∃ tree, Spells (.one .value tree) text := by
  -- the values inside a container are shorter than it, by its brackets
  induction n with
  | zero => exact fun hlen => absurd hlen (Nat.not_lt_zero _)
  | succ n ih =>
    intro text rest hlen hread
    have hpair {text rest : List Char} (hlen : text.length < n)
        (hread : Generates scope r.pair text rest) : ∃ tree, Spells (.one .pair tree) text :=
      h.spells_pair hknown ih hlen hread
    obtain ⟨id, heq⟩ := h.value
    rw [heq] at hread
    obtain ⟨taken, htaken, hread⟩ := hread.of_choice
    simp only [List.mem_cons, List.not_mem_nil, or_false] at htaken
    rcases htaken with rfl | rfl | rfl | rfl | rfl | rfl | rfl | rfl
    · exact h.spells_container hknown .pair hpair hlen hread
    · exact h.spells_container hknown .value ih hlen hread
    · exact ⟨_, .string (h.spells_string hread)⟩
    · obtain ⟨number, sign, digits, hnumber, hsign, rfl, hdigits⟩ := h.float.generates hread
      obtain ⟨whole, fraction, power, hwhole, hfraction, hpower, hsome, rfl⟩ :=
        generates_float hnumber hdigits
      exact ⟨_, .float hsign hwhole hfraction hpower hsome⟩
    · obtain ⟨number, sign, digits, hnumber, hsign, rfl, hdigits⟩ := h.integer.generates hread
      exact ⟨_, .integer hsign (generates_integer hnumber hdigits)⟩
    · obtain ⟨id, word, hword, heq⟩ := h.trueWord
      rw [heq] at hread
      rw [generates_word hword hread.of_node]
      exact ⟨_, .word List.mem_cons_self⟩
    · obtain ⟨id, word, hword, heq⟩ := h.falseWord
      rw [heq] at hread
      rw [generates_word hword hread.of_node]
      exact ⟨_, .word (List.mem_cons_of_mem _ List.mem_cons_self)⟩
    · obtain ⟨id, word, hword, heq⟩ := h.nullWord
      rw [heq] at hread
      rw [generates_word hword hread.of_node]
      exact ⟨_, .word (List.mem_cons_of_mem _ (List.mem_cons_of_mem _ List.mem_cons_self))⟩

/-- What the root generates is a document, and nothing follows it. -/
theorem document_of_generates (h : r.Composed) (hknown : scope.Knows r.draft.rules)
    (hread : Generates scope r.json read rest) : Document read ∧ rest = [] := by
  obtain ⟨id, leading, trailing, stop, hleading, htrailing, heq⟩ := h.json
  rw [heq] at hread
  obtain ⟨before, more, rfl, hbefore, hmore⟩ := hread.of_seq_cons
  obtain ⟨value, more, rfl, hvalue, hmore⟩ := hmore.of_seq_cons
  obtain ⟨after, last, rfl, hafter, hlast⟩ := hmore.of_seq_cons
  obtain ⟨rfl, rfl⟩ := hlast.of_seq_singleton.of_endOfInput
  obtain ⟨tree, hspells⟩ := h.spells_value hknown _ (Nat.lt_succ_self _) hvalue
  exact ⟨⟨before, value, after, tree, generates_blanks hleading hbefore,
    generates_blanks htrailing hafter, hspells, by simp⟩, rfl⟩

end Rules.Composed

end JsonValue

end Packrat
