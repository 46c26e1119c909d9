import Packrat.Proofs.Alone
import Packrat.Proofs.ArithmeticDepth
import Packrat.Proofs.Numerals

/-!
# What parses find of numbers

A number is found up to the end of the longest numeral that the input begins with, in both
grammars that have numbers. They differ from each other in the sign, and in what is told by
the token.

- `Lexical.decides_float`, `Arithmetic.Rules.Composed.decides_number`: floats, and the numbers
  in arithmetic expressions.
- `JsonValue.SignedNumeral`: a numeral with a sign before it, perhaps.
  `JsonValue.Rules.Composed.number_cases`: the alternatives of a value for numbers read one, or
  both fail.
- `Parser.exists_of_findsNamed`: a token that a parse finds is that of an alternative.
- `Catalog.numbers_exact`: what the parses find.
-/

namespace Packrat

open Text (Avoids utf8Length)

variable {scope : Scope} {input name : String} {p : Parser} {n : Nat}

/-! ## Floats and the numbers of arithmetic expressions -/

namespace Lexical

/-- **A parse with a float finds the longest numeral if it has a fraction or an exponent**, and
nothing otherwise. -/
theorem decides_float (h : float.Makes p.root) (hfit : p.root.Fit scope)
    (hlimit : p.StaysWithin scope input) :
    p.Decides scope input fun n =>
      ∃ read, LongestNumeral input.toList read ∧ FloatNumeral read ∧ n = utf8Length read := by
  by_cases hdigit : Avoids Char.isDigit input.toList
  · have hnone := Parser.findsNone_of_refuses hfit hlimit (refuses_float h hdigit)
    refine hnone.decides ?_
    rintro m ⟨read, hlongest, -⟩
    exact hlongest.not_avoids hdigit
  obtain ⟨whole, part, power, rest, hinput, hcut⟩ := exists_cut hdigit
  have hlongest := hcut.longest
  by_cases hsome : part ++ power = []
  · obtain ⟨rfl, rfl⟩ := List.append_eq_nil_iff.1 hsome
    have hnone := Parser.findsNone_of_refuses hfit hlimit
      (hinput ▸ refuses_float_of_digits h hcut)
    refine hnone.decides ?_
    rintro m ⟨read, hread, hfloat, -⟩
    rw [hinput] at hread
    rw [hread.unique hlongest, hcut.floatNumeral_iff] at hfloat
    exact hfloat rfl
  · have hfound := Parser.finds_of_reads hfit hlimit (hinput.trans (by simp))
      (reads_float h hcut hsome)
    rw [← hinput] at hlongest
    refine hfound.decides ⟨_, hlongest, hcut.floatNumeral_iff.2 hsome, rfl⟩ ?_
    rintro m ⟨read, hread, -, rfl⟩
    rw [hread.unique hlongest]

end Lexical

open Lexical

/-- **A parse with a number finds the longest numeral**, unless a point is left over behind
digits; then it finds nothing. -/
theorem Arithmetic.Rules.Composed.decides_number {r : Arithmetic.Rules} (h : r.Composed)
    (hknown : scope.Knows r.draft.rules) (hroot : p.root = r.number) (hfit : p.root.Fit scope)
    (hlimit : p.StaysWithin scope input) :
    (p.Decides scope input fun n => ∃ read, LongestNumeral input.toList read ∧
      ¬Dangling input.toList ∧ n = utf8Length read) ∧
    (p.FindsNone scope input ↔ Avoids Char.isDigit input.toList ∨ Dangling input.toList) := by
  by_cases hdigit : Avoids Char.isDigit input.toList
  · have hnone := Parser.findsNone_of_refuses hfit hlimit (hroot ▸ h.refuses_number hdigit)
    refine ⟨hnone.decides ?_, fun _ => .inl hdigit, fun _ => hnone⟩
    rintro m ⟨read, hlongest, -⟩
    exact hlongest.not_avoids hdigit
  obtain ⟨whole, part, power, rest, hinput, hcut⟩ := exists_cut hdigit
  have hdangling := hcut.dangling_iff
  rw [← hinput] at hdangling
  by_cases hleft : Dangling input.toList
  · obtain ⟨hnone, hpoint⟩ := hdangling.1 hleft
    obtain ⟨rfl, rfl⟩ := List.append_eq_nil_iff.1 hnone
    obtain ⟨c, behind, rfl, hc⟩ := Text.exists_cons_of_not_avoids hpoint
    cases eq_of_beq hc
    have hnone := Parser.findsNone_of_refuses hfit hlimit
      (hinput ▸ hroot ▸ h.refuses_number_of_point hcut)
    refine ⟨hnone.decides ?_, fun _ => .inr hleft, fun _ => hnone⟩
    rintro m ⟨read, -, hnot, -⟩
    exact hnot hleft
  · have hpoint : part ++ power = [] → Avoids (· == '.') rest := by
      intro hsome
      by_contra hpoint
      exact hleft (hdangling.2 ⟨hsome, hpoint⟩)
    have hfound := Parser.finds_of_reads hfit hlimit (hinput.trans (by simp))
      (hroot ▸ h.reads_number hknown hcut hpoint)
    have hlongest := hcut.longest
    rw [← hinput] at hlongest
    refine ⟨hfound.decides ⟨_, hlongest, hleft, rfl⟩ ?_, ?_, ?_⟩
    · rintro m ⟨read, hread, -, rfl⟩
      rw [hread.unique hlongest]
    · exact fun hnone => absurd hnone hfound.not_findsNone
    · rintro (havoids | hdangles)
      · exact absurd havoids hdigit
      · exact absurd hdangles hleft

/-! ## Tokens of alternatives -/

/-- A choice that matches comes out as one of its alternatives does. -/
theorem Evaluates.exists_of_choice {stalls : Prop} {id : RuleId} {rules : List Rule}
    {pos : Nat} {matched : Nat × List Token} {wants : List Want}
    (h : Evaluates scope input stalls (.choice id rules) pos (some matched) wants) :
    ∃ rule ∈ rules, ∃ wants', Evaluates scope input stalls rule pos (some matched) wants' := by
  induction rules generalizing wants with
  | nil => cases (Evaluates.choice_nil_iff.1 h).1
  | cons rule rules ih =>
    rcases Evaluates.choice_cons_iff.1 h with ⟨-, hfirst⟩ | ⟨_, _, -, hmore, -⟩
    · exact ⟨rule, List.mem_cons_self, _, hfirst⟩
    · obtain ⟨other, hother, hfound⟩ := ih hmore
      exact ⟨other, List.mem_cons_of_mem _ hother, hfound⟩

/-- Where the root is a choice of nodes, the token that a parse finds is that of a node. -/
theorem Parser.exists_of_findsNamed {id : RuleId} {rules : List Rule}
    (hroot : p.root = .choice id rules)
    (hnodes : ∀ rule ∈ rules, ∃ id operand, rule = .node id operand)
    (hfit : p.root.Fit scope) (hlimit : p.StaysWithin scope input)
    (hfound : p.FindsNamed scope input name n) :
    ∃ rule ∈ rules, (scope.name rule.id).getD Apply.unnamedNode = name ∧
      ∃ matched wants, Evaluates scope input True rule 0 (some matched) wants := by
  obtain ⟨token, hresult, rfl, -⟩ := hfound
  obtain ⟨outcome, wants, heval, -, hfinding⟩ :=
    p.run_eq_finding hfit.resolves hfit.identifies hlimit
  have hresult' := hfinding false
  obtain _ | ⟨stop, tokens⟩ := outcome
  · cases hresult.symm.trans hresult'
  rw [hroot] at heval
  obtain ⟨rule, hrule, wants', hmatched⟩ := heval.exists_of_choice
  refine ⟨rule, hrule, ?_, _, _, hmatched⟩
  obtain ⟨id', operand, rfl⟩ := hnodes rule hrule
  cases hmatched with
  | read hprimitive => cases hprimitive
  | node_matched _ =>
    have hsame := hresult.symm.trans hresult'
    rw [finding, Bool.false_and, if_neg Bool.false_ne_true, rootOver_singleton _ _ rfl] at hsame
    cases hsame
    rfl

/-! ## The numbers of JSON values -/

namespace JsonValue

variable {kind : List Char → List Char → Prop} {text : List Char}

/-- The text is a minus sign, or nothing, and then goes on with a longest numeral of a kind;
both together have `n` bytes. -/
def SignedNumeral (kind : List Char → List Char → Prop) (text : List Char) (n : Nat) : Prop :=
  ∃ sign unsigned read, Optionally (· = ['-']) sign ∧ text = sign ++ unsigned ∧
    LongestNumeral unsigned read ∧ kind unsigned read ∧ n = utf8Length (sign ++ read)

/-- The numeral has a fraction or an exponent. -/
def IsFloat (_text read : List Char) : Prop := FloatNumeral read

/-- The numeral is digits only, and the text does not go on with a point. -/
def IsInteger (text read : List Char) : Prop := Digits read ∧ ¬(read ++ ['.']) <+: text

theorem isInteger_iff {whole part power rest : List Char} (hcut : Cut whole part power rest) :
    IsInteger (whole ++ (part ++ (power ++ rest))) (whole ++ (part ++ power)) ↔
      part ++ power = [] ∧ Avoids (· == '.') rest := by
  unfold IsInteger
  rw [hcut.digits_iff]
  refine and_congr_right fun hnone => ?_
  obtain ⟨rfl, rfl⟩ := List.append_eq_nil_iff.1 hnone
  rw [List.append_nil, List.append_nil, List.nil_append, List.nil_append,
    List.prefix_append_right_inj]
  constructor
  · intro hnot
    by_contra hpoint
    obtain ⟨c, behind, rfl, hc⟩ := Text.exists_cons_of_not_avoids hpoint
    cases eq_of_beq hc
    exact hnot ⟨behind, rfl⟩
  · exact Text.not_prefix_of_avoids

/-- The sign is taken off if there is one. -/
theorem exists_sign (text : List Char) :
    ∃ sign unsigned, text = sign ++ unsigned ∧ Optionally (· = ['-']) sign ∧
      (sign = [] → Avoids (· == '-') unsigned) := by
  by_cases hminus : Avoids (· == '-') text
  · exact ⟨[], text, rfl, .inl rfl, fun _ => hminus⟩
  · obtain ⟨c, unsigned, rfl, hc⟩ := Text.exists_cons_of_not_avoids hminus
    cases eq_of_beq hc
    exact ⟨['-'], unsigned, rfl, .inr rfl, nofun⟩

namespace Rules.Composed

variable {r : Rules}

/-- The alternatives of a value are nodes with names of their own. -/
theorem exists_registration (h : r.Composed) {rule : Rule}
    (hrule : rule ∈ r.alternatives.map (·.1)) :
    ∃ name id operand, (name, rule) ∈ r.draft.rules ∧ rule = .node id operand := by
  simp only [alternatives, List.map_cons, List.map_nil, List.mem_cons, List.not_mem_nil,
    or_false] at hrule
  rcases hrule with rfl | rfl | rfl | rfl | rfl | rfl | rfl | rfl
  · obtain ⟨_, _, _, _, _, _, _, -, -, -, -, heq⟩ := h.object
    exact ⟨"Object", _, _, by simp [draft], heq⟩
  · obtain ⟨_, _, _, _, _, _, _, _, -, -, -, -, heq⟩ := h.array
    exact ⟨"Array", _, _, by simp [draft], heq⟩
  · obtain ⟨_, _, _, _, -, -, heq⟩ := h.string
    exact ⟨"String", _, _, by simp [draft], heq⟩
  · obtain ⟨_, _, _, _, _, -, heq⟩ := h.float
    exact ⟨"Float", _, _, by simp [draft], heq⟩
  · obtain ⟨_, _, _, _, _, -, heq⟩ := h.integer
    exact ⟨"Integer", _, _, by simp [draft], heq⟩
  · obtain ⟨_, _, -, heq⟩ := h.trueWord
    exact ⟨"True", _, _, by simp [draft], heq⟩
  · obtain ⟨_, _, -, heq⟩ := h.falseWord
    exact ⟨"False", _, _, by simp [draft], heq⟩
  · obtain ⟨_, _, -, heq⟩ := h.nullWord
    exact ⟨"Null", _, _, by simp [draft], heq⟩

/-- A value of which the token has the name of an alternative is read by this one. -/
theorem exists_of_findsNamed (h : r.Composed) (hknown : scope.Knows r.draft.rules)
    (hroot : p.root = r.value) (hfit : p.root.Fit scope) (hlimit : p.StaysWithin scope input)
    (hfound : p.FindsNamed scope input name n) :
    ∃ rule, (name, rule) ∈ r.draft.rules ∧
      ∃ matched wants, Evaluates scope input True rule 0 (some matched) wants := by
  obtain ⟨id, hvalue⟩ := h.value_eq
  have hnodes : ∀ rule ∈ r.alternatives.map (·.1), ∃ id operand, rule = .node id operand := by
    intro rule hrule
    obtain ⟨_, id, operand, -, heq⟩ := h.exists_registration hrule
    exact ⟨id, operand, heq⟩
  obtain ⟨rule, hrule, hname, hmatched⟩ :=
    p.exists_of_findsNamed (hroot.trans hvalue) hnodes hfit hlimit hfound
  obtain ⟨other, -, -, hmem, -⟩ := h.exists_registration hrule
  rw [hknown.name_eq (other, rule) hmem] at hname
  exact ⟨rule, hname ▸ hmem, hmatched⟩

/-- The input has a sign, perhaps, and a longest numeral with a fraction or an exponent, or one
without in front of no point; or both rules for numbers fail. -/
theorem number_cases (h : r.Composed) (scope : Scope) (text : List Char) :
    (∃ n, SignedNumeral IsFloat text n) ∨ (∃ n, SignedNumeral IsInteger text n) ∨
      Refuses scope r.float text ∧ Refuses scope r.integer text := by
  obtain ⟨sign, unsigned, rfl, hsign, hminus⟩ := exists_sign text
  by_cases hdigit : Avoids Char.isDigit unsigned
  · exact .inr (.inr ⟨h.float.refuses hsign hminus fun _ hmakes => refuses_float hmakes hdigit,
      h.integer.refuses hsign hminus fun _ hmakes => refuses_integer hmakes hdigit⟩)
  obtain ⟨whole, part, power, rest, rfl, hcut⟩ := exists_cut hdigit
  by_cases hsome : part ++ power = []
  · obtain ⟨rfl, rfl⟩ := List.append_eq_nil_iff.1 hsome
    by_cases hpoint : Avoids (· == '.') rest
    · exact .inr (.inl ⟨_, sign, _, _, hsign, rfl, hcut.longest,
        (isInteger_iff hcut).2 ⟨rfl, hpoint⟩, rfl⟩)
    · obtain ⟨c, behind, rfl, hc⟩ := Text.exists_cons_of_not_avoids hpoint
      cases eq_of_beq hc
      exact .inr (.inr ⟨h.refuses_float_of_cut hsign hcut,
        h.integer.refuses hsign hminus fun _ hmakes => refuses_integer_of_point hmakes hcut.digits⟩)
  · exact .inl ⟨_, sign, _, _, hsign, rfl, hcut.longest, hcut.floatNumeral_iff.2 hsome, rfl⟩

theorem finds_float (h : r.Composed) (hknown : scope.Knows r.draft.rules)
    (hroot : p.root = r.value) (hfit : p.root.Fit scope) (hlimit : p.StaysWithin scope input)
    (hnumeral : SignedNumeral IsFloat input.toList n) : p.FindsNamed scope input "Float" n := by
  obtain ⟨sign, unsigned, read, hsign, hinput, hlongest, hfloat, rfl⟩ := hnumeral
  obtain ⟨whole, part, power, rest, rfl, hcut⟩ := exists_cut hlongest.not_avoids
  cases hlongest.unique hcut.longest
  exact Parser.findsNamed_of_reads hfit hlimit (hinput.trans (by simp))
    (hroot ▸ h.value_float hknown hsign hcut (hcut.floatNumeral_iff.1 hfloat))

theorem finds_integer (h : r.Composed) (hknown : scope.Knows r.draft.rules)
    (hroot : p.root = r.value) (hfit : p.root.Fit scope) (hlimit : p.StaysWithin scope input)
    (hnumeral : SignedNumeral IsInteger input.toList n) :
    p.FindsNamed scope input "Integer" n := by
  obtain ⟨sign, unsigned, read, hsign, hinput, hlongest, hinteger, rfl⟩ := hnumeral
  obtain ⟨whole, part, power, rest, rfl, hcut⟩ := exists_cut hlongest.not_avoids
  cases hlongest.unique hcut.longest
  obtain ⟨hnone, hpoint⟩ := (isInteger_iff hcut).1 hinteger
  obtain ⟨rfl, rfl⟩ := List.append_eq_nil_iff.1 hnone
  rw [List.append_nil, List.append_nil]
  exact Parser.findsNamed_of_reads hfit hlimit (hinput.trans (by simp))
    (hroot ▸ h.value_integer hknown hsign hcut hpoint)

/-- **A value is a float exactly if the longest numeral behind its sign has a fraction or an
exponent.** -/
theorem finds_float_iff (h : r.Composed) (hknown : scope.Knows r.draft.rules)
    (hroot : p.root = r.value) (hfit : p.root.Fit scope) (hlimit : p.StaysWithin scope input) :
    p.FindsNamed scope input "Float" n ↔ SignedNumeral IsFloat input.toList n := by
  refine ⟨fun hfound => ?_, h.finds_float hknown hroot hfit hlimit⟩
  rcases h.number_cases scope input.toList with ⟨m, hfloat⟩ | ⟨m, hinteger⟩ | ⟨hrefuses, -⟩
  · obtain ⟨-, rfl⟩ := hfound.unique (h.finds_float hknown hroot hfit hlimit hfloat)
    exact hfloat
  · obtain ⟨hname, -⟩ := hfound.unique (h.finds_integer hknown hroot hfit hlimit hinteger)
    exact absurd hname (by decide)
  · obtain ⟨rule, hmem, matched, wants, heval⟩ :=
      h.exists_of_findsNamed hknown hroot hfit hlimit hfound
    have hrule : rule = r.float := by simpa [draft] using hmem
    cases (hrule ▸ hrefuses).eq_none heval

/-- **It is an integer exactly if this numeral is digits only, in front of no point.** -/
theorem finds_integer_iff (h : r.Composed) (hknown : scope.Knows r.draft.rules)
    (hroot : p.root = r.value) (hfit : p.root.Fit scope) (hlimit : p.StaysWithin scope input) :
    p.FindsNamed scope input "Integer" n ↔ SignedNumeral IsInteger input.toList n := by
  refine ⟨fun hfound => ?_, h.finds_integer hknown hroot hfit hlimit⟩
  rcases h.number_cases scope input.toList with ⟨m, hfloat⟩ | ⟨m, hinteger⟩ | ⟨-, hrefuses⟩
  · obtain ⟨hname, -⟩ := hfound.unique (h.finds_float hknown hroot hfit hlimit hfloat)
    exact absurd hname (by decide)
  · obtain ⟨-, rfl⟩ := hfound.unique (h.finds_integer hknown hroot hfit hlimit hinteger)
    exact hinteger
  · obtain ⟨rule, hmem, matched, wants, heval⟩ :=
      h.exists_of_findsNamed hknown hroot hfit hlimit hfound
    have hrule : rule = r.integer := by simpa [draft] using hmem
    cases (hrule ▸ hrefuses).eq_none heval

end Rules.Composed

end JsonValue

/-! ## The grammars of the catalog -/

/-- Where the standard limits leave room for the depth of the rule, they are not met. -/
theorem Parser.StaysWithin.of_nests {rule : Rule} {depth : Nat} (hfit : rule.Fit scope)
    (h : Nests scope depth rule input.toList) (hdepth : depth ≤ 1024) :
    (Parser.ofRule rule).StaysWithin scope input := fun error =>
  (Parser.within_of_nests hfit.resolves hfit.identifies h).result_ne_limit hdepth false false error

namespace Lexical

theorem detached_float : Builder.Detached float := fun _ => ⟨_, _, rfl, rfl⟩

end Lexical

namespace Catalog

/-- Numbers are in the grammar of arithmetic expressions, and are fit for parsing. -/
theorem exists_number :
    ∃ r g, Arithmetic.rules.Makes r ∧ standard.find? "arithmetic" = some g ∧
      g.rule? "Number" = some r.number ∧ standard.scope.Knows r.draft.rules ∧
      r.number.Fit standard.scope := by
  obtain ⟨r, json, rules, hmakes, -, hclosed, -, hsound, hregistered, hknows, -, hentries⟩ :=
    exists_standard
  have hmem : ("Number", r.number) ∈ r.draft.rules := by simp [Arithmetic.Rules.draft]
  refine ⟨r, ⟨"arithmetic", r.draft.rules, "Arithmetic", r.arithmetic⟩, hmakes, ?_, rfl, hknows,
    (hknows.recurs hclosed.key_mem).resolves hmem,
    hsound.identifies (hregistered _ (List.mem_append_left _ hmem))⟩
  have hlower : String.ofList ("arithmetic".toList.map Char.toLower) = "arithmetic" := rfl
  unfold find?
  rw [hlower, hentries]
  rfl

/-- Values are in the grammar of JSON, and are fit for parsing. -/
theorem exists_value :
    ∃ r g, JsonValue.rules.Makes r ∧ standard.find? "json" = some g ∧
      g.rule? "Value" = some r.value ∧ standard.scope.Knows r.draft.rules ∧
      r.value.Fit standard.scope := by
  obtain ⟨arithmetic, r, rules, -, hmakes, -, hclosed, hsound, hregistered, -, hknows, hentries⟩ :=
    exists_standard
  have hmem : ("Value", r.value) ∈ r.draft.rules := by simp [JsonValue.Rules.draft]
  refine ⟨r, ⟨"json", r.draft.rules, "Json", r.json⟩, hmakes, ?_, rfl, hknows,
    (hknows.recurs hclosed.key_mem).resolves hmem,
    hsound.identifies (hregistered _ (List.mem_append_right _ hmem))⟩
  have hlower : String.ofList ("json".toList.map Char.toLower) = "json" := rfl
  unfold find?
  rw [hlower, hentries]
  rfl

open JsonValue in
/-- **Numbers are read as far as they go.** Where no limit is met, a parse with a number of
arithmetic expressions finds the longest numeral that the input begins with, and it finds
nothing exactly if the input begins with no digit, or has a point without a digit behind its
digits. A parse with a float finds that numeral if it has a fraction or an exponent, and nothing
otherwise. A parse with a JSON value finds a float, or an integer, exactly if such a numeral
stands behind the sign, or one of digits only with no point behind it. -/
theorem numbers_exact :
    (∃ g number, standard.find? "arithmetic" = some g ∧ g.rule? "Number" = some number ∧
      ∀ (p : Parser) (input : String), p.root = number → p.StaysWithin standard.scope input →
        (p.Decides standard.scope input fun n => ∃ read, LongestNumeral input.toList read ∧
          ¬Dangling input.toList ∧ n = utf8Length read) ∧
        (p.FindsNone standard.scope input ↔
          Avoids Char.isDigit input.toList ∨ Dangling input.toList)) ∧
    (∀ start, ∃ rule stop, float start = .ok (rule, stop) ∧
      ∀ (p : Parser) (scope : Scope) (input : String), p.root = rule →
        p.StaysWithin scope input → p.Decides scope input fun n =>
          ∃ read, LongestNumeral input.toList read ∧ FloatNumeral read ∧ n = utf8Length read) ∧
    ∃ g value, standard.find? "json" = some g ∧ g.rule? "Value" = some value ∧
      ∀ (p : Parser) (input : String), p.root = value → p.StaysWithin standard.scope input →
        ∀ n, (p.FindsNamed standard.scope input "Float" n ↔ SignedNumeral IsFloat input.toList n) ∧
          (p.FindsNamed standard.scope input "Integer" n ↔
            SignedNumeral IsInteger input.toList n) := by
  refine ⟨?_, fun start => ?_, ?_⟩
  · obtain ⟨r, g, hmakes, hfind, hnumber, hknows, hfit⟩ := exists_number
    refine ⟨g, r.number, hfind, hnumber, fun p input hroot hlimit => ?_⟩
    exact (Arithmetic.composed hmakes).decides_number hknows hroot (hroot ▸ hfit) hlimit
  · obtain ⟨rule, stop, hbuild, hmakes, halone⟩ := detached_float.exists_alone .float start
    refine ⟨rule, stop, hbuild, fun p scope input hroot hlimit => ?_⟩
    subst hroot
    exact decides_float hmakes (halone.fit scope) hlimit
  · obtain ⟨r, g, hmakes, hfind, hvalue, hknows, hfit⟩ := exists_value
    refine ⟨g, r.value, hfind, hvalue, fun p input hroot hlimit n => ?_⟩
    have hcomposed := JsonValue.composed hmakes
    exact ⟨hcomposed.finds_float_iff hknows hroot (hroot ▸ hfit) hlimit,
      hcomposed.finds_integer_iff hknows hroot (hroot ▸ hfit) hlimit⟩

/-- A point or a letter of an exponent that no digit follows is not read; a fraction does not
follow an exponent. -/
theorem numbers_exact_samples :
    (∃ g number, standard.find? "arithmetic" = some g ∧ g.rule? "Number" = some number ∧
      (Parser.ofRule number).Finds standard.scope "1e5.3" 3 ∧
      (Parser.ofRule number).FindsNone standard.scope "1.") ∧
    (∃ rule stop, float 0 = .ok (rule, stop) ∧ (Parser.ofRule rule).Finds .empty "2.5E" 3) ∧
    ∃ g value, standard.find? "json" = some g ∧ g.rule? "Value" = some value ∧
      (Parser.ofRule value).FindsNamed standard.scope "-2.5E" "Float" 4 ∧
      (Parser.ofRule value).FindsNamed standard.scope "-7e" "Integer" 2 := by
  obtain ⟨⟨g, number, hfind, hrule, hnumber⟩, hfloat, g', value, hfind', hrule', hvalue⟩ :=
    numbers_exact
  have hdigit {c : Char} (hc : c.isDigit = true) : Digits [c] :=
    ⟨List.cons_ne_nil _ _, List.forall_mem_singleton.2 hc⟩
  have hletter {c : Char} : ¬Begins Exponent [c] := by
    rintro ⟨_, ⟨letter, sign, digits, -, -, hdigits, rfl⟩, behind, heq⟩
    simp [hdigits.1] at heq
  have hcut : Cut ['2'] ['.', '5'] [] ['E'] :=
    ⟨hdigit rfl, Text.avoids_cons.2 rfl, .inl ⟨⟨['5'], hdigit rfl, rfl⟩, Text.avoids_cons.2 rfl⟩,
      .inr ⟨rfl, hletter⟩⟩
  refine ⟨⟨g, number, hfind, hrule, ?_⟩, ?_, g', value, hfind', hrule', ?_⟩
  · -- the rule is not recursive, so that no input takes it deep
    obtain ⟨r, g₁, hmakes, hfind₁, hrule₁, -, hfit⟩ := exists_number
    obtain rfl : g = g₁ := Option.some.inj (hfind.symm.trans hfind₁)
    obtain rfl : number = r.number := Option.some.inj (hrule.symm.trans hrule₁)
    have hlimit (input : String) : (Parser.ofRule r.number).StaysWithin standard.scope input :=
      .of_nests hfit (Arithmetic.composed hmakes).bounded_number.nests (by decide)
    have hpower : Exponent ['e', '5'] := ⟨'e', [], ['5'], .inl rfl, .inl rfl, hdigit rfl, rfl⟩
    have hcut : Cut ['1'] [] ['e', '5'] ['.', '3'] :=
      ⟨hdigit rfl, Text.avoids_cons.2 rfl,
        .inr ⟨rfl, not_begins_fraction (Text.avoids_cons.2 rfl)⟩,
        .inl ⟨hpower, Text.avoids_cons.2 rfl⟩⟩
    have hleft : ¬Dangling "1e5.3".toList := fun hdangling => by
      cases (hcut.dangling_iff.1 hdangling).1
    exact ⟨((hnumber _ _ rfl (hlimit _)).1.1 3).2 ⟨_, hcut.longest, hleft, rfl⟩,
      (hnumber _ _ rfl (hlimit _)).2.2 (.inr ⟨['1'], [], hdigit rfl, rfl, Text.avoids_nil _⟩)⟩
  · obtain ⟨rule, stop, hbuild, hdecides⟩ := hfloat 0
    have hlimit : (Parser.ofRule rule).StaysWithin .empty "2.5E" :=
      Parser.staysWithin_of_isSome hbuild (by decide +kernel)
    exact ⟨rule, stop, hbuild, ((hdecides _ _ _ rfl hlimit).1 3).2
      ⟨_, hcut.longest, hcut.floatNumeral_iff.2 (List.cons_ne_nil _ _), rfl⟩⟩
  · obtain ⟨r, g₁, hmakes, hfind₁, hrule₁, -, hfit⟩ := exists_value
    obtain rfl : g' = g₁ := Option.some.inj (hfind'.symm.trans hfind₁)
    obtain rfl : value = r.value := Option.some.inj (hrule'.symm.trans hrule₁)
    have hlimit {input : String} (hhead : input.toList.head? = some '-') :
        (Parser.ofRule r.value).StaysWithin standard.scope input := by
      refine .of_nests hfit ((JsonValue.composed hmakes).nests_value (Nat.le_refl 9) ?_) (by decide)
      intro kind hkind
      rw [hhead] at hkind
      cases kind <;> cases hkind
    have hcut' : Cut ['7'] [] [] ['e'] :=
      ⟨hdigit rfl, Text.avoids_cons.2 rfl,
        .inr ⟨rfl, not_begins_fraction (Text.avoids_cons.2 rfl)⟩, .inr ⟨rfl, hletter⟩⟩
    exact ⟨(hvalue _ _ rfl (hlimit rfl) 4).1.2 ⟨['-'], _, _, .inr rfl, rfl, hcut.longest,
        hcut.floatNumeral_iff.2 (List.cons_ne_nil _ _), rfl⟩,
      (hvalue _ _ rfl (hlimit rfl) 2).2.2 ⟨['-'], _, _, .inr rfl, rfl, hcut'.longest,
        (JsonValue.isInteger_iff hcut').2 ⟨rfl, Text.avoids_cons.2 rfl⟩, rfl⟩⟩

end Catalog

end Packrat
