import Packrat.Proofs.Graph

/-!
# Reading the notation

What the text of a rule says is what can be read back from it.

- `Lexeme`: the signs of the notation. None begins with another, so a text is spelled
  in one way (`Lexeme.spell_injective`).
- `Reader`: takes lexemes, one group inside another, and makes rules of them.
- `Rule.normal`: the rule without what the notation does not show. That is identities,
  sequences and choices of one operand, and whether a character is a class or a literal.
- `Rule.Plain`: the rule and all below it are shown in full, and no repetition has an
  operand that hides a lookahead.
- `Rule.Plain.legible`: **the text of a plain rule is read back as its normal form.**
- `Rule.Plain.normal_eq`: plain rules with one text have one normal form.

Without the condition on repetitions this fails: a sequence of one operand counts as an
atom, also where its text is that of a lookahead, and a mark behind it is read with the
operand of the lookahead.
-/

namespace Packrat

/-! ## Characters -/

section Escape

variable {special : List Char} {c d : Char} {s t : List Char}

/-- The form of a character is never the beginning of another's. -/
theorem escapedChar_append_inj (hspecial : ∀ c ∈ special, c ∉ ['n', 'r', 't'])
    (h : escapedChar special c ++ s = escapedChar special d ++ t) : c = d ∧ s = t := by
  unfold escapedChar at h
  split at h <;> split at h <;> grind

/-- No form begins with a character that needs one. -/
theorem escapedChar_append_ne (hc : c ∈ special) (hbackslash : c ≠ '\\') :
    escapedChar special d ++ s ≠ c :: t := by
  have hc : special.contains c = true := List.contains_iff_mem.2 hc
  unfold escapedChar
  grind

/-- Characters in their forms end with the first sign that would need a form itself. -/
theorem escaped_append_inj (hspecial : ∀ c ∈ special, c ∉ ['n', 'r', 't', '\\'])
    (hc : c ∈ special) (hd : d ∈ special) :
    ∀ (cs ds : List Char), cs.flatMap (escapedChar special) ++ c :: s =
      ds.flatMap (escapedChar special) ++ d :: t → cs = ds ∧ c = d ∧ s = t
  | [], [], h => by simpa using h
  | [], d' :: ds, h => by
    rw [List.flatMap_nil, List.nil_append, List.flatMap_cons, List.append_assoc] at h
    exact absurd h.symm (escapedChar_append_ne hc (by grind))
  | c' :: cs, [], h => by
    rw [List.flatMap_nil, List.nil_append, List.flatMap_cons, List.append_assoc] at h
    exact absurd h (escapedChar_append_ne hd (by grind))
  | c' :: cs, d' :: ds, h => by
    rw [List.flatMap_cons, List.flatMap_cons, List.append_assoc, List.append_assoc] at h
    obtain ⟨rfl, hrest⟩ := escapedChar_append_inj (by grind) h
    obtain ⟨rfl, rfl, rfl⟩ := escaped_append_inj hspecial hc hd cs ds hrest
    exact ⟨rfl, rfl, rfl⟩

end Escape

/-! ## Lexemes -/

/-- The repetitions, by their marks. -/
inductive Repetition where
  | zeroOrMore
  | oneOrMore
  | opt

/-- A sign of the notation. -/
inductive Lexeme where
  | literal (text : List Char)
  | oneOf (chars : List Char)
  | noneOf (chars : List Char)
  | range (lo hi : Char)
  | any
  | endOfInput
  /-- The beginning of a group, which may be captured. -/
  | opening (captures : Bool)
  | closing
  | lookahead (negative : Bool)
  | repeated (kind : Repetition)
  | space
  | slash

namespace Lexeme

/-- The lexeme in writing. -/
def text : Lexeme → String
  | .literal text => quotedLiteral text
  | .oneOf chars => "[" ++ bracketed chars ++ "]"
  | .noneOf chars => "[^" ++ bracketed chars ++ "]"
  | .range lo hi => "[" ++ bracketed [lo] ++ "-" ++ bracketed [hi] ++ "]"
  | .any => "."
  | .endOfInput => "END"
  | .opening captures => if captures then "@(" else "("
  | .closing => ")"
  | .lookahead negative => if negative then "!" else "&"
  | .repeated .zeroOrMore => "*"
  | .repeated .oneOrMore => "+"
  | .repeated .opt => "?"
  | .space => " "
  | .slash => "/"

variable {a b : Lexeme} {s t : List Char}

/-- Brackets hold characters up to the first sign that means something there. -/
theorem bracketed_append_inj {c d : Char} (hc : c ∈ [']', '-', '^']) (hd : d ∈ [']', '-', '^'])
    (cs ds : List Char)
    (h : cs.flatMap (escapedChar [']', '-', '^']) ++ c :: s =
      ds.flatMap (escapedChar [']', '-', '^']) ++ d :: t) : cs = ds ∧ c = d ∧ s = t :=
  escaped_append_inj (by simp) hc hd cs ds h

/-- **No lexeme begins with another.** -/
theorem text_append_inj (h : a.text.toList ++ s = b.text.toList ++ t) : a = b ∧ s = t := by
  -- most lexemes differ in their first character; literals and brackets have to be read on
  rcases a with text | chars | chars | ⟨lo, hi⟩ | _ | _ | (_ | _) | _ | (_ | _) |
    (_ | _ | _) | _ | _ <;>
  rcases b with text' | chars' | chars' | ⟨lo', hi'⟩ | _ | _ | (_ | _) | _ | (_ | _) |
    (_ | _ | _) | _ | _ <;>
  simp [Lexeme.text, quotedLiteral, bracketed, -List.flatMap_cons] at h ⊢
  case literal.literal =>
    obtain ⟨rfl, -, rfl⟩ := escaped_append_inj (by simp) (by decide) (by decide) _ _ h
    exact ⟨rfl, rfl⟩
  case oneOf.oneOf | noneOf.noneOf =>
    obtain ⟨rfl, -, rfl⟩ := bracketed_append_inj (by decide) (by decide) _ _ h
    exact ⟨rfl, rfl⟩
  case range.range =>
    obtain ⟨hlo, -, h⟩ := bracketed_append_inj (by decide) (by decide) _ _ h
    obtain ⟨hhi, -, rfl⟩ := bracketed_append_inj (by decide) (by decide) _ _ h
    exact ⟨⟨List.singleton_inj.1 hlo, List.singleton_inj.1 hhi⟩, rfl⟩
  case oneOf.range | range.oneOf =>
    exact absurd (bracketed_append_inj (by decide) (by decide) _ _ h).2.1 (by decide)
  case oneOf.noneOf | range.noneOf =>
    exact absurd (bracketed_append_inj (by decide) (by decide) _ [] h).2.1 (by decide)
  case noneOf.oneOf | noneOf.range =>
    exact absurd (bracketed_append_inj (by decide) (by decide) [] _ h).2.1 (by decide)
  all_goals exact h

theorem text_toList_ne_nil (lexeme : Lexeme) : lexeme.text.toList ≠ [] := by
  rcases lexeme with _ | _ | _ | _ | _ | _ | (_ | _) | _ | (_ | _) | (_ | _ | _) | _ | _ <;>
    simp [Lexeme.text, quotedLiteral]

/-- Lexemes in writing, one after the other. -/
def spell (lexemes : List Lexeme) : List Char := lexemes.flatMap fun lexeme => lexeme.text.toList

theorem spell_append (lexemes more : List Lexeme) :
    spell (lexemes ++ more) = spell lexemes ++ spell more := List.flatMap_append

/-- **A text is spelled in one way.** -/
theorem spell_injective : Function.Injective spell := by
  intro lexemes
  induction lexemes with
  | nil =>
    rintro (_ | ⟨b, rest'⟩) h
    · rfl
    · exact absurd (List.append_eq_nil_iff.1 h.symm).1 b.text_toList_ne_nil
  | cons a rest ih =>
    rintro (_ | ⟨b, rest'⟩) h
    · exact absurd (List.append_eq_nil_iff.1 h).1 a.text_toList_ne_nil
    · obtain ⟨rfl, hrest⟩ := text_append_inj h
      rw [ih hrest]

end Lexeme

/-! ## Normal forms -/

namespace Rule

/-- The sequence of the rules, or the only one. -/
def seqOf : List Rule → Rule
  | [rule] => rule
  | rules => .seq 0 rules

/-- The choice between the rules, or the only one. -/
def choiceOf : List Rule → Rule
  | [rule] => rule
  | rules => .choice 0 rules

/-- A lookahead of either kind. -/
def lookahead (negative : Bool) (operand : Rule) : Rule :=
  if negative then .notAhead 0 operand else .ahead 0 operand

/-- A repetition of any kind. -/
def repeated : Repetition → Rule → Rule
  | .zeroOrMore, operand => .zeroOrMore 0 operand
  | .oneOrMore, operand => .oneOrMore 0 operand
  | .opt, operand => .opt 0 operand

mutual

/-- The rule without what its notation does not show. -/
def normal : Rule → Rule
  | .char _ (.single c) => .literal 0 (String.singleton c)
  | .char _ accepted => .char 0 accepted
  | .literal _ text => .literal 0 text
  | .regex _ expression => .regex 0 expression
  | .endOfInput _ => .endOfInput 0
  | .seq _ rules => seqOf (normalAll rules)
  | .choice _ rules => choiceOf (normalAll rules)
  | .notAhead _ r => .notAhead 0 r.normal
  | .ahead _ r => .ahead 0 r.normal
  | .zeroOrMore _ r => .zeroOrMore 0 r.normal
  | .oneOrMore _ r => .oneOrMore 0 r.normal
  | .opt _ r => .opt 0 r.normal
  | .node _ r => .node 0 r.normal
  | .recursive _ key => .recursive 0 key

/-- The normal forms of operands. -/
def normalAll : List Rule → List Rule
  | [] => []
  | r :: rest => r.normal :: normalAll rest

end

end Rule

/-! ## The reader -/

open Rule (seqOf choiceOf)

/-- A group while it is read. -/
structure Grouping where
  /-- The alternatives that are complete. -/
  alternatives : List Rule
  /-- The items of the sequence that are complete. -/
  items : List Rule
  /-- The lookaheads in front of the next unit, by whether they are negative. -/
  lookaheads : List Bool
  /-- The unit so far. -/
  unit : Option Rule

namespace Grouping

/-- The group before its first lexeme. -/
def start : Grouping := ⟨[], [], [], none⟩

/-- A unit behind lookaheads. -/
def guarded (lookaheads : List Bool) (unit : Rule) : Rule := lookaheads.foldr Rule.lookahead unit

/-- Behind an item. -/
def endItem (group : Grouping) : Grouping :=
  match group.unit with
  | some unit =>
    ⟨group.alternatives, group.items ++ [guarded group.lookaheads unit], [], none⟩
  | none => group

@[simp]
theorem endItem_alternatives (group : Grouping) :
    group.endItem.alternatives = group.alternatives := by
  unfold endItem
  split <;> rfl

@[simp]
theorem endItem_endItem (group : Grouping) : group.endItem.endItem = group.endItem := by
  obtain ⟨alternatives, items, lookaheads, unit⟩ := group
  cases unit <;> rfl

/-- Behind an alternative. -/
def endAlternative (group : Grouping) : Grouping :=
  ⟨group.alternatives ++ [seqOf group.endItem.items], [], [], none⟩

@[simp]
theorem endAlternative_endItem (group : Grouping) :
    group.endItem.endAlternative = group.endAlternative := by
  simp [endAlternative]

/-- The rule that the group stands for. -/
def rule (group : Grouping) : Rule := choiceOf group.endAlternative.alternatives

end Grouping

/-- A group with those around it, the innermost first, by whether it is captured. -/
structure Reader where
  group : Grouping
  outer : List (Bool × Grouping)

namespace Reader

/-- The reader with a unit that is complete. -/
def withUnit (reader : Reader) (rule : Rule) : Reader :=
  { reader with group.unit := some rule }

/-- The reader behind a lexeme. -/
def read (reader : Reader) : Lexeme → Reader
  | .literal text => reader.withUnit (.literal 0 (String.ofList text))
  | .oneOf chars => reader.withUnit (.char 0 (.oneOf (String.ofList chars)))
  | .noneOf chars => reader.withUnit (.char 0 (.noneOf (String.ofList chars)))
  | .range lo hi => reader.withUnit (.char 0 (.range lo hi))
  | .any => reader.withUnit (.char 0 .any)
  | .endOfInput => reader.withUnit (.endOfInput 0)
  | .opening captures => ⟨.start, (captures, reader.group) :: reader.outer⟩
  | .closing =>
    match reader.outer with
    | (captures, group) :: outer =>
      withUnit ⟨group, outer⟩
        (if captures then .node 0 reader.group.rule else reader.group.rule)
    | [] => reader
  | .lookahead negative =>
    { reader with group.lookaheads := reader.group.lookaheads ++ [negative] }
  | .repeated kind => { reader with group.unit := reader.group.unit.map (Rule.repeated kind) }
  | .space => { reader with group := reader.group.endItem }
  | .slash => { reader with group := reader.group.endAlternative }

/-- The reader comes from `before` to `after` on the text. -/
def Takes (text : String) (before after : Reader) : Prop :=
  ∃ lexemes, Lexeme.spell lexemes = text.toList ∧ lexemes.foldl read before = after

namespace Takes

variable {text text' : String} {before mid after after' : Reader}

theorem append (h : Takes text before mid) (h' : Takes text' mid after) :
    Takes (text ++ text') before after := by
  obtain ⟨lexemes, hspell, rfl⟩ := h
  obtain ⟨lexemes', hspell', rfl⟩ := h'
  refine ⟨lexemes ++ lexemes', ?_, List.foldl_append⟩
  rw [Lexeme.spell_append, hspell, hspell', String.toList_append]

theorem lexeme (lexeme : Lexeme) (before : Reader) :
    Takes lexeme.text before (before.read lexeme) :=
  ⟨[lexeme], List.append_nil _, rfl⟩

/-- What the reader comes to is a matter of the text. -/
theorem det (h : Takes text before after) (h' : Takes text before after') : after = after' := by
  obtain ⟨lexemes, hspell, rfl⟩ := h
  obtain ⟨lexemes', hspell', rfl⟩ := h'
  rw [Lexeme.spell_injective (hspell.trans hspell'.symm)]

end Takes

end Reader

/-! ## Phrases -/

/-- The text is read as a unit: marks behind it belong to all of it. -/
def IsUnitText (text : String) (rule : Rule) : Prop :=
  ∀ alternatives items lookaheads outer,
    Reader.Takes text ⟨⟨alternatives, items, lookaheads, none⟩, outer⟩
      ⟨⟨alternatives, items, lookaheads, some rule⟩, outer⟩

/-- The text is read as an item of a sequence: a unit, and lookaheads in front of it. -/
def IsItemText (text : String) (rule : Rule) : Prop :=
  ∀ alternatives items lookaheads outer, ∃ more unit,
    Reader.Takes text ⟨⟨alternatives, items, lookaheads, none⟩, outer⟩
        ⟨⟨alternatives, items, lookaheads ++ more, some unit⟩, outer⟩ ∧
      Grouping.guarded more unit = rule

/-- The text is read as an alternative of a choice. -/
def IsAlternativeText (text : String) (rule : Rule) : Prop :=
  ∀ alternatives outer, ∃ group : Grouping,
    Reader.Takes text ⟨⟨alternatives, [], [], none⟩, outer⟩ ⟨group, outer⟩ ∧
      group.endAlternative = ⟨alternatives ++ [rule], [], [], none⟩

/-- The text is read as all that a group holds. -/
def IsContentText (text : String) (rule : Rule) : Prop :=
  ∀ outer, ∃ group : Grouping,
    Reader.Takes text ⟨.start, outer⟩ ⟨group, outer⟩ ∧ group.rule = rule

section Phrases

variable {text : String} {rule rule' : Rule}

theorem IsUnitText.isItemText (h : IsUnitText text rule) : IsItemText text rule := by
  intro alternatives items lookaheads outer
  exact ⟨[], rule, (List.append_nil lookaheads).symm ▸ h alternatives items lookaheads outer, rfl⟩

theorem IsItemText.isAlternativeText (h : IsItemText text rule) : IsAlternativeText text rule := by
  intro alternatives outer
  obtain ⟨more, unit, htakes, rfl⟩ := h alternatives [] [] outer
  exact ⟨_, htakes, rfl⟩

theorem IsAlternativeText.isContentText (h : IsAlternativeText text rule) :
    IsContentText text rule := by
  intro outer
  obtain ⟨group, htakes, hend⟩ := h [] outer
  exact ⟨group, htakes, by rw [Grouping.rule, hend]; rfl⟩

/-- What a text is read as is a matter of the text. -/
theorem IsContentText.det (h : IsContentText text rule) (h' : IsContentText text rule') :
    rule = rule' := by
  obtain ⟨group, htakes, rfl⟩ := h []
  obtain ⟨group', htakes', rfl⟩ := h' []
  cases htakes.det htakes'
  rfl

/-! ### Groups -/

theorem isUnitText_lexeme (lexeme : Lexeme)
    (h : ∀ reader, Reader.read reader lexeme = reader.withUnit rule) :
    IsUnitText lexeme.text rule := by
  intro alternatives items lookaheads outer
  have htakes := Reader.Takes.lexeme lexeme ⟨⟨alternatives, items, lookaheads, none⟩, outer⟩
  rwa [h] at htakes

theorem IsContentText.group (h : IsContentText text rule) (captures : Bool) :
    IsUnitText ((Lexeme.opening captures).text ++ text ++ ")")
      (if captures then .node 0 rule else rule) := by
  intro alternatives items lookaheads outer
  obtain ⟨group, htakes, rfl⟩ := h ((captures, ⟨alternatives, items, lookaheads, none⟩) :: outer)
  have hclosing := Reader.Takes.lexeme .closing
    ⟨group, (captures, ⟨alternatives, items, lookaheads, none⟩) :: outer⟩
  exact ((Reader.Takes.lexeme (.opening captures) _).append htakes).append hclosing

theorem IsUnitText.repeated (h : IsUnitText text rule) (kind : Repetition) :
    IsUnitText (text ++ (Lexeme.repeated kind).text) (Rule.repeated kind rule) := by
  intro alternatives items lookaheads outer
  exact (h alternatives items lookaheads outer).append (Reader.Takes.lexeme (.repeated kind) _)

theorem IsItemText.lookahead (h : IsItemText text rule) (negative : Bool) :
    IsItemText ((Lexeme.lookahead negative).text ++ text) (Rule.lookahead negative rule) := by
  intro alternatives items lookaheads outer
  obtain ⟨more, unit, htakes, rfl⟩ := h alternatives items (lookaheads ++ [negative]) outer
  refine ⟨negative :: more, unit, ?_, rfl⟩
  rw [List.append_cons]
  exact (Reader.Takes.lexeme (.lookahead negative) _).append htakes

/-! ### Lists -/

/-- Items with spaces between them come to stand behind those before them. -/
theorem takes_items {texts : List String} {rules : List Rule}
    (h : List.Forall₂ IsItemText texts rules)
    (hrules : rules ≠ []) (alternatives items : List Rule) (outer : List (Bool × Grouping)) :
    ∃ group : Grouping,
      Reader.Takes (" ".intercalate texts) ⟨⟨alternatives, items, [], none⟩, outer⟩
          ⟨group, outer⟩ ∧
        group.endItem = ⟨alternatives, items ++ rules, [], none⟩ := by
  induction h generalizing items with
  | nil => exact absurd rfl hrules
  | @cons text rule texts rules hitem hrest ih =>
    obtain ⟨more, unit, htakes, rfl⟩ := hitem alternatives items [] outer
    cases hrest with
    | nil => exact ⟨_, by rwa [String.intercalate_singleton], rfl⟩
    | cons hitem' hrest' =>
      obtain ⟨group, htakes', hend⟩ := ih (List.cons_ne_nil _ _)
        (items ++ [Grouping.guarded more unit])
      refine ⟨group, ?_, by rw [hend, List.append_assoc]; rfl⟩
      rw [String.intercalate_cons_cons]
      exact (htakes.append (Reader.Takes.lexeme .space _)).append htakes'

theorem isAlternativeText_seq {texts : List String} {rules : List Rule}
    (h : List.Forall₂ IsItemText texts rules) (hrules : rules ≠ []) :
    IsAlternativeText (" ".intercalate texts) (seqOf rules) := by
  intro alternatives outer
  obtain ⟨group, htakes, hend⟩ := takes_items h hrules alternatives [] outer
  refine ⟨group, htakes, ?_⟩
  have hitems : group.endItem.items = rules := by rw [hend]; rfl
  have halternatives : group.alternatives = alternatives := by
    rw [← group.endItem_alternatives, hend]
  rw [Grouping.endAlternative, hitems, halternatives]

/-- Alternatives with slashes between them come to stand behind those before them. -/
theorem takes_alternatives {texts : List String} {rules : List Rule}
    (h : List.Forall₂ IsAlternativeText texts rules) (hrules : rules ≠ [])
    (alternatives : List Rule) (outer : List (Bool × Grouping)) :
    ∃ group : Grouping,
      Reader.Takes (" / ".intercalate texts) ⟨⟨alternatives, [], [], none⟩, outer⟩
          ⟨group, outer⟩ ∧
        group.endAlternative = ⟨alternatives ++ rules, [], [], none⟩ := by
  induction h generalizing alternatives with
  | nil => exact absurd rfl hrules
  | @cons text rule texts rules halternative hrest ih =>
    obtain ⟨group, htakes, hend⟩ := halternative alternatives outer
    cases hrest with
    | nil => exact ⟨group, by rwa [String.intercalate_singleton], hend⟩
    | cons halternative' hrest' =>
      obtain ⟨group', htakes', hend'⟩ := ih (List.cons_ne_nil _ _) (alternatives ++ [rule])
      refine ⟨group', ?_, by rw [hend', List.append_assoc]; rfl⟩
      rw [String.intercalate_cons_cons]
      refine (htakes.append ?_).append htakes'
      -- the space ends the last item, the slash the alternative
      have hslash := ((Reader.Takes.lexeme .space ⟨group, outer⟩).append
        (Reader.Takes.lexeme .slash _)).append (Reader.Takes.lexeme .space _)
      have hread : Reader.read (Reader.read (Reader.read ⟨group, outer⟩ .space) .slash) .space =
          ⟨⟨alternatives ++ [rule], [], [], none⟩, outer⟩ := by
        simp only [Reader.read, Grouping.endAlternative_endItem, hend]
        rfl
      rwa [hread] at hslash

theorem isContentText_choice {texts : List String} {rules : List Rule}
    (h : List.Forall₂ IsAlternativeText texts rules) (hrules : rules ≠ []) :
    IsContentText (" / ".intercalate texts) (choiceOf rules) := by
  intro outer
  obtain ⟨group, htakes, hend⟩ := takes_alternatives h hrules [] outer
  exact ⟨group, htakes, by rw [Grouping.rule, hend]; rfl⟩

end Phrases

/-! ## Rules that can be read back -/

namespace Rule

/-- Whether the notation shows all of the rule: labels, patterns and names stand for
something else, and a choice without alternatives has no text. -/
def isExplicit : Rule → Bool
  | .char _ (.satisfying ..) | .regex .. | .recursive .. | .choice _ [] => false
  | _ => true

/-- What a repetition repeats. -/
def repeats? : Rule → Option Rule
  | .zeroOrMore _ operand | .oneOrMore _ operand | .opt _ operand => some operand
  | _ => none

/-- The rule counts as an atom and has the text of a lookahead. -/
inductive HidesLookahead : Rule → Prop where
  | lookahead {id : RuleId} {operand : Rule} :
      operand.strength = .ahead → HidesLookahead (.seq id [operand])
  | nested {id : RuleId} {operand : Rule} :
      HidesLookahead operand → HidesLookahead (.seq id [operand])

/-- The rule and all below it are shown in full, and no mark stands behind a lookahead. -/
structure Plain (scope : Scope) (root : Rule) : Prop where
  unnamed : ∀ rule, root.Reaches scope rule → scope.name rule.id = none
  explicit : ∀ rule, root.Reaches scope rule → rule.isExplicit = true
  bound : ∀ rule operand, root.Reaches scope rule → rule.repeats? = some operand →
    ¬operand.HidesLookahead

/-- The text of the rule is read back as its normal form, and stands for as strong a
phrase as the grouping takes it for. -/
structure Legible (scope : Scope) (rule : Rule) : Prop where
  content : IsContentText (rule.display scope) rule.normal
  alternative : Strength.choice.rank < rule.strength.rank →
    IsAlternativeText (rule.display scope) rule.normal
  item : Strength.seq.rank < rule.strength.rank → IsItemText (rule.display scope) rule.normal
  unit : Strength.ahead.rank < rule.strength.rank → ¬rule.HidesLookahead →
    IsUnitText (rule.display scope) rule.normal

variable {scope : Scope} {rule part : Rule}

theorem Plain.operand (h : rule.Plain scope) (hmem : part ∈ rule.operands) :
    part.Plain scope where
  unnamed below hbelow := h.unnamed below ((Reaches.refl.operand hmem).trans hbelow)
  explicit below hbelow := h.explicit below ((Reaches.refl.operand hmem).trans hbelow)
  bound below repeated hbelow := h.bound below repeated ((Reaches.refl.operand hmem).trans hbelow)

/-- A rule without a name stands as it is, or in parentheses. -/
theorem operandText_induction {limit : Strength} {text : String} {motive : String → Prop}
    (hname : scope.name rule.id = none) (hgroup : motive ("(" ++ text ++ ")"))
    (hbare : limit.rank < rule.strength.rank → motive text) :
    motive (operandText scope (some limit) rule fun _ => text) := by
  unfold operandText
  rw [hname]
  by_cases hparens : needsParens (some limit) rule = true
  · simpa only [hparens, if_true] using hgroup
  · simp only [hparens]
    exact hbare (by simpa [needsParens] using hparens)

namespace Legible

theorem of_unit (h : IsUnitText (rule.display scope) rule.normal) : rule.Legible scope :=
  ⟨h.isItemText.isAlternativeText.isContentText, fun _ => h.isItemText.isAlternativeText,
    fun _ => h.isItemText, fun _ _ => h⟩

/-- Where the grouping takes the rule for too weak, there is nothing to show. -/
theorem not_lt {limit own : Strength} (hstrength : rule.strength = own)
    (hle : own.rank ≤ limit.rank) : ¬limit.rank < rule.strength.rank := by
  rw [hstrength]
  exact Nat.not_lt.2 hle

theorem of_item (h : IsItemText (rule.display scope) rule.normal)
    (hstrength : rule.strength = .ahead) : rule.Legible scope :=
  ⟨h.isAlternativeText.isContentText, fun _ => h.isAlternativeText, fun _ => h,
    fun hlt => absurd hlt (not_lt hstrength (by decide))⟩

theorem of_alternative (h : IsAlternativeText (rule.display scope) rule.normal)
    (hstrength : rule.strength = .seq) : rule.Legible scope :=
  ⟨h.isContentText, fun _ => h, fun hlt => absurd hlt (not_lt hstrength (by decide)),
    fun hlt => absurd hlt (not_lt hstrength (by decide))⟩

theorem of_content (h : IsContentText (rule.display scope) rule.normal)
    (hstrength : rule.strength = .choice) : rule.Legible scope :=
  ⟨h, fun hlt => absurd hlt (not_lt hstrength (by decide)),
    fun hlt => absurd hlt (not_lt hstrength (by decide)),
    fun hlt => absurd hlt (not_lt hstrength (by decide))⟩

variable (hname : scope.name part.id = none) (h : part.Legible scope)
include hname h

theorem isUnitText_operand (hhidden : ¬part.HidesLookahead) :
    IsUnitText (operandText scope (some .repeated) part fun _ => part.display scope)
      part.normal :=
  operandText_induction (motive := fun text => IsUnitText text part.normal) hname
    (h.content.group false) fun hlt => h.unit (Nat.lt_of_succ_lt hlt) hhidden

theorem isItemText_operand :
    IsItemText (operandText scope (some .seq) part fun _ => part.display scope)
      part.normal :=
  operandText_induction (motive := fun text => IsItemText text part.normal) hname
    (h.content.group false).isItemText h.item

theorem isAlternativeText_operand :
    IsAlternativeText (operandText scope (some .choice) part fun _ => part.display scope)
      part.normal :=
  operandText_induction (motive := fun text => IsAlternativeText text part.normal) hname
    (h.content.group false).isItemText.isAlternativeText h.alternative

/-- A sequence of one operand has the text of the operand, and is a unit unless this is
a lookahead. -/
theorem single (id : RuleId) : (Rule.seq id [part]).Legible scope := by
  have hitem : IsItemText (display scope (.seq id [part])) part.normal :=
    h.isItemText_operand hname
  refine ⟨hitem.isAlternativeText.isContentText, fun _ => hitem.isAlternativeText, fun _ => hitem,
    fun _ hhidden => ?_⟩
  show IsUnitText (operandText scope (some .seq) part fun _ => part.display scope) part.normal
  refine operandText_induction (motive := fun text => IsUnitText text part.normal) hname
    (h.content.group false) fun hlt => h.unit ?_ fun hpart => hhidden (.nested hpart)
  have hahead : part.strength ≠ .ahead := fun hahead => hhidden (.lookahead hahead)
  revert hlt hahead
  cases part.strength <;> decide

end Legible

/-- The operands of a list are read back one by one. -/
theorem forall₂_displayAll {own : Strength} {phrase : String → Rule → Prop} {rules : List Rule}
    (h : ∀ r ∈ rules, phrase (operandText scope (some own) r fun _ => r.display scope) r.normal) :
    List.Forall₂ phrase (displayAll scope own rules) (normalAll rules) := by
  induction rules with
  | nil => exact .nil
  | cons r rest ih =>
    rw [displayAll, normalAll]
    exact .cons (h r List.mem_cons_self) (ih fun r' hmem => h r' (List.mem_cons_of_mem r hmem))

/-- **The text of a plain rule is read back as its normal form.** -/
theorem Plain.legible (rule : Rule) (h : rule.Plain scope) : rule.Legible scope := by
  have ih : ∀ part ∈ rule.operands, part.Legible scope := fun part hmem =>
    have := sizeOf_lt_of_mem_operands hmem
    legible part (h.operand hmem)
  have hname : ∀ part ∈ rule.operands, scope.name part.id = none := fun part hmem =>
    h.unnamed part (.operand .refl hmem)
  have hunit := fun part hmem => (ih part hmem).isUnitText_operand (hname part hmem)
  have hitem := fun part hmem => (ih part hmem).isItemText_operand (hname part hmem)
  have hexplicit := h.explicit rule .refl
  cases rule with
  | char id accepted =>
    refine .of_unit ?_
    cases accepted with
    | satisfying => cases hexplicit
    | single c => exact isUnitText_lexeme (.literal [c]) fun _ => rfl
    | oneOf chars =>
      have := isUnitText_lexeme (.oneOf chars.toList) fun _ => rfl
      rwa [String.ofList_toList] at this
    | noneOf chars =>
      have := isUnitText_lexeme (.noneOf chars.toList) fun _ => rfl
      rwa [String.ofList_toList] at this
    | range lo hi => exact isUnitText_lexeme (.range lo hi) fun _ => rfl
    | any => exact isUnitText_lexeme .any fun _ => rfl
  | literal id text =>
    refine .of_unit ?_
    have := isUnitText_lexeme (.literal text.toList) fun _ => rfl
    rwa [String.ofList_toList] at this
  | regex | recursive => cases hexplicit
  | endOfInput => exact .of_unit (isUnitText_lexeme .endOfInput fun _ => rfl)
  | notAhead id r => exact .of_item ((hitem r (List.mem_singleton_self r)).lookahead true) rfl
  | ahead id r => exact .of_item ((hitem r (List.mem_singleton_self r)).lookahead false) rfl
  | zeroOrMore id r =>
    exact .of_unit ((hunit r (List.mem_singleton_self r) (h.bound _ r .refl rfl)).repeated
      .zeroOrMore)
  | oneOrMore id r =>
    exact .of_unit ((hunit r (List.mem_singleton_self r) (h.bound _ r .refl rfl)).repeated
      .oneOrMore)
  | opt id r =>
    exact .of_unit ((hunit r (List.mem_singleton_self r) (h.bound _ r .refl rfl)).repeated .opt)
  | node id r =>
    refine .of_unit ?_
    have hid : scope.name id = none := h.unnamed _ .refl
    rw [display, hid, operandText, hname r (List.mem_singleton_self r)]
    exact (ih r (List.mem_singleton_self r)).content.group true
  | seq id rules =>
    match rules with
    | [] =>
      have hempty : IsContentText "" (.seq 0 []) := fun outer => ⟨.start, ⟨[], rfl, rfl⟩, rfl⟩
      exact .of_unit (hempty.group false)
    | [r] =>
      have hmem := List.mem_singleton_self r
      exact (ih r hmem).single (hname r hmem) id
    | r :: r' :: rest =>
      have halternative : IsAlternativeText (display scope (.seq id (r :: r' :: rest)))
          (normal (.seq id (r :: r' :: rest))) :=
        isAlternativeText_seq (forall₂_displayAll hitem) (List.cons_ne_nil _ _)
      exact .of_alternative halternative rfl
  | choice id rules =>
    match rules with
    | [] => cases hexplicit
    | r :: rest =>
      have hcontent : IsContentText (display scope (.choice id (r :: rest)))
          (normal (.choice id (r :: rest))) :=
        isContentText_choice (forall₂_displayAll fun part hmem =>
          (ih part hmem).isAlternativeText_operand (hname part hmem)) (List.cons_ne_nil _ _)
      exact .of_content hcontent rfl
termination_by sizeOf rule

/-- **Plain rules with one text have one normal form**, whatever they are called elsewhere. -/
theorem Plain.normal_eq {scope' : Scope} {rule' : Rule} (h : rule.Plain scope)
    (h' : rule'.Plain scope') (hdisplay : rule.display scope = rule'.display scope') :
    rule.normal = rule'.normal :=
  h.legible.content.det (hdisplay ▸ h'.legible.content)

end Rule

end Packrat
