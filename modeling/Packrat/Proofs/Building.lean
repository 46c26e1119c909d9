import Packrat.Proofs.Identity

/-!
# Programs that build rules

A builder program is a chain of constructors. What it makes is read off the chain,
and with the rules that it is given, what it makes is built.

- `Builder.Makes build made`: the program may end with `made`, whatever identity
  it begins with.
- `Builder.Keeps needs build parts`: where the rules `needs` are built, so are the
  rules `parts made`. `Keeps.bind` chains programs.
-/

namespace Packrat

namespace Builder

variable {α β : Type} {build : Builder α} {next : α → Builder β} {rule : Rule}

theorem bind_eq_ok {start stop : RuleId} {b : β} (h : (build >>= next) start = .ok (b, stop)) :
    ∃ a mid, build start = .ok (a, mid) ∧ next a mid = .ok (b, stop) := by
  have heq : (build >>= next) start = Except.bind (build start) fun made => next made.1 made.2 := rfl
  rw [heq] at h
  cases hbuild : build start with
  | error => rw [hbuild] at h; cases h
  | ok made => rw [hbuild] at h; exact ⟨made.1, made.2, rfl, h⟩

/-! ## What a program makes -/

/-- The program ends with `made` for some supply of identities. -/
def Makes (build : Builder α) (made : α) : Prop := ∃ start stop, build start = .ok (made, stop)

theorem Makes.bind {b : β} (h : (build >>= next).Makes b) :
    ∃ a, build.Makes a ∧ (next a).Makes b := by
  obtain ⟨start, stop, h⟩ := h
  obtain ⟨a, mid, hbuild, hnext⟩ := bind_eq_ok h
  exact ⟨a, ⟨start, mid, hbuild⟩, mid, stop, hnext⟩

theorem Makes.pure {a made : α} (h : (pure a : Builder α).Makes made) : made = a := by
  obtain ⟨start, stop, h⟩ := h
  cases h
  rfl

/-- A program over a list makes one thing of each entry. -/
theorem Makes.mapM {γ : Type} {make : γ → Builder α} {cs : List γ} {made : List α}
    (h : (cs.mapM make).Makes made) : List.Forall₂ (fun c a => (make c).Makes a) cs made := by
  induction cs generalizing made with
  | nil =>
    rw [List.mapM_nil] at h
    rw [h.pure]
    exact .nil
  | cons c cs ih =>
    rw [List.mapM_cons] at h
    obtain ⟨first, hfirst, h⟩ := h.bind
    obtain ⟨rest, hrest, h⟩ := h.bind
    rw [h.pure]
    exact .cons hfirst (ih hrest)

theorem makes_ch {c : Char} (h : (ch c).Makes rule) : ∃ id, rule = .char id (.single c) := by
  obtain ⟨start, stop, h⟩ := h
  cases h
  exact ⟨start, rfl⟩

theorem makes_oneOf {chars : String} (h : (oneOf chars).Makes rule) :
    ∃ id, rule = .char id (.oneOf chars) := by
  obtain ⟨start, stop, h⟩ := h
  unfold oneOf at h
  split at h
  · cases h
  · cases h
    exact ⟨start, rfl⟩

theorem makes_noneOf {chars : String} (h : (noneOf chars).Makes rule) :
    ∃ id, rule = .char id (.noneOf chars) := by
  obtain ⟨start, stop, h⟩ := h
  unfold noneOf at h
  split at h
  · cases h
  · cases h
    exact ⟨start, rfl⟩

theorem makes_range {lo hi : Char} (h : (range lo hi).Makes rule) :
    ∃ id, rule = .char id (.range lo hi) := by
  obtain ⟨start, stop, h⟩ := h
  unfold range at h
  split at h
  · cases h
  · cases h
    exact ⟨start, rfl⟩

theorem makes_any (h : any.Makes rule) : ∃ id, rule = .char id .any := by
  obtain ⟨start, stop, h⟩ := h
  cases h
  exact ⟨start, rfl⟩

theorem makes_satisfy {label : String} {test : Char → Bool} (h : (satisfy label test).Makes rule) :
    ∃ id, rule = .char id (.satisfying label test) := by
  obtain ⟨start, stop, h⟩ := h
  cases h
  exact ⟨start, rfl⟩

theorem makes_literal {text : String} (h : (literal text).Makes rule) :
    ∃ id, rule = .literal id text := by
  obtain ⟨start, stop, h⟩ := h
  unfold literal at h
  split at h
  · cases h
  · cases h
    exact ⟨start, rfl⟩

theorem makes_endOfInput (h : endOfInput.Makes rule) : ∃ id, rule = .endOfInput id := by
  obtain ⟨start, stop, h⟩ := h
  cases h
  exact ⟨start, rfl⟩

theorem makes_seq {rules : List Rule} (h : (seq rules).Makes rule) : ∃ id, rule = .seq id rules := by
  obtain ⟨start, stop, h⟩ := h
  cases h
  exact ⟨start, rfl⟩

theorem makes_choice {rules : List Rule} (h : (choice rules).Makes rule) :
    ∃ id, rule = .choice id rules := by
  obtain ⟨start, stop, h⟩ := h
  unfold choice at h
  split at h
  · cases h
  · cases h
    exact ⟨start, rfl⟩

theorem makes_notAhead {operand : Rule} (h : (notAhead operand).Makes rule) :
    ∃ id, rule = .notAhead id operand := by
  obtain ⟨start, stop, h⟩ := h
  cases h
  exact ⟨start, rfl⟩

theorem makes_zeroOrMore {operand : Rule} (h : (zeroOrMore operand).Makes rule) :
    ∃ id, rule = .zeroOrMore id operand := by
  obtain ⟨start, stop, h⟩ := h
  cases h
  exact ⟨start, rfl⟩

theorem makes_oneOrMore {operand : Rule} (h : (oneOrMore operand).Makes rule) :
    ∃ id, rule = .oneOrMore id operand := by
  obtain ⟨start, stop, h⟩ := h
  cases h
  exact ⟨start, rfl⟩

theorem makes_opt {operand : Rule} (h : (opt operand).Makes rule) :
    ∃ id, rule = .opt id operand := by
  obtain ⟨start, stop, h⟩ := h
  cases h
  exact ⟨start, rfl⟩

theorem makes_node {operand : Rule} (h : (node operand).Makes rule) :
    ∃ id, rule = .node id operand := by
  obtain ⟨start, stop, h⟩ := h
  cases h
  exact ⟨start, rfl⟩

theorem makes_recursive {key : String} (h : (recursive key).Makes rule) :
    ∃ id, rule = .recursive id key := by
  obtain ⟨start, stop, h⟩ := h
  cases h
  exact ⟨start, rfl⟩

/-! ## What a program keeps -/

variable {needs needs' : List Rule} {parts : α → List Rule} {parts' : β → List Rule}

/-- The program makes rules of rules that are built: of `needs`, and of those that
it has made. `parts` are the rules in what it ends with. -/
def Keeps (needs : List Rule) (build : Builder α) (parts : α → List Rule) : Prop :=
  ∀ (rules : List Rule) (start stop : RuleId) (made : α), Built rules start → needs ⊆ rules →
    build start = .ok (made, stop) →
    ∃ rules', rules ⊆ rules' ∧ Built rules' stop ∧ parts made ⊆ rules'

namespace Keeps

theorem pure {a : α} (h : parts a ⊆ needs) : Keeps needs (pure a : Builder α) parts := by
  intro rules start stop made hbuilt hneeds hbuild
  cases hbuild
  exact ⟨rules, List.Subset.refl _, hbuilt, List.Subset.trans h hneeds⟩

theorem bind (h : Keeps needs build parts) (h' : ∀ a, Keeps (parts a ++ needs) (next a) parts') :
    Keeps needs (build >>= next) parts' := by
  intro rules start stop b hbuilt hneeds hbuild
  obtain ⟨a, mid, hbuild, hnext⟩ := bind_eq_ok hbuild
  obtain ⟨rules₁, hsub₁, hbuilt₁, hparts₁⟩ := h rules start mid a hbuilt hneeds hbuild
  have hknown : parts a ++ needs ⊆ rules₁ :=
    List.append_subset.2 ⟨hparts₁, List.Subset.trans hneeds hsub₁⟩
  obtain ⟨rules₂, hsub₂, hbuilt₂, hparts₂⟩ := h' a rules₁ mid stop b hbuilt₁ hknown hnext
  exact ⟨rules₂, List.Subset.trans hsub₁ hsub₂, hbuilt₂, hparts₂⟩

/-- A constructor keeps what it is given. -/
theorem of {build : Builder Rule} {operands : List Rule} (h : Constructs build operands)
    (hneeds : operands ⊆ needs) : Keeps needs build ([·]) := by
  intro rules start stop rule hbuilt hsub hbuild
  exact ⟨rule :: rules, List.subset_cons_self _ _,
    .step hbuilt h (fun operand hmem => hsub (hneeds hmem)) hbuild,
    List.cons_subset.2 ⟨List.mem_cons_self, List.nil_subset _⟩⟩

/-- Constructors one after another keep what they are given. -/
theorem mapM {γ : Type} {make : γ → Builder Rule} (h : ∀ c, Constructs (make c) []) (cs : List γ) :
    Keeps needs (cs.mapM make) id := by
  induction cs generalizing needs with
  | nil => exact pure (List.nil_subset _)
  | cons c cs ih =>
    rw [List.mapM_cons]
    refine (of (h c) (List.nil_subset _)).bind fun rule => ih.bind fun rules => pure ?_
    simp

end Keeps

end Builder

end Packrat
