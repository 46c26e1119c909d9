import Packrat.Proofs.Boundaries
import Packrat.Proofs.Outline
import Packrat.Proofs.Tracing
import Packrat.Trace.Lines

/-!
# Traces in writing are balanced

A trace is written with a stack of its own, on which hidden applications stand beside the
ones that are shown, and with a depth that only the latter change. It stays in step with the
engine because a log is made of applications inside applications (`Trace.Within`): writing
what is inside one leaves stack and depth as they were, so that its end finds on top of the
stack what its beginning has put there.

- `Trace.line`, `Trace.indentation`: a line at some depth, and the blanks it begins with.
- `Style.Draws style depth events lines`: what is written of events, application by
  application.
- `Style.Writes style depth events lines`: a page gets these lines and is otherwise as it
  was. `Trace.Within.renders`: so it is with applications inside applications.
- `Style.Brackets`: lines that pair up like brackets, with everything inside a pair indented
  more deeply. `Style.Draws.brackets`: what is written is of this form.
- `Executes.mentions`: a run mentions rules of its graph only, so that they have labels.
- `Parser.run_drawn`: all this of the runs of a parser.
-/

namespace Packrat

namespace Trace

/-! ## Lines -/

/-- The line of `content` at `depth`. -/
def line (depth : Nat) (symbol content : String) : String :=
  String.join (List.replicate depth "  ") ++ symbol ++ " " ++ content

/-- The blanks that a line begins with. -/
def indentation (line : String) : Nat := (line.toList.takeWhile (· == ' ')).length

/-- What lines begin with that do not belong to a pair. -/
def remarkSymbols : List String := ["⬥", "❮❮❮", "↺", "⊘"]

/-- What the line begins with that ends an application. -/
def endSymbol : Option Nat → String
  | some _ => "●"
  | none => "○"

/-- A symbol is where the indentation ends. -/
def IsSymbol (symbol : String) : Prop := ∃ c rest, symbol.toList = c :: rest ∧ (c == ' ') = false

theorem isSymbol_enter : IsSymbol "▶" := ⟨'▶', [], by decide, by decide⟩

theorem isSymbol_endSymbol : ∀ stop, IsSymbol (endSymbol stop)
  | some _ => ⟨'●', [], by show "●".toList = _; decide, by decide⟩
  | none => ⟨'○', [], by show "○".toList = _; decide, by decide⟩

theorem isSymbol_of_mem {symbol : String} (h : symbol ∈ remarkSymbols) : IsSymbol symbol := by
  simp only [remarkSymbols, List.mem_cons, List.not_mem_nil, or_false] at h
  rcases h with rfl | rfl | rfl | rfl
  · exact ⟨'⬥', [], by decide, by decide⟩
  · exact ⟨'❮', ['❮', '❮'], by decide, by decide⟩
  · exact ⟨'↺', [], by decide, by decide⟩
  · exact ⟨'⊘', [], by decide, by decide⟩

/-- A line is indented by two blanks for each level. -/
theorem indentation_line {symbol : String} (h : IsSymbol symbol) (depth : Nat) (content : String) :
    indentation (line depth symbol content) = 2 * depth := by
  obtain ⟨c, rest, hsymbol, hc⟩ := h
  have hblanks : ∀ n (tail : List Char),
      (List.replicate n ' ' ++ c :: tail).takeWhile (· == ' ') = List.replicate n ' ' := by
    intro n tail
    induction n with
    | zero => exact List.takeWhile_cons_of_neg (by simp [hc])
    | succ n ih =>
      rw [List.replicate_succ, List.cons_append, List.takeWhile_cons_of_pos (by simp), ih]
  unfold indentation line
  rw [String.toList_append, String.toList_append, String.toList_append, Token.toList_blanks,
    hsymbol, List.append_assoc, List.append_assoc, List.cons_append, hblanks, List.length_replicate]

/-! ## What is written -/

/-- `lines` are what `style` writes of `events` at `depth`. An application that is shown is a
pair of lines with its label, and what is inside is written one level deeper; of one that is
hidden only what is inside is written. -/
inductive Style.Draws (style : Style) : Nat → List Event → List String → Prop where
  | nil {depth : Nat} : Draws style depth [] []
  | shown {depth pos : Nat} {rule : Rule} {stop : Option Nat} {note : String}
      {inner rest : List Event} {between below : List String} :
      style.shows rule = true → Draws style (depth + 1) inner between →
      Draws style depth rest below →
      Draws style depth (.enter rule pos :: (inner ++ .exit rule pos stop :: rest))
        (line depth "▶" (style.label rule ++ " @" ++ toString pos) ::
          (between ++ line depth (endSymbol stop) (style.label rule ++ " " ++ note) :: below))
  | hidden {depth pos : Nat} {rule : Rule} {stop : Option Nat} {inner rest : List Event}
      {between below : List String} :
      style.shows rule = false → Draws style depth inner between → Draws style depth rest below →
      Draws style depth (.enter rule pos :: (inner ++ .exit rule pos stop :: rest))
        (between ++ below)
  | unseen {depth : Nat} {event : Event} {rest : List Event} {below : List String} :
      event.isInner = true → Draws style depth rest below → Draws style depth (event :: rest) below
  | remark {depth : Nat} {event : Event} {symbol content : String} {rest : List Event}
      {below : List String} :
      event.isInner = true → symbol ∈ remarkSymbols → Draws style depth rest below →
      Draws style depth (event :: rest) (line depth symbol content :: below)

namespace Page

/-- The page with more lines. -/
def extend (page : Page) (lines : List String) : Page :=
  { page with lines := lines.reverse ++ page.lines }

theorem extend_append (page : Page) (lines lines' : List String) :
    (page.extend lines).extend lines' = page.extend (lines ++ lines') := by
  unfold extend
  rw [List.reverse_append, List.append_assoc]

theorem write_eq (page : Page) (symbol content : String) :
    page.write symbol content = page.extend [line page.depth symbol content] := rfl

end Page

namespace Style

variable {style : Style} {depth pos : Nat} {rule : Rule} {stop : Option Nat} {event : Event}
  {inner rest : List Event} {between below : List String}

/-- An event inside an application is written as a line, or not at all. -/
theorem add_inner (style : Style) (h : event.isInner = true) :
    (∀ page, style.add page event = .ok page) ∨
      ∃ symbol ∈ remarkSymbols, ∃ content, ∀ page,
        style.add page event = .ok (page.write symbol content) := by
  cases event with
  | enter | exit => cases h
  | resolved => exact .inl fun page => rfl
  | backtrack => exact .inr ⟨"❮❮❮", by decide, _, fun page => rfl⟩
  | token | memoHit | stalled =>
    by_cases hverbose : style.isVerbose = true
    · exact .inr ⟨_, by decide, _, fun page => congrArg Except.ok (if_pos hverbose)⟩
    · exact .inl fun page => congrArg Except.ok (if_neg hverbose)

/-- The end of a match that can be cut out of the source has a line. -/
theorem exists_exitLine (style : Style) (rule : Rule) (pos : Nat)
    (hslice : ∀ n, stop = some n → ∃ text, Text.slice? pos n style.source = some text) :
    ∃ note, ∀ page : Page, style.exitLine page rule pos stop =
      .ok (page.write (endSymbol stop) (style.label rule ++ " " ++ note)) := by
  cases stop with
  | none =>
    refine ⟨style.palette.red ++ ("@" ++ (toString pos ++ style.palette.reset)), fun page => ?_⟩
    simp only [exitLine, endSymbol, ← String.append_assoc]
    rfl
  | some stop =>
    by_cases hvery : style.verbosity = .veryVerbose
    · obtain ⟨text, htext⟩ : ∃ text, style.matchedText pos stop = .ok text := by
        obtain ⟨text, htext⟩ := hslice stop rfl
        unfold matchedText
        rw [htext]
        exact ⟨_, rfl⟩
      refine ⟨toString pos ++ (".." ++ (toString stop ++ text)), fun page => ?_⟩
      simp only [exitLine, if_pos hvery, htext, endSymbol, ← String.append_assoc]
      rfl
    · refine ⟨toString pos ++ (".." ++ (toString stop ++ "")), fun page => ?_⟩
      simp only [exitLine, if_neg hvery, endSymbol, ← String.append_assoc]
      rfl

/-- Wherever the style comes to `events` at `depth`, it writes `lines`, and leaves depth and
stack as they were. -/
def Writes (style : Style) (depth : Nat) (events : List Event) (lines : List String) : Prop :=
  ∀ page : Page, page.depth = depth → events.foldlM style.add page = .ok (page.extend lines)

namespace Writes

theorem nil (style : Style) (depth : Nat) : style.Writes depth [] [] := fun _ _ => rfl

theorem unseen (hadd : ∀ page, style.add page event = .ok page)
    (hrest : style.Writes depth rest below) : style.Writes depth (event :: rest) below := by
  intro page hdepth
  rw [List.foldlM_cons, hadd]
  exact hrest page hdepth

theorem remark {symbol content : String}
    (hadd : ∀ page, style.add page event = .ok (page.write symbol content))
    (hrest : style.Writes depth rest below) :
    style.Writes depth (event :: rest) (line depth symbol content :: below) := by
  rintro page rfl
  have hpage := hrest (page.extend [line page.depth symbol content]) rfl
  rw [Page.extend_append] at hpage
  rw [List.foldlM_cons, hadd]
  exact hpage

/-- The end of an application finds what its beginning has put on the stack. -/
theorem shown {note : String} (hshows : style.shows rule = true)
    (hexit : ∀ page : Page, style.exitLine page rule pos stop =
      .ok (page.write (endSymbol stop) (style.label rule ++ " " ++ note)))
    (hinner : style.Writes (depth + 1) inner between) (hrest : style.Writes depth rest below) :
    style.Writes depth (.enter rule pos :: (inner ++ .exit rule pos stop :: rest))
      (line depth "▶" (style.label rule ++ " @" ++ toString pos) ::
        (between ++ line depth (endSymbol stop) (style.label rule ++ " " ++ note) :: below)) := by
  intro page hdepth
  let first := line depth "▶" (style.label rule ++ " @" ++ toString pos)
  let last := line depth (endSymbol stop) (style.label rule ++ " " ++ note)
  let opened : Page := { page with shown := true :: page.shown, depth := depth + 1 }
  have henter : style.add page (.enter rule pos) = .ok (opened.extend [first]) := by
    show Except.ok (style.enter page rule pos) = _
    unfold enter
    rw [if_pos hshows, Page.write_eq, hdepth]
    subst hdepth
    rfl
  have hinside : inner.foldlM style.add (opened.extend [first]) =
      .ok (opened.extend (first :: between)) := by
    rw [hinner (opened.extend [first]) rfl, Page.extend_append]
    rfl
  have hleave : style.add (opened.extend (first :: between)) (.exit rule pos stop) =
      .ok (page.extend (first :: between ++ [last])) := by
    subst hdepth
    show style.exitLine (page.extend (first :: between)) rule pos stop = _
    rw [hexit, Page.write_eq, Page.extend_append]
    rfl
  rw [List.foldlM_cons, henter]
  show (inner ++ _).foldlM style.add _ = _
  rw [List.foldlM_append, hinside]
  show (_ :: rest).foldlM style.add _ = _
  rw [List.foldlM_cons, hleave]
  show rest.foldlM style.add _ = _
  rw [hrest (page.extend (first :: between ++ [last])) hdepth, Page.extend_append]
  simp [first, last]

theorem hidden (hshows : style.shows rule = false) (hinner : style.Writes depth inner between)
    (hrest : style.Writes depth rest below) :
    style.Writes depth (.enter rule pos :: (inner ++ .exit rule pos stop :: rest))
      (between ++ below) := by
  intro page hdepth
  let opened : Page := { page with shown := false :: page.shown }
  have henter : style.add page (.enter rule pos) = .ok opened := by
    show Except.ok (style.enter page rule pos) = _
    unfold enter
    rw [if_neg (by rw [hshows]; exact Bool.false_ne_true)]
  have hleave : style.add (opened.extend between) (.exit rule pos stop) =
      .ok (page.extend between) := rfl
  rw [List.foldlM_cons, henter]
  show (inner ++ _).foldlM style.add _ = _
  rw [List.foldlM_append, hinner opened hdepth]
  show (Event.exit rule pos stop :: rest).foldlM style.add (opened.extend between) = _
  rw [List.foldlM_cons, hleave]
  show rest.foldlM style.add _ = _
  rw [hrest (page.extend between) hdepth, Page.extend_append]

end Writes

/-- The style writes `events` at `depth`, and draws them so. -/
def Renders (style : Style) (depth : Nat) (events : List Event) : Prop :=
  ∃ lines, style.Draws depth events lines ∧ style.Writes depth events lines

namespace Renders

theorem nil (style : Style) (depth : Nat) : style.Renders depth [] :=
  ⟨[], .nil, .nil style depth⟩

theorem remark (h : event.isInner = true) (hrest : style.Renders depth rest) :
    style.Renders depth (event :: rest) := by
  obtain ⟨below, hbelow, hwritten⟩ := hrest
  rcases style.add_inner h with hadd | ⟨symbol, hsymbol, content, hadd⟩
  · exact ⟨below, .unseen h hbelow, .unseen hadd hwritten⟩
  · exact ⟨_, .remark h hsymbol hbelow, .remark hadd hwritten⟩

theorem application (rule : Rule) (pos : Nat)
    (hslice : ∀ n, stop = some n → ∃ text, Text.slice? pos n style.source = some text)
    (hinner : ∀ depth, style.Renders depth inner) (hrest : style.Renders depth rest) :
    style.Renders depth (.enter rule pos :: (inner ++ .exit rule pos stop :: rest)) := by
  obtain ⟨below, hbelow, hwritten⟩ := hrest
  cases hshows : style.shows rule with
  | true =>
    obtain ⟨note, hexit⟩ := style.exists_exitLine rule pos hslice
    obtain ⟨between, hbetween, hwritten'⟩ := hinner (depth + 1)
    exact ⟨_, .shown hshows hbetween hbelow, .shown hshows hexit hwritten' hwritten⟩
  | false =>
    obtain ⟨between, hbetween, hwritten'⟩ := hinner depth
    exact ⟨_, .hidden hshows hbetween hbelow, .hidden hshows hwritten' hwritten⟩

end Renders

end Style

/-- **What happens inside an application is written between its lines.** -/
theorem Within.renders {input : String} {owner : Option Rule} {start : Nat} {events : List Event}
    (h : Within input owner start events) (style : Style)
    (hslices : ∀ rule pos stop, .exit rule pos (some stop) ∈ events →
      ∃ text, Text.slice? pos stop style.source = some text) (depth : Nat) :
    style.Renders depth events := by
  induction h generalizing depth with
  | nil => exact .nil style depth
  | @applied _ _ pos rule stop inner rest _ _ _ _ ihinner ihrest =>
    simp only [List.mem_cons, List.mem_append] at hslices
    refine .application rule pos (fun n hstop => hslices rule pos n ?_)
      (ihinner fun rule' pos' n hmem => hslices rule' pos' n ?_)
      (ihrest (fun rule' pos' n hmem => hslices rule' pos' n ?_) depth)
    · exact .inr (.inr (.inl (hstop ▸ rfl)))
    · exact .inr (.inl hmem)
    · exact .inr (.inr (.inr hmem))
  | @recalled _ _ pos rule stop rest _ _ _ ihrest =>
    simp only [List.mem_cons] at hslices
    have hinner (depth : Nat) : style.Renders depth [.memoHit rule pos stop] :=
      .remark rfl (.nil style depth)
    refine Style.Renders.application rule pos (fun n hstop => hslices rule pos n ?_) hinner
      (ihrest (fun rule' pos' n hmem => hslices rule' pos' n ?_) depth)
    · exact .inr (.inr (.inl (hstop ▸ rfl)))
    · exact .inr (.inr (.inr hmem))
  | token _ _ ih | backtrack _ _ _ ih | stalled _ _ ih =>
    exact .remark rfl
      (ih (fun rule pos n hmem => hslices rule pos n (List.mem_cons_of_mem _ hmem)) depth)

/-- What is not shown is not written. -/
theorem foldlM_add_shown (style : Style) (events : List Event) (page : Page) :
    (shown events).foldlM style.add page = events.foldlM style.add page := by
  induction events generalizing page with
  | nil => rfl
  | cons event rest ih =>
    cases event with
    | resolved => exact ih page
    | enter | exit | token | backtrack | memoHit | stalled =>
      show (_ :: shown rest).foldlM style.add page = _
      rw [List.foldlM_cons, List.foldlM_cons]
      exact bind_congr ih

/-! ## Pairs of lines -/

/-- Lines that pair up like brackets. Both lines of a pair are at the same depth and have the
label of the same rule, and all lines between them are indented more deeply. -/
inductive Style.Brackets (style : Style) : List String → Prop where
  | nil : Brackets style []
  | remark {depth : Nat} {symbol content : String} {below : List String} :
      symbol ∈ remarkSymbols → Brackets style below →
      Brackets style (line depth symbol content :: below)
  | pair {depth pos : Nat} {rule : Rule} {stop : Option Nat} {first last note : String}
      {between below : List String} :
      first = line depth "▶" (style.label rule ++ " @" ++ toString pos) →
      last = line depth (endSymbol stop) (style.label rule ++ " " ++ note) →
      indentation first = indentation last →
      (∀ inside ∈ between, indentation first < indentation inside) →
      Brackets style between → Brackets style below →
      Brackets style (first :: (between ++ last :: below))

namespace Style

variable {style : Style} {depth : Nat} {events : List Event} {lines lines' : List String}

/-- No line is drawn at a lesser depth. -/
theorem Draws.le_indentation (h : style.Draws depth events lines) :
    ∀ drawn ∈ lines, 2 * depth ≤ indentation drawn := by
  induction h with
  | nil => exact fun drawn hmem => nomatch hmem
  | @shown depth _ _ stop _ _ _ between below _ _ _ ihbetween ihbelow =>
    intro drawn hmem
    rcases List.mem_cons.1 hmem with rfl | hmem
    · exact Nat.le_of_eq (indentation_line isSymbol_enter _ _).symm
    · rcases List.mem_append.1 hmem with hmem | hmem
      · exact Nat.le_trans (Nat.mul_le_mul_left 2 (Nat.le_succ depth)) (ihbetween drawn hmem)
      · rcases List.mem_cons.1 hmem with rfl | hmem
        · exact Nat.le_of_eq (indentation_line (isSymbol_endSymbol stop) _ _).symm
        · exact ihbelow drawn hmem
  | hidden _ _ _ ihbetween ihbelow =>
    exact fun drawn hmem => (List.mem_append.1 hmem).elim (ihbetween drawn) (ihbelow drawn)
  | unseen _ _ ih => exact ih
  | remark _ hsymbol _ ih =>
    intro drawn hmem
    rcases List.mem_cons.1 hmem with rfl | hmem
    · exact Nat.le_of_eq (indentation_line (isSymbol_of_mem hsymbol) _ _).symm
    · exact ih drawn hmem

theorem Brackets.append (h : style.Brackets lines) (h' : style.Brackets lines') :
    style.Brackets (lines ++ lines') := by
  induction h with
  | nil => exact h'
  | remark hsymbol _ ih => exact .remark hsymbol ih
  | pair hfirst hlast hsame hdeeper hbetween _ _ ih =>
    have hpair := Brackets.pair hfirst hlast hsame hdeeper hbetween ih
    simpa using hpair

/-- **What is drawn pairs up.** -/
theorem Draws.brackets (h : style.Draws depth events lines) : style.Brackets lines := by
  induction h with
  | nil => exact .nil
  | @shown depth _ _ stop _ _ _ between _ _ hbetween _ ihbetween ihbelow =>
    refine .pair rfl rfl ?_ (fun inside hmem => ?_) ihbetween ihbelow
    · rw [indentation_line isSymbol_enter, indentation_line (isSymbol_endSymbol stop)]
    · have hle := hbetween.le_indentation inside hmem
      rw [indentation_line isSymbol_enter]
      omega
  | hidden _ _ _ ihbetween ihbelow => exact ihbetween.append ihbelow
  | unseen _ _ ih => exact ih
  | remark _ hsymbol _ ih => exact .remark hsymbol ih

end Style

end Trace

/-! ## Labels -/

/-- The rule whose label is on the line of the event. -/
def Event.labelled? : Event → Option Rule
  | .enter rule _ | .exit rule _ _ | .memoHit rule _ _ | .stalled rule _ => some rule
  | .token _ | .backtrack .. | .resolved .. => none

/-- A line asks for recursive rules in the notation of the rule that it is labelled with. -/
theorem Trace.Style.mem_consulted {style : Trace.Style} {event : Event} {ref : RuleId × String}
    (h : ref ∈ style.consulted event) :
    ∃ rule, event.labelled? = some rule ∧ ref ∈ rule.consulted style.scope := by
  cases event with
  | token | backtrack | resolved => cases h
  | enter rule | exit rule | memoHit rule | stalled rule =>
    unfold consulted at h
    dsimp only at h
    split at h
    · exact ⟨rule, rfl, h⟩
    · cases h

namespace Context

variable {limits : Limits} {scope : Scope} {root rule : Rule} {pos : Nat} {cx cx₁ cx' : Context}
  {st after : ParseState} {matched : Bool}

/-- All rules that the log is about are below `root`. -/
def Mentions (scope : Scope) (root : Rule) (cx : Context) : Prop :=
  ∀ event ∈ cx.trace, ∀ rule, event.labelled? = some rule → root.Reaches scope rule

namespace Mentions

theorem extend {events : List Event} (h : cx.Mentions scope root)
    (htrace : cx'.trace = cx.trace ++ events)
    (hevents : ∀ event ∈ events, ∀ rule, event.labelled? = some rule → root.Reaches scope rule) :
    cx'.Mentions scope root := by
  intro event hmem
  rw [htrace] at hmem
  exact (List.mem_append.1 hmem).elim (h event) (hevents event)

theorem record {event : Event} (h : cx.Mentions scope root)
    (hevent : ∀ rule, event.labelled? = some rule → root.Reaches scope rule) :
    (cx.record event).Mentions scope root :=
  h.extend (trace_record cx event) fun _ hmem => List.mem_singleton.1 hmem ▸ hevent

theorem rewound (h : cx.Mentions scope root) (source target : Nat) :
    (cx.rewound source target).Mentions scope root := by
  rcases rewound_eq source target cx with heq | heq
  · rwa [heq]
  · rw [heq]
    exact h.record fun rule hlabel => nomatch hlabel

theorem miss (h : cx.Mentions scope root) (hmiss : cx.miss scope rule pos = some cx') :
    cx'.Mentions scope root := by
  obtain ⟨events, hevents, rfl⟩ := miss_eq_some hmiss
  refine h.extend List.reverse_append fun event hmem rule hlabel => ?_
  obtain ⟨id, target, rfl⟩ := hevents event (List.mem_reverse.1 hmem)
  cases hlabel

theorem lookahead (h : cx.Mentions scope root) (source target : Nat) :
    (cx.closeLookahead.rewound source target).Mentions scope root := by
  have hclosed : cx.closeLookahead.Mentions scope root := h
  exact hclosed.rewound source target

theorem entered (h : cx.Mentions scope root) (hrule : root.Reaches scope rule)
    (henter : cx.enter limits rule pos = (true, cx₁)) : cx₁.Mentions scope root := by
  refine h.extend (trace_enter henter) fun event hmem rule' hlabel => ?_
  cases List.mem_singleton.1 hmem
  cases hlabel
  exact hrule

theorem refused (h : cx.Mentions scope root)
    (henter : cx.enter limits rule pos = (false, cx₁)) : cx₁.Mentions scope root := by
  intro event hmem
  rw [trace_refused henter] at hmem
  exact h event hmem

theorem leave (h : cx.Mentions scope root) (hrule : root.Reaches scope rule) :
    (cx.leave scope rule st matched after).Mentions scope root := by
  refine h.extend trace_leave fun event hmem rule' hlabel => ?_
  cases List.mem_singleton.1 hmem
  cases hlabel
  exact hrule

theorem leaveRecalled {entry : MemoEntry} (h : cx.Mentions scope root)
    (hrule : root.Reaches scope rule) : (cx.leaveRecalled rule st entry).Mentions scope root := by
  have hrecorded : (cx.record (.memoHit rule st.position entry.stop?)).Mentions scope root := by
    refine h.record fun rule' hlabel => ?_
    cases hlabel
    exact hrule
  refine hrecorded.extend List.reverse_cons fun event hmem rule' hlabel => ?_
  cases List.mem_singleton.1 hmem
  cases hlabel
  exact hrule

end Mentions

end Context

open Context

/-- The rule of a task's own that is below `root`. -/
def Task.Owned (scope : Scope) (root : Rule) : Task → Prop
  | .repetition rule _ _ => root.Reaches scope rule
  | _ => True

/-- **A run mentions rules of its graph only.** -/
theorem Executes.mentions {setting : Setting} {root : Rule} {task : Task} {st after : ParseState}
    {cx cx' : Context} {matched : Bool} (h : Executes setting task st cx matched after cx')
    (hbelow : task.Below setting.scope root) (howned : task.Owned setting.scope root)
    (hmentions : cx.Mentions setting.scope root) : cx'.Mentions setting.scope root := by
  induction h with
  | refused henter => exact hmentions.refused henter
  | recalled henter => exact (hmentions.entered hbelow henter).leaveRecalled hbelow
  | evaluated henter _ _ ih =>
    exact (ih hbelow trivial (hmentions.entered hbelow henter)).leave hbelow
  | read | sequence_nil | alternatives_nil => exact hmentions
  | unread _ _ hmiss => exact hmentions.miss hmiss
  | seq _ ih | choice _ ih => exact ih (fun _ hmem => hbelow.operand hmem) trivial hmentions
  | notAhead_failed _ hmiss ih | ahead_failed _ hmiss ih =>
    have hprobe := ih (hbelow.operand (List.mem_singleton_self _)) trivial hmentions
    exact (Mentions.lookahead hprobe _ _).miss hmiss
  | notAhead_matched _ ih | ahead_matched _ ih =>
    have hprobe := ih (hbelow.operand (List.mem_singleton_self _)) trivial hmentions
    exact Mentions.lookahead hprobe _ _
  | zeroOrMore _ ih | oneOrMore _ ih =>
    exact ih (hbelow.operand (List.mem_singleton_self _)) hbelow hmentions
  | opt_taken _ _ ih | opt_left _ ih | node_failed _ ih =>
    exact ih (hbelow.operand (List.mem_singleton_self _)) trivial hmentions
  | node_matched _ _ _ _ ih =>
    exact (ih (hbelow.operand (List.mem_singleton_self _)) trivial hmentions).record
      fun rule hlabel => nomatch hlabel
  | recursive htarget _ ih =>
    exact ih (hbelow.target htarget) trivial (hmentions.record fun rule hlabel => nomatch hlabel)
  | sequence_failed _ ih =>
    exact (ih (hbelow _ List.mem_cons_self) trivial hmentions).rewound _ _
  | sequence_next _ _ ih ih' | alternatives_next _ _ _ ih ih' =>
    exact ih' (fun rule hmem => hbelow rule (List.mem_cons_of_mem _ hmem)) trivial
      (ih (hbelow _ List.mem_cons_self) trivial hmentions)
  | alternatives_first _ _ ih | alternatives_aborted _ _ ih =>
    exact ih (hbelow _ List.mem_cons_self) trivial hmentions
  | repetition_ended _ ih => exact ih hbelow trivial hmentions
  | repetition_next _ _ _ _ ih ih' => exact ih' hbelow howned (ih hbelow trivial hmentions)
  | repetition_dropped _ _ ih | repetition_kept _ _ _ ih =>
    refine (ih hbelow trivial hmentions).record fun rule hlabel => ?_
    cases hlabel
    exact howned

/-! ## Runs of a parser -/

namespace Parser

/-- **A trace in writing is balanced.** The log of a run is written to its end, whatever is
shown: what has matched can be cut out of the input, and the recursive rules in labels stand
for rules. Afterwards no application is open and the indentation is back to none. The lines
are those of the applications that are shown, one inside the other; they pair up like
brackets, with everything inside a pair indented more deeply. -/
theorem run_drawn (p : Parser) (style : Trace.Style) (hresolves : style.scope.Resolves p.root)
    (complete : Bool) :
    ∃ lines,
      Trace.page style (p.run style.scope style.source complete).events =
          .ok ⟨lines.reverse, [], 0⟩ ∧
        Trace.lines style (p.run style.scope style.source complete).events = .ok lines ∧
        style.Draws 0 (Trace.shown (p.run style.scope style.source complete).events) lines ∧
        style.Brackets lines ∧
        ∀ event ∈ (p.run style.scope style.source complete).events,
          ∀ id key, (id, key) ∈ style.consulted event →
            ∃ target, style.scope.target id key = some target := by
  obtain ⟨matched, st, cx, happly, hexec⟩ := p.exists_run hresolves style.source
  have hevents : (p.run style.scope style.source complete).events = cx.trace := by
    rw [p.run_eq_of_apply happly]
    rfl
  have hlaid : (Context.start p.memoize).MemoLaid style.source := .start p.memoize style.source
  have hplaced : cx.Placed style.source :=
    hexec.placed trivial hlaid (.start p.memoize style.source)
  have hmentions : cx.Mentions style.scope p.root :=
    hexec.mentions .refl trivial fun event hmem => nomatch hmem
  obtain ⟨shown, hshown, hwithin⟩ : Shows style.source none 0 (.start p.memoize) cx :=
    hexec.within trivial hlaid (Nat.zero_le _)
  have hsame : shown = Trace.shown cx.trace := hshown.symm
  obtain ⟨lines, hdraws, hwrites⟩ := hwithin.renders style (fun rule pos stop hmem =>
    hplaced.matched (List.mem_of_mem_filter (hsame ▸ hmem))) 0
  have hpage : Trace.page style cx.trace = .ok ⟨lines.reverse, [], 0⟩ := by
    have hwritten := hwrites .blank rfl
    rw [hsame, Trace.foldlM_add_shown] at hwritten
    show cx.trace.foldlM style.add .blank = _
    rw [hwritten]
    show Except.ok _ = _
    simp [Trace.Page.extend, Trace.Page.blank]
  rw [hevents]
  refine ⟨lines, hpage, ?_, hsame ▸ hdraws, hdraws.brackets, fun event hmem id key href => ?_⟩
  · unfold Trace.lines
    rw [hpage]
    exact congrArg Except.ok (List.reverse_reverse lines)
  · obtain ⟨rule, hlabel, hrule⟩ := Trace.Style.mem_consulted href
    exact hresolves id key
      ((hmentions event hmem rule hlabel).trans (Rule.reaches_of_mem_consulted rule hrule))

/-- With all there is to show, the run over a quotation that is not closed is written on
forty-six lines, and the pairs are closed although it fails. -/
theorem run_drawn_quotation :
    ∃ lines,
      Trace.page ⟨Quotation.scope, "«é", .veryVerbose, .ansi⟩
          ((ofRule Quotation.text).run Quotation.scope "«é" true).events =
          .ok ⟨lines.reverse, [], 0⟩ ∧
        Trace.Style.Brackets ⟨Quotation.scope, "«é", .veryVerbose, .ansi⟩ lines ∧
        lines.length = 46 := by
  obtain ⟨lines, hpage, hlines, -, hbrackets, -⟩ := run_drawn (ofRule Quotation.text)
    ⟨Quotation.scope, "«é", .veryVerbose, .ansi⟩ Quotation.resolves true
  have hlength : (Trace.lines ⟨Quotation.scope, "«é", .veryVerbose, .ansi⟩
      ((ofRule Quotation.text).run Quotation.scope "«é" true).events).toOption.map List.length =
        some 46 := by decide +kernel
  rw [hlines] at hlength
  exact ⟨lines, hpage, hbrackets, Option.some.inj hlength⟩

end Parser

end Packrat
