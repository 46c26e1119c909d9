import Packrat.Proofs.Completion
import Packrat.Proofs.Diagnosis
import Packrat.Report.Failure

/-!
# Places that a parse reports

A failed parse points at an offset of its input, and a log has offsets where matches begin
and end. Whoever draws them cuts the input there. This is safe because all of these offsets
are positions of cursors, and a cursor only stands between two characters. That they come
from attempts that were dropped, or from a remembered outcome, changes nothing.

- `Context.Placed input cx`: the furthest failure and the matches that `cx` has kept are at
  character boundaries of `input`.
- `Executes.placed`: executions keep it.
- `ParseError.Marks source offset`: what is marked at an offset of `source` is a character or
  the end. `ParseError.marks_of_isBoundary`: so it is at every boundary.
- `Parser.run_failure_drawable`: **every failed parse can be drawn on its input.**
-/

namespace Packrat

/-! ## Slices between boundaries -/

/-- There is text between two boundaries. -/
theorem Text.exists_slice? {start stop : Nat} {s : String} (hle : start ≤ stop)
    (hstart : isBoundary start s = true) (hstop : isBoundary stop s = true) :
    ∃ text, slice? start stop s = some text := by
  obtain ⟨p, hp⟩ := Option.isSome_iff_exists.1 hstart
  obtain ⟨q, hq⟩ := Option.isSome_iff_exists.1 hstop
  refine ⟨s.extract p q, ?_⟩
  unfold slice?
  rw [hp, hq]
  exact if_pos hle

/-- What has been matched can be cut out of the input. -/
theorem Task.Contract.exists_slice? {task : Task} {st after : ParseState}
    (h : task.Contract st true after) :
    ∃ text, Text.slice? st.position after.position st.input = some text := by
  obtain ⟨tokens, hext⟩ := h.of_matched rfl
  exact Text.exists_slice? hext.position_le st.isBoundary_position
    (hext.input_eq ▸ after.isBoundary_position)

/-! ## What contexts keep -/

namespace Context

variable {setting : Setting} {limits : Limits} {scope : Scope} {rule : Rule} {pos : Nat}
  {input : String} {cx cx₁ cx' : Context} {st after : ParseState} {matched : Bool}

/-- The places that the context has kept are character boundaries of `input`: that of the
furthest failure, and both ends of each match. -/
structure Placed (input : String) (cx : Context) : Prop where
  furthest : Text.isBoundary cx.furthest input = true
  matched {rule : Rule} {pos stop : Nat} :
    .exit rule pos (some stop) ∈ cx.trace → ∃ text, Text.slice? pos stop input = some text

namespace Placed

theorem start (memoize : Bool) (input : String) : (Context.start memoize).Placed input :=
  ⟨Text.isBoundary_zero input, fun hmem => nomatch hmem⟩

/-- What a step adds to the log is all that has to be looked at, if it leaves the furthest
failure where it is. -/
theorem extend {events : List Event} (h : cx.Placed input) (hfailure : cx'.failure = cx.failure)
    (htrace : cx'.trace = cx.trace ++ events)
    (hevents : ∀ rule pos stop, .exit rule pos (some stop) ∈ events →
      ∃ text, Text.slice? pos stop input = some text) : cx'.Placed input where
  furthest := by
    have hfurthest : cx'.furthest = cx.furthest := congrArg Failure.furthest hfailure
    rw [hfurthest]
    exact h.furthest
  matched hmem := by
    rw [htrace] at hmem
    exact (List.mem_append.1 hmem).elim h.matched (hevents _ _ _)

theorem record {event : Event} (h : cx.Placed input) (hinner : event.isInner = true) :
    (cx.record event).Placed input := by
  refine h.extend rfl (trace_record cx event) fun rule pos stop hmem => ?_
  rw [← List.mem_singleton.1 hmem] at hinner
  cases hinner

theorem rewound (h : cx.Placed input) (source target : Nat) :
    (cx.rewound source target).Placed input := by
  rcases rewound_eq source target cx with heq | heq
  · rwa [heq]
  · rw [heq]
    exact h.record rfl

theorem lookahead (h : cx.Placed input) (source target : Nat) :
    (cx.closeLookahead.rewound source target).Placed input := by
  have hclosed : cx.closeLookahead.Placed input := ⟨h.furthest, h.matched⟩
  exact hclosed.rewound source target

/-- The furthest failure stays where it is, or moves to where the rule has failed. -/
theorem miss (h : cx.Placed input) (hpos : Text.isBoundary pos input = true)
    (hmiss : cx.miss scope rule pos = some cx') : cx'.Placed input where
  furthest := by
    have hfurthest : cx'.furthest = cx.furthest ∨ cx'.furthest = pos := by
      have hnoted := congrArg Failure.furthest (failure_miss hmiss)
      split at hnoted
      · rw [Failure.furthest_note] at hnoted
        show cx'.failure.furthest = cx.failure.furthest ∨ cx'.failure.furthest = pos
        omega
      · exact .inl hnoted
    rcases hfurthest with heq | heq
    · rw [heq]
      exact h.furthest
    · rwa [heq]
  matched hmem := by
    obtain ⟨events, hevents, htrace, -⟩ := Remarks.miss hmiss
    rw [htrace] at hmem
    rcases List.mem_append.1 hmem with hmem | hmem
    · exact h.matched hmem
    · cases hevents _ hmem

theorem entered (h : cx.Placed input) (henter : cx.enter limits rule pos = (true, cx₁)) :
    cx₁.Placed input := by
  have htrace := trace_enter henter
  obtain ⟨-, -, rfl⟩ := enter_eq_true_iff.1 henter
  refine h.extend rfl htrace fun rule' pos' stop hmem => ?_
  cases List.mem_singleton.1 hmem

theorem refused (h : cx.Placed input) (henter : cx.enter limits rule pos = (false, cx₁)) :
    cx₁.Placed input := by
  rcases enter_eq_false_iff.1 henter with ⟨-, -, rfl⟩ | ⟨-, -, -, rfl⟩
  · exact h
  · exact ⟨h.furthest, h.matched⟩

theorem leave {task : Task} (h : cx.Placed input) (hinput : st.input = input)
    (hcontract : task.Contract st matched after) :
    (cx.leave scope rule st matched after).Placed input := by
  refine h.extend failure_leave trace_leave fun rule' pos stop hmem => ?_
  cases matched with
  | false => cases List.mem_singleton.1 hmem
  | true =>
    cases List.mem_singleton.1 hmem
    exact hinput ▸ hcontract.exists_slice?

theorem leaveRecalled {entry : MemoEntry} {task : Task} (h : cx.Placed input)
    (hinput : st.input = input) (hreplay : Replays st entry matched after)
    (hcontract : task.Contract st matched after) :
    (cx.leaveRecalled rule st entry).Placed input := by
  refine h.extend rfl trace_leaveRecalled fun rule' pos stop hmem => ?_
  rw [← hreplay.stop?_eq] at hmem
  -- the outcome is logged twice, and the match is the second of these events
  rcases List.mem_cons.1 hmem with heq | hmem
  · cases heq
  · cases matched with
    | false => cases List.mem_singleton.1 hmem
    | true =>
      cases List.mem_singleton.1 hmem
      exact hinput ▸ hcontract.exists_slice?

end Placed

end Context

open Context

/-- **Executions keep to character boundaries.** -/
theorem Executes.placed {setting : Setting} {task : Task} {st after : ParseState}
    {cx cx' : Context} {matched : Bool} (h : Executes setting task st cx matched after cx')
    (hposed : task.WellPosed) (hlaid : cx.MemoLaid st.input) (hplaced : cx.Placed st.input) :
    cx'.Placed st.input := by
  induction h with
  | refused henter => exact hplaced.refused henter
  | recalled henter hentry hreplay =>
    have hcontract := (Executes.recalled henter hentry hreplay).contract trivial hlaid
    exact (hplaced.entered henter).leaveRecalled rfl hreplay hcontract.2
  | evaluated henter _ hbody ih =>
    have hlaid₁ := hlaid.entered henter
    have hplaced₁ := ih trivial hlaid₁ (hplaced.entered henter)
    exact hplaced₁.leave rfl (hbody.contract trivial hlaid₁).2
  | read | sequence_nil | alternatives_nil => exact hplaced
  | @unread _ st _ _ _ _ hmiss => exact hplaced.miss st.isBoundary_position hmiss
  | seq _ ih | choice _ ih | opt_taken _ _ ih | opt_left _ ih | node_failed _ ih
  | alternatives_first _ _ ih | alternatives_aborted _ _ ih | repetition_ended _ ih =>
    exact ih trivial hlaid hplaced
  | zeroOrMore _ ih => exact ih (Nat.zero_le 1) hlaid hplaced
  | oneOrMore _ ih => exact ih (Nat.le_refl 1) hlaid hplaced
  | @notAhead_failed _ _ st _ _ _ _ _ hmiss ih | @ahead_failed _ _ st _ _ _ _ _ hmiss ih =>
    have hprobe := ih trivial hlaid ⟨hplaced.furthest, hplaced.matched⟩
    exact (hprobe.lookahead _ _).miss st.isBoundary_position hmiss
  | notAhead_matched _ ih | ahead_matched _ ih =>
    have hprobe := ih trivial hlaid ⟨hplaced.furthest, hplaced.matched⟩
    exact hprobe.lookahead _ _
  | node_matched _ _ _ _ ih | repetition_dropped _ _ ih | repetition_kept _ _ _ ih =>
    exact (ih trivial hlaid hplaced).record rfl
  | recursive _ _ ih => exact ih trivial hlaid (hplaced.record rfl)
  | sequence_failed _ ih => exact (ih trivial hlaid hplaced).rewound _ _
  | sequence_next hhead _ ih ih' =>
    obtain ⟨hlaid₁, hcontract⟩ := hhead.contract trivial hlaid
    obtain ⟨tokens, hext⟩ := hcontract.of_matched rfl
    have hrest := ih' trivial (hext.input_eq ▸ hlaid₁) (hext.input_eq ▸ ih trivial hlaid hplaced)
    exact hext.input_eq ▸ hrest
  | alternatives_next hhead _ _ ih ih' =>
    exact ih' trivial (hhead.contract trivial hlaid).1 (ih trivial hlaid hplaced)
  | @repetition_next _ _ required _ _ _ _ _ _ _ hhead _ _ _ ih ih' =>
    obtain ⟨hlaid₁, hcontract⟩ := hhead.contract trivial hlaid
    obtain ⟨tokens, hext⟩ := hcontract.of_matched rfl
    have hposed' : required - 1 ≤ 1 := Nat.le_trans (Nat.sub_le ..) hposed
    have hrest := ih' hposed' (hext.input_eq ▸ hlaid₁) (hext.input_eq ▸ ih trivial hlaid hplaced)
    exact hext.input_eq ▸ hrest

/-! ## Drawings of failed parses -/

namespace ParseError

/-- At a character all of it is marked. -/
theorem markedRange_of_char {source : String} {before after : List Char} {c : Char}
    (hsource : source.toList = before ++ c :: after) :
    markedRange source (Text.utf8Length before) =
      .ok ⟨Text.utf8Length before, Text.utf8Length before + c.utf8Size⟩ := by
  have hle : Text.utf8Length before ≤ source.utf8ByteSize := by
    rw [← Text.utf8Length_toList, hsource, Text.utf8Length_append]
    exact Nat.le_add_right _ _
  unfold markedRange
  dsimp only
  rw [Nat.min_eq_left hle, hsource, Text.dropBytes?_append]

/-- At the end of the text nothing is marked. -/
theorem markedRange_end (source : String) :
    markedRange source source.utf8ByteSize = .ok ⟨source.utf8ByteSize, source.utf8ByteSize⟩ := by
  have hrest : Text.dropBytes? source.utf8ByteSize source.toList = some [] :=
    Text.dropBytes?_eq_some_iff.2
      ⟨source.toList, (List.append_nil _).symm, Text.utf8Length_toList source⟩
  unfold markedRange
  dsimp only
  rw [Nat.min_self, hrest]

/-- The range that is marked at `offset` is that of the one character there, or the empty one
at the end of the text. -/
def Marks (source : String) (offset : Nat) : Prop :=
  (∃ before c after, source.toList = before ++ c :: after ∧ Text.utf8Length before = offset ∧
      markedRange source offset = .ok ⟨offset, offset + c.utf8Size⟩) ∨
    offset = source.utf8ByteSize ∧ markedRange source offset = .ok ⟨offset, offset⟩

/-- Every boundary can be marked. -/
theorem marks_of_isBoundary {source : String} {offset : Nat}
    (h : Text.isBoundary offset source = true) : Marks source offset := by
  obtain ⟨rest, hrest⟩ := Text.isBoundary_iff_dropBytes?.1 h
  obtain ⟨before, hsource, rfl⟩ := Text.dropBytes?_eq_some_iff.1 hrest
  cases rest with
  | nil =>
    have hend : Text.utf8Length before = source.utf8ByteSize := by
      rw [← Text.utf8Length_toList, hsource, List.append_nil]
    rw [hend]
    exact .inr ⟨rfl, markedRange_end source⟩
  | cons c after => exact .inl ⟨before, c, after, hsource, rfl, markedRange_of_char hsource⟩

/-- What marks a range is drawn. -/
theorem Marks.exists_render {e : ParseError} {source : String} {failure : Failure}
    (h : Marks source failure.furthest) (hfailure : e.failure? = some failure)
    (path : Option String) (colored : Bool) :
    ∃ drawing, e.render source path colored = .ok drawing := by
  have hrange : ∃ range, markedRange source failure.furthest = .ok range := by
    rcases h with ⟨_, _, _, -, -, hrange⟩ | ⟨-, hrange⟩
    · exact ⟨_, hrange⟩
    · exact ⟨_, hrange⟩
  obtain ⟨range, hrange⟩ := hrange
  unfold render
  rw [hfailure]
  dsimp only
  rw [hrange]
  exact ⟨_, rfl⟩

end ParseError

namespace Parser

/-- What a verdict reports of a context is at character boundaries, at no less than what was
consumed. -/
theorem placed_of_verdict {p : Parser} {scope : Scope} {complete matched : Bool}
    {st : ParseState} {cx : Context} {error : ParseError} {failure : Failure}
    (hplaced : cx.Placed st.input) (hquiet : cx.quiet = 0)
    (hverdict : p.verdict scope complete matched st cx = .ok (.error error))
    (hfailure : error.failure? = some failure) :
    Text.isBoundary failure.furthest st.input = true ∧
      ∀ consumed, error = .incomplete consumed failure → consumed ≤ failure.furthest := by
  unfold verdict at hverdict
  split at hverdict
  · cases hverdict
    cases hfailure
  · split at hverdict
    · cases hverdict
      cases hfailure
      exact ⟨hplaced.furthest, fun consumed heq => nomatch heq⟩
    · split at hverdict
      · -- the end of input was wanted where the match has stopped
        cases hverdict
        cases hfailure
        rw [Context.failure_expect, if_pos hquiet, Failure.furthest_note]
        refine ⟨?_, fun consumed heq => ?_⟩
        · rcases Nat.le_total cx.furthest st.position with hle | hle
          · show Text.isBoundary (max cx.furthest st.position) st.input = true
            rw [Nat.max_eq_right hle]
            exact st.isBoundary_position
          · show Text.isBoundary (max cx.furthest st.position) st.input = true
            rw [Nat.max_eq_left hle]
            exact hplaced.furthest
        · cases heq
          exact Nat.le_max_right _ _
      · cases hroot : rootToken scope p.root st with
        | ok | error =>
          rw [hroot] at hverdict
          cases hverdict

/-- **Every failed parse can be drawn on its input.** Its furthest offset is a character
boundary, at no less than what was consumed and inside the input. The range that is marked
there is that of one character, or the empty one at the end of the input. -/
theorem run_failure_drawable (p : Parser) (scope : Scope) (input : String) (complete : Bool)
    {error : ParseError} {failure : Failure}
    (hresult : (p.run scope input complete).result = .ok (.error error))
    (hfailure : error.failure? = some failure) :
    Text.isBoundary failure.furthest input = true ∧
      failure.furthest ≤ input.utf8ByteSize ∧
      (∀ consumed, error = .incomplete consumed failure → consumed ≤ failure.furthest) ∧
      ParseError.Marks input failure.furthest ∧
      ∀ path colored, ∃ drawing, error.render input path colored = .ok drawing := by
  obtain ⟨matched, st, cx, happly, hverdict, -⟩ := exists_apply_of_run hresult
  have hexec := (apply_eq_ok_iff (Nat.le_add_right _ _)).1 happly
  have hlaid : (Context.start p.memoize).MemoLaid (ParseState.start input).input :=
    .start p.memoize input
  have hinput : st.input = input := by
    have hcontract := (hexec.contract trivial hlaid).2
    cases matched with
    | false => rw [hcontract.of_failed rfl]; rfl
    | true =>
      obtain ⟨tokens, hext⟩ := hcontract.of_matched rfl
      exact hext.input_eq
  have hplaced : cx.Placed st.input := by
    rw [hinput]
    exact hexec.placed trivial hlaid (.start p.memoize input)
  have hquiet : cx.quiet = 0 := hexec.frame.quiet_eq
  obtain ⟨hboundary, hconsumed⟩ := placed_of_verdict hplaced hquiet hverdict hfailure
  rw [hinput] at hboundary
  have hmarks := ParseError.marks_of_isBoundary hboundary
  exact ⟨hboundary, Text.le_of_isBoundary hboundary, hconsumed, hmarks,
    fun path colored => hmarks.exists_render hfailure path colored⟩

/-- Of two letters one is read, and all of the second one is marked. -/
theorem run_failure_drawable_letters :
    ∃ failure : Failure,
      ((ofRule Quotation.text).run Quotation.scope "éé" true).result =
          .ok (.error (.incomplete 2 failure)) ∧
        failure.furthest = 2 ∧ 2 ≤ "éé".utf8ByteSize ∧
        ParseError.markedRange "éé" 2 = .ok ⟨2, 4⟩ ∧
        ∃ drawing, (ParseError.incomplete 2 failure).render "éé" none false = .ok drawing := by
  have hfailed : ((ofRule Quotation.text).run Quotation.scope "éé" true).incomplete? =
      some (2, ⟨2, ["'…'", "end of input"]⟩) := by decide +kernel
  have hresult := Report.result_of_incomplete? hfailed
  obtain ⟨-, hle, -, -, hdrawn⟩ :=
    run_failure_drawable (ofRule Quotation.text) Quotation.scope "éé" true hresult rfl
  have hsplit : "éé".toList = ['é'] ++ 'é' :: [] := by decide
  have hmarked : ParseError.markedRange "éé" 2 = .ok ⟨2, 4⟩ :=
    ParseError.markedRange_of_char hsplit
  exact ⟨_, hresult, rfl, hle, hmarked, hdrawn none false⟩

end Parser

end Packrat
