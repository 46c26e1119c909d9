import Packrat.Parse.Apply

/-!
# Where tokens lie

What it means for tokens to be well placed over a source text, and how the log
of a parse state carries them.

- `Token.Sound source t`: `t` and everything below it is over `source`, starts
  and stops between characters, and lies inside its parent after its siblings.
- `Token.Ordered source lo ts hi`: sound tokens one after another from `lo` to
  `hi`.
- `TokenLog.extend log ts`: the log after `ts` have been emitted, which gives
  `ts` back (`TokenLog.since_extend`).
- `ParseState.Extends st tokens after`: what a successful match does to a state.
-/

namespace Packrat

/-! ## Character boundaries -/

namespace Text

/-- A boundary is an offset that something follows. -/
theorem isBoundary_iff_dropBytes? {n : Nat} {s : String} :
    isBoundary n s = true ↔ ∃ rest, dropBytes? n s.toList = some rest := by
  rw [isBoundary_iff]
  constructor
  · rintro ⟨before, after, rfl, rfl⟩
    refine ⟨after.toList, dropBytes?_eq_some_iff.2 ⟨before.toList, ?_, ?_⟩⟩
    · exact String.toList_append
    · exact utf8Length_toList before
  · rintro ⟨rest, h⟩
    obtain ⟨before, hs, hlen⟩ := dropBytes?_eq_some_iff.1 h
    refine ⟨String.ofList before, String.ofList rest, ?_, ?_⟩
    · rw [← String.ofList_append, ← hs, String.ofList_toList]
    · rw [← utf8Length_toList, String.toList_ofList, hlen]

theorem le_of_isBoundary {n : Nat} {s : String} (h : isBoundary n s = true) :
    n ≤ s.utf8ByteSize := by
  obtain ⟨before, after, rfl, rfl⟩ := isBoundary_iff.1 h
  rw [String.utf8ByteSize_append]
  exact Nat.le_add_right _ _

/-- Between two boundaries there is text to drop. -/
theorem exists_dropBytes?_sub {m n : Nat} {cs ds : List Char} (hle : m ≤ n)
    (hm : dropBytes? m cs = some ds) {rest : List Char} (hn : dropBytes? n cs = some rest) :
    dropBytes? (n - m) ds = some rest := by
  obtain ⟨a, rfl, rfl⟩ := dropBytes?_eq_some_iff.1 hm
  obtain ⟨b, happend, rfl⟩ := dropBytes?_eq_some_iff.1 hn
  refine dropBytes?_eq_some_iff.2 ?_
  rcases List.append_eq_append_iff.1 happend with ⟨c, rfl, rfl⟩ | ⟨c, rfl, rfl⟩
  · exact ⟨c, rfl, by rw [utf8Length_append]; omega⟩
  · cases c with
    | nil => exact ⟨[], rfl, by simp⟩
    | cons x c =>
      have := x.utf8Size_pos
      rw [utf8Length_append, utf8Length_cons] at hle
      omega

theorem isBoundary_zero (s : String) : isBoundary 0 s = true :=
  isBoundary_iff_dropBytes?.2 ⟨_, dropBytes?_zero _⟩

end Text

/-! ## Tokens -/

namespace Token

mutual

/-- The token is over `source` and stands between two characters; so is
everything below it, and children follow one another inside it. -/
def Sound (source : String) : Token → Prop
  | ⟨_, text, span, children⟩ =>
    text = source ∧ span.start ≤ span.stop ∧ Text.isBoundary span.start source ∧
      Text.isBoundary span.stop source ∧ Ordered source span.start children span.stop

/-- The tokens are sound and follow one another from `lo` to `hi`. -/
def Ordered (source : String) (lo : Nat) : List Token → Nat → Prop
  | [], hi => lo ≤ hi
  | t :: ts, hi => lo ≤ t.start ∧ Sound source t ∧ Ordered source t.stop ts hi

end

variable {source : String} {lo mid hi : Nat} {t : Token} {ts us : List Token}

@[simp] theorem ordered_nil : Ordered source lo [] hi ↔ lo ≤ hi := Iff.rfl

@[simp] theorem ordered_cons :
    Ordered source lo (t :: ts) hi ↔
      lo ≤ t.start ∧ t.Sound source ∧ Ordered source t.stop ts hi := Iff.rfl

theorem Sound.start_le_stop (h : t.Sound source) : t.start ≤ t.stop := by
  cases t
  exact h.2.1

theorem Ordered.le : ∀ {ts : List Token} {lo : Nat}, Ordered source lo ts hi → lo ≤ hi
  | [], _, h => h
  | _ :: _, _, ⟨hstart, hsound, hrest⟩ =>
    Nat.le_trans hstart (Nat.le_trans hsound.start_le_stop hrest.le)

/-- What follows a run of tokens may follow it further away. -/
theorem Ordered.append (h' : Ordered source mid us hi) :
    ∀ {ts : List Token} {lo : Nat}, Ordered source lo ts mid → Ordered source lo (ts ++ us) hi
  | [], lo, h => by
    cases us with
    | nil => exact Nat.le_trans h h'
    | cons u us => exact ⟨Nat.le_trans h h'.1, h'.2⟩
  | _ :: _, _, ⟨hstart, hsound, hrest⟩ => ⟨hstart, hsound, h'.append hrest⟩

/-- Tokens in order are no misplaced children. -/
theorem Ordered.misplacedChild?_eq_none {parent : Span} :
    ∀ {ts : List Token} {cursor : Nat}, parent.start ≤ cursor →
      Ordered source cursor ts parent.stop → misplacedChild? parent cursor ts = none
  | [], _, _, _ => rfl
  | t :: ts, cursor, hle, ⟨hstart, hsound, hrest⟩ => by
    have hinside : parent.contains t.span = true :=
      Span.contains_iff.2 ⟨Nat.le_trans hle hstart, hrest.le⟩
    have hcursor : parent.start ≤ t.stop :=
      Nat.le_trans hle (Nat.le_trans hstart hsound.start_le_stop)
    rw [misplacedChild?, hinside, decide_eq_true hstart]
    exact hrest.misplacedChild?_eq_none hcursor

/-- A token over ordered children passes its own check, and is sound. -/
theorem Ordered.make_eq_ok (name : String) (hlo : Text.isBoundary lo source)
    (hhi : Text.isBoundary hi source) (h : Ordered source lo ts hi) :
    make name source ⟨lo, hi⟩ ts = .ok ⟨name, source, ⟨lo, hi⟩, ts⟩ ∧
      Sound source ⟨name, source, ⟨lo, hi⟩, ts⟩ := by
  refine ⟨make_eq_ok_iff.2 ⟨rfl, ?_⟩, rfl, h.le, hlo, hhi, h⟩
  have hbounds : lo ≤ hi ∧ hi ≤ source.utf8ByteSize := ⟨h.le, Text.le_of_isBoundary hhi⟩
  have hchildren : misplacedChild? ⟨lo, hi⟩ lo ts = none :=
    h.misplacedChild?_eq_none (Nat.le_refl lo)
  simp [check, start, stop, hbounds, hlo, hhi, hchildren]

end Token

/-! ## Token logs -/

namespace TokenLog

/-- The log after `ts` have been emitted. -/
def extend (log : TokenLog) (ts : List Token) : TokenLog := ts.foldl push log

@[simp] theorem extend_nil (log : TokenLog) : log.extend [] = log := rfl

theorem extend_append (log : TokenLog) (ts us : List Token) :
    log.extend (ts ++ us) = (log.extend ts).extend us :=
  List.foldl_append

theorem collect_size (log : TokenLog) (later : List Token) :
    collect log.size log later = later := by
  cases log with
  | empty => rfl
  | link t size older => exact if_pos (Nat.le_refl size)

theorem collect_eq_append (mark : Nat) :
    ∀ (log : TokenLog) (later : List Token), collect mark log later = log.since mark ++ later
  | empty, _ => rfl
  | link t size older, later => by
    rw [since, collect, collect]
    split
    · rfl
    · rw [collect_eq_append mark older, collect_eq_append mark older [t], List.append_assoc]
      rfl

/-- What is emitted after the mark is collected, whatever the log was. -/
theorem collect_extend {mark : Nat} : ∀ {ts : List Token} {log : TokenLog} (later : List Token),
    mark ≤ log.size → collect mark (log.extend ts) later = collect mark log (ts ++ later)
  | [], _, _, _ => rfl
  | t :: ts, log, later, hle => by
    have hlt : ¬log.size + 1 ≤ mark := by omega
    show collect mark ((log.push t).extend ts) later = _
    rw [collect_extend later (Nat.le_succ_of_le hle)]
    exact if_neg hlt

/-- The tokens since a mark are those emitted since. -/
@[simp] theorem since_extend (log : TokenLog) (ts : List Token) :
    (log.extend ts).since log.size = ts := by
  rw [since, collect_extend [] (Nat.le_refl _), collect_size, List.append_nil]

@[simp] theorem toList_extend (log : TokenLog) (ts : List Token) :
    (log.extend ts).toList = log.toList ++ ts := by
  rw [toList, since, collect_extend [] (Nat.zero_le _), List.append_nil, collect_eq_append]
  rfl

end TokenLog

/-! ## States -/

namespace ParseState

variable {st after : ParseState}

/-- Input, position and log make up a state: what remains follows from them. -/
theorem eq_of_position_eq (hinput : st.input = after.input)
    (hpos : st.position = after.position) (hlog : st.emitted = after.emitted) :
    st = after := by
  have hrest : some st.remainder = some after.remainder := by
    rw [← st.splits, ← after.splits, hinput, hpos]
  cases st
  cases after
  cases hinput
  cases hpos
  cases hlog
  cases hrest
  rfl

theorem isBoundary_position (st : ParseState) : Text.isBoundary st.position st.input = true :=
  Text.isBoundary_iff_dropBytes?.2 ⟨_, st.splits⟩

/-- Moving the cursor changes nothing else, and it ends between two characters. -/
theorem seek_eq_ok {moved : ParseState} {target : Nat} (h : st.seek target = .ok moved) :
    moved.input = st.input ∧ moved.position = target ∧ moved.emitted = st.emitted := by
  unfold seek at h
  split at h
  · split at h
    · cases h
      exact ⟨rfl, rfl, rfl⟩
    · cases h
  · split at h
    · cases h
      exact ⟨rfl, rfl, rfl⟩
    · cases h

/-- The cursor can be moved to every boundary. -/
theorem exists_seek_eq_ok {target : Nat} (h : Text.isBoundary target st.input = true) :
    ∃ moved, st.seek target = .ok moved := by
  obtain ⟨rest, hrest⟩ := Text.isBoundary_iff_dropBytes?.1 h
  unfold seek
  split
  · rename_i hle
    have hsub := Text.exists_dropBytes?_sub hle st.splits hrest
    split
    · exact ⟨_, rfl⟩
    · rename_i hnone
      rw [hsub] at hnone
      cases hnone
  · split
    · exact ⟨_, rfl⟩
    · rename_i hnone
      rw [hrest] at hnone
      cases hnone

/-- What a match that emitted `tokens` has done to a state. -/
structure Extends (st : ParseState) (tokens : List Token) (after : ParseState) : Prop where
  input_eq : after.input = st.input
  emitted_eq : after.emitted = st.emitted.extend tokens
  ordered : Token.Ordered st.input st.position tokens after.position

namespace Extends

variable {mid : ParseState} {ts us : List Token}

theorem refl (st : ParseState) : Extends st [] st := ⟨rfl, rfl, Nat.le_refl _⟩

theorem trans (h : Extends st ts mid) (h' : Extends mid us after) :
    Extends st (ts ++ us) after where
  input_eq := h'.input_eq.trans h.input_eq
  emitted_eq := by rw [TokenLog.extend_append, ← h.emitted_eq, h'.emitted_eq]
  ordered := Token.Ordered.append (h.input_eq ▸ h'.ordered) h.ordered

theorem position_le (h : Extends st ts after) : st.position ≤ after.position := h.ordered.le

/-- The new tokens can be read off the log. -/
theorem since_eq (h : Extends st ts after) : after.emitted.since st.emitted.size = ts := by
  rw [h.emitted_eq, TokenLog.since_extend]

/-- A match that began with an empty log has emitted all that is in it. -/
theorem toList_eq (h : Extends st ts after) (hempty : st.emitted = .empty) :
    after.emitted.toList = ts := by
  rw [h.emitted_eq, TokenLog.toList_extend, hempty]
  rfl

/-- A match that reads ahead and emits nothing. -/
theorem of_seek {target : Nat} (h : st.seek target = .ok after) (hle : st.position ≤ target) :
    Extends st [] after := by
  obtain ⟨hinput, hpos, hlog⟩ := seek_eq_ok h
  exact ⟨hinput, hlog, hpos ▸ hle⟩

/-- A match is determined by where it ends and what it emits. -/
theorem unique {after' : ParseState} (h : Extends st ts after) (h' : Extends st ts after')
    (hpos : after.position = after'.position) : after = after' :=
  eq_of_position_eq (h.input_eq.trans h'.input_eq.symm) hpos
    (h.emitted_eq.trans h'.emitted_eq.symm)

end Extends

/-- Emitting tokens moves nothing. -/
theorem pushAll_eq : ∀ (ts : List Token) (st : ParseState),
    Apply.pushAll st ts = { st with emitted := st.emitted.extend ts }
  | [], _ => rfl
  | t :: ts, st => pushAll_eq ts (st.push t)

theorem position_pushAll (ts : List Token) (st : ParseState) :
    (Apply.pushAll st ts).position = st.position := by
  rw [pushAll_eq]

/-- A remembered match does what the match did. -/
theorem extends_pushAll {moved : ParseState} {stop : Nat} {ts : List Token}
    (hseek : st.seek stop = .ok moved) (hts : Token.Ordered st.input st.position ts stop) :
    Extends st ts (Apply.pushAll moved ts) := by
  obtain ⟨hinput, hpos, hlog⟩ := seek_eq_ok hseek
  rw [pushAll_eq]
  exact ⟨hinput, by rw [hlog], by rw [hpos]; exact hts⟩

end ParseState

end Packrat
