import Packrat.Token.Basic

/-!
# Parse states

A `ParseState` is a cursor into an input together with the tokens emitted so
far. It is a value: a rule that may have to undo its work runs on a copy, and
the copy is assigned back only when it has succeeded.

- `TokenLog`: the emitted tokens, newest first, each link with the number of
  tokens up to it, so that lengths cost nothing.
- `ParseState.seek` moves the cursor. It refuses an offset that is not a
  character boundary, and the type records that no state is off a boundary.
- `ParseState.assign` takes over the position and tokens of a state of the same
  input.
-/

namespace Packrat

/-! ## Token logs -/

/-- Tokens in the order of their emission, the newest at the head. -/
inductive TokenLog where
  | empty
  /-- `token` after those of `older`. `size` counts it and them. -/
  | link (token : Token) (size : Nat) (older : TokenLog)
deriving Inhabited

namespace TokenLog

/-- The number of tokens. -/
def size : TokenLog → Nat
  | empty => 0
  | link _ size _ => size

/-- The log with `token` after all others. -/
def push (log : TokenLog) (token : Token) : TokenLog := link token (log.size + 1) log

/-- Puts the tokens after the first `mark`, oldest first, before `later`. -/
def collect (mark : Nat) : TokenLog → List Token → List Token
  | empty, later => later
  | link token size older, later =>
    if size ≤ mark then later else collect mark older (token :: later)

/-- The tokens pushed after the first `mark`, oldest first. -/
def since (log : TokenLog) (mark : Nat) : List Token := collect mark log []

/-- The tokens, oldest first. -/
def toList (log : TokenLog) : List Token := log.since 0

end TokenLog

/-! ## States -/

/-- A position in an input and the tokens emitted before it. -/
structure ParseState where
  input : String
  /-- The byte offset of the cursor. -/
  position : Nat
  /-- The input after the cursor. -/
  remainder : List Char
  emitted : TokenLog
  /-- The cursor stands on a character boundary, before `remainder`. -/
  splits : Text.dropBytes? position input.toList = some remainder

namespace ParseState

/-- The state at the start of `input`, with nothing emitted. -/
def start (input : String) : ParseState where
  input
  position := 0
  remainder := input.toList
  emitted := .empty
  splits := Text.dropBytes?_zero _

/-- Whether nothing of the input remains. -/
def isAtEnd (st : ParseState) : Bool := st.position == st.input.utf8ByteSize

/-- The same place with nothing emitted, for collecting the tokens of a node. -/
def scope (st : ParseState) : ParseState := { st with emitted := .empty }

/-- Takes over the position and tokens of `other`, a state of the same input. -/
def assign (st other : ParseState) : Except Breach ParseState :=
  if h : st.input = other.input then
    .ok { st with
      position := other.position
      remainder := other.remainder
      emitted := other.emitted
      splits := h ▸ other.splits }
  else .error .foreignState

/-- A state that could be taken over has become the other one. -/
theorem assign_eq_ok_iff {st other after : ParseState} :
    st.assign other = .ok after ↔ st.input = other.input ∧ after = other := by
  unfold assign
  split
  · rename_i h
    cases st
    cases other
    cases h
    simp [eq_comm]
  · simp_all

/-- The bytes before and after the cursor make up the input. -/
theorem position_add_remainder (st : ParseState) :
    st.position + Text.utf8Length st.remainder = st.input.utf8ByteSize := by
  obtain ⟨before, hinput, hlen⟩ := Text.dropBytes?_eq_some_iff.1 st.splits
  rw [← Text.utf8Length_toList, hinput, Text.utf8Length_append, hlen]

/-- The further the cursor is, the less remains. -/
theorem remainder_lt {st other : ParseState} (hinput : st.input = other.input)
    (hpos : st.position < other.position) :
    Text.utf8Length other.remainder < Text.utf8Length st.remainder := by
  have hst := st.position_add_remainder
  have hother := other.position_add_remainder
  rw [hinput] at hst
  omega

/-- Moves the cursor to the offset `target`, a character boundary. -/
def seek (st : ParseState) (target : Nat) : Except Breach ParseState :=
  if h : st.position ≤ target then
    match hr : Text.dropBytes? (target - st.position) st.remainder with
    | some rest =>
      .ok { st with
        position := target
        remainder := rest
        splits := by
          have := Text.dropBytes?_add st.splits hr
          rwa [Nat.add_sub_cancel' h] at this }
    | none => .error (.offBoundary target st.input.utf8ByteSize)
  else
    match hr : Text.dropBytes? target st.input.toList with
    | some rest => .ok { st with position := target, remainder := rest, splits := hr }
    | none => .error (.offBoundary target st.input.utf8ByteSize)

/-- Moves the cursor `length` bytes ahead. -/
def advance (st : ParseState) (length : Nat) : Except Breach ParseState :=
  st.seek (st.position + length)

/-- Emits `token`. -/
def push (st : ParseState) (token : Token) : ParseState :=
  { st with emitted := st.emitted.push token }

/-- The character before the cursor. -/
def previous? (st : ParseState) : Option Char := Text.before? st.position st.input

end ParseState

end Packrat
