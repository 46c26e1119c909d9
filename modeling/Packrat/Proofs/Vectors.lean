import Mathlib.Logic.Function.Basic
import Packrat.Proofs.Layout

/-!
# Token logs are vectors

A parse copies its states all the time, and a copy shares the links of its log with the state
that it was copied from. A link also says how many tokens there are up to it, and whoever reads
a log goes by these numbers and counts nothing. Yet states can be used as if each had a vector
of its own, copied as a whole: no link changes once it is made, and its number is that of the
links below it plus one.

- `TokenLog.tokens`: what is on the links. `TokenLog.Counted`: their numbers are right.
- `TokenLog.Denotes log ts`: `log` reads as `ts`, whichever way it is read.
- `ParseState.Operation`: what is done with states, which are called by names. `run` does it to
  states, and `runVectors` to vectors in their places.
- `ParseState.run_denotes`: **whatever is done with the states of an input, their logs denote
  the vectors to which the same was done.**
-/

namespace Packrat

/-! ## What a log denotes -/

namespace TokenLog

/-- The tokens, one from each link, oldest first. What the links say of their number does not
matter. -/
def tokens : TokenLog → List Token
  | empty => []
  | link token _ older => older.tokens ++ [token]

/-- Every link says how many links there are below it, plus one. -/
def Counted : TokenLog → Prop
  | empty => True
  | link _ size older => size = older.tokens.length + 1 ∧ older.Counted

theorem Counted.size_eq : ∀ {log : TokenLog}, log.Counted → log.size = log.tokens.length
  | empty, _ => rfl
  | link _ _ _, h => by
    rw [size, tokens, List.length_append, List.length_singleton]
    exact h.1

theorem Counted.push {log : TokenLog} (h : log.Counted) (token : Token) :
    (log.push token).Counted :=
  ⟨congrArg (· + 1) h.size_eq, h⟩

theorem since_link (token : Token) (size mark : Nat) (older : TokenLog) :
    (link token size older).since mark =
      if size ≤ mark then [] else older.since mark ++ [token] := by
  rw [since, collect]
  split
  · rfl
  · exact collect_eq_append mark older [token]

/-- Where the numbers are right, the walk down the links ends at the mark. -/
theorem Counted.since_eq (mark : Nat) :
    ∀ {log : TokenLog}, log.Counted → log.since mark = log.tokens.drop mark
  | empty, _ => List.drop_nil.symm
  | link token size older, ⟨hsize, hcounted⟩ => by
    rw [since_link, tokens]
    split
    · rename_i hle
      refine (List.drop_eq_nil_of_le ?_).symm
      rw [List.length_append, List.length_singleton, ← hsize]
      exact hle
    · have hle : mark ≤ older.tokens.length := by omega
      rw [List.drop_append_of_le_length hle, hcounted.since_eq mark]

/-- In each way in which a log can be read, it is the vector `ts`. -/
structure Denotes (log : TokenLog) (ts : List Token) : Prop where
  /-- All tokens, oldest first. -/
  toList_eq : log.toList = ts
  /-- Their number. -/
  size_eq : log.size = ts.length
  /-- What was emitted after a mark, which may lie beyond the end. -/
  since_eq (mark : Nat) : log.since mark = ts.drop mark
  /-- The tokens on the links. -/
  tokens_eq : log.tokens = ts
  /-- The numbers that the links carry. -/
  counted : log.Counted

namespace Denotes

/-- If the numbers are right, all ways of reading agree. -/
theorem of_counted {log : TokenLog} (h : log.Counted) : log.Denotes log.tokens where
  toList_eq := h.since_eq 0
  size_eq := h.size_eq
  since_eq mark := h.since_eq mark
  tokens_eq := rfl
  counted := h

theorem empty : TokenLog.empty.Denotes [] := of_counted trivial

theorem push {log : TokenLog} {ts : List Token} (h : log.Denotes ts) (token : Token) :
    (log.push token).Denotes (ts ++ [token]) :=
  h.tokens_eq ▸ of_counted (h.counted.push token)

end Denotes

end TokenLog

/-! ## States side by side -/

namespace ParseState

/-- What is done with states, each of which has a name. -/
inductive Operation (ι : Type) where
  /-- Emits `token` in `target`. -/
  | push (target : ι) (token : Token)
  /-- Makes `target` a copy of `source`. -/
  | clone (target source : ι)
  /-- Lets `target` take over the position and the tokens of `source`. -/
  | assign (target source : ι)
  /-- Makes `target` a state at the place of `source`, with nothing emitted. -/
  | scope (target source : ι)

/-- A state of `input` whose log denotes `ts`. -/
structure Holds (input : String) (st : ParseState) (ts : List Token) : Prop where
  input_eq : st.input = input
  denotes : st.emitted.Denotes ts

theorem Holds.start (input : String) : Holds input (.start input) [] := ⟨rfl, .empty⟩

namespace Operation

variable {ι : Type}

/-- The state that the operation changes. -/
def target : Operation ι → ι
  | push target _ | clone target _ | assign target _ | scope target _ => target

/-- What becomes of it. -/
def result (states : ι → ParseState) : Operation ι → Except Breach ParseState
  | push target token => .ok ((states target).push token)
  | clone _ source => .ok (states source)
  | assign target source => (states target).assign (states source)
  | scope _ source => .ok (states source).scope

/-- What becomes of a vector in its place. -/
def vectorResult (vectors : ι → List Token) : Operation ι → List Token
  | push target token => vectors target ++ [token]
  | clone _ source | assign _ source => vectors source
  | scope _ _ => []

/-- Between states of one input every operation is possible, and what it makes of states it
makes of the vectors that they hold. -/
theorem exists_result {input : String} {states : ι → ParseState} {vectors : ι → List Token}
    (h : ∀ name, Holds input (states name) (vectors name)) (op : Operation ι) :
    ∃ after, op.result states = .ok after ∧ Holds input after (op.vectorResult vectors) := by
  cases op with
  | push target token => exact ⟨_, rfl, (h target).input_eq, (h target).denotes.push token⟩
  | clone _ source => exact ⟨_, rfl, h source⟩
  | assign target source =>
    have hsame : (states target).input = (states source).input :=
      (h target).input_eq.trans (h source).input_eq.symm
    exact ⟨_, assign_eq_ok_iff.2 ⟨hsame, rfl⟩, h source⟩
  | scope _ source => exact ⟨_, rfl, (h source).input_eq, .empty⟩

end Operation

variable {ι : Type} [DecidableEq ι]

/-- Each state still holds its vector when one of the states and its vector are replaced. -/
theorem holds_update {input : String} {states : ι → ParseState} {vectors : ι → List Token}
    {after : ParseState} {ts : List Token} (h : ∀ name, Holds input (states name) (vectors name))
    (hafter : Holds input after ts) (target name : ι) :
    Holds input (Function.update states target after name)
      (Function.update vectors target ts name) := by
  by_cases hname : name = target
  · subst hname
    rw [Function.update_self, Function.update_self]
    exact hafter
  · rw [Function.update_of_ne hname, Function.update_of_ne hname]
    exact h name

/-- Does one thing after another to states. -/
def run : List (Operation ι) → (ι → ParseState) → Except Breach (ι → ParseState)
  | [], states => .ok states
  | op :: ops, states => do run ops (Function.update states op.target (← op.result states))

/-- Does one thing after another to vectors. -/
def runVectors : List (Operation ι) → (ι → List Token) → ι → List Token
  | [], vectors => vectors
  | op :: ops, vectors =>
    runVectors ops (Function.update vectors op.target (op.vectorResult vectors))

theorem run_cons {op : Operation ι} {states : ι → ParseState} {after : ParseState}
    (h : op.result states = .ok after) (ops : List (Operation ι)) :
    run (op :: ops) states = run ops (Function.update states op.target after) := by
  rw [run, h]
  rfl

/-- **Token logs are vectors.** Where states of one input hold vectors, all that can be done
with them is done without a breach, and they then hold the vectors to which the same was done.
A state to which nothing was done is what it was, whatever was done to others with which it
shares links. -/
theorem run_denotes {input : String} {states : ι → ParseState} {vectors : ι → List Token}
    (h : ∀ name, Holds input (states name) (vectors name)) (ops : List (Operation ι)) :
    ∃ after, run ops states = .ok after ∧
      (∀ name, Holds input (after name) (runVectors ops vectors name)) ∧
      ∀ name, (∀ op ∈ ops, op.target ≠ name) → after name = states name := by
  induction ops generalizing states vectors with
  | nil => exact ⟨states, rfl, h, fun _ _ => rfl⟩
  | cons op ops ih =>
    obtain ⟨mid, hresult, hmid⟩ := op.exists_result h
    obtain ⟨after, hrun, hafter, hframe⟩ := ih (holds_update h hmid op.target)
    refine ⟨after, (run_cons hresult ops).trans hrun, hafter, ?_⟩
    -- a state is left alone by the first operation, and then by the others
    intro name hnone
    obtain ⟨hop, hops⟩ := List.forall_mem_cons.1 hnone
    rw [hframe name hops, Function.update_of_ne hop.symm]

/-! ## Copies that go apart -/

/-- A leaf over a part of `aé`. -/
def piece (name : String) (start stop : Nat) : Token := ⟨name, "aé", ⟨start, stop⟩, []⟩

/-- A copy of a state goes another way, a third state takes over from the copy, and the copy is
then emptied. -/
def partings : List (Operation (Fin 4)) :=
  [.push 0 (piece "A" 0 1), .clone 1 0, .push 0 (piece "E" 1 3), .push 1 (piece "End" 3 3),
    .assign 2 1, .scope 1 0]

theorem run_denotes_partings :
    (∀ name : Fin 4, Holds "aé" ((fun _ => .start "aé") name) ((fun _ => []) name)) ∧
      ∃ after : Fin 4 → ParseState, run partings (fun _ => .start "aé") = .ok after ∧
        (after 0).emitted.toList = [piece "A" 0 1, piece "E" 1 3] ∧
        (after 2).emitted.toList = [piece "A" 0 1, piece "End" 3 3] ∧
        (after 2).emitted.since 1 = [piece "End" 3 3] ∧ (after 2).emitted.since 3 = [] ∧
        (after 1).emitted.size = 0 ∧ after 3 = .start "aé" := by
  have hstart : ∀ name : Fin 4, Holds "aé" ((fun _ => .start "aé") name) ((fun _ => []) name) :=
    fun _ => .start "aé"
  obtain ⟨after, hrun, hholds, hframe⟩ := run_denotes hstart partings
  exact ⟨hstart, after, hrun, (hholds 0).denotes.toList_eq, (hholds 2).denotes.toList_eq,
    (hholds 2).denotes.since_eq 1, (hholds 2).denotes.since_eq 3, (hholds 1).denotes.size_eq,
    hframe 3 (by decide)⟩

end ParseState

end Packrat
