import Packrat.Regex.Program

/-!
# Running programs

A program is run over a text one character at a time, with all its ways through
at once. The ways are kept in order of preference and no place is entered twice
between two characters, so the time of a run is bounded by the length of the
text times that of the program.

- `Program.enter`: follows a place to the instructions that read.
- `Program.run`: the length of the match that the pattern prefers.
-/

namespace Packrat

namespace Regex

/-- The places that were entered between two characters. -/
structure Ways where
  /-- For each place, whether it was entered. -/
  entered : Array Bool
  /-- The places that read a character or end the match, the preferred ones
  first. -/
  ready : Array Nat

namespace Program

/-- The instruction at a place of the program. -/
def instruction (program : Program) (place : Nat) : Instruction :=
  program.instructions.getD place .done

/-- Follows `place`, between `previous?` and `next?`, to the instructions that
read a character or end the match. `bound` limits the places on one path, none
of which occurs twice. -/
def enter (program : Program) (previous? next? : Option Char) :
    (bound place : Nat) → Ways → Ways
  | 0, _, ways => ways
  | bound + 1, place, ⟨entered, ready⟩ =>
    if entered.getD place true then ⟨entered, ready⟩
    else
      let entered := entered.setIfInBounds place true
      match program.instruction place with
      | .done | .read _ _ => ⟨entered, ready.push place⟩
      | .look look next =>
        if look.holds previous? next? then
          program.enter previous? next? bound next ⟨entered, ready⟩
        else ⟨entered, ready⟩
      | .fork first second =>
        program.enter previous? next? bound second
          (program.enter previous? next? bound first ⟨entered, ready⟩)

/-- The places that read a character or end the match, reached from `places`. -/
def ready (program : Program) (previous? next? : Option Char) (places : List Nat) : List Nat :=
  let size := program.instructions.size
  let ways := places.foldl
    (fun ways place => program.enter previous? next? (size + 1) place ways)
    ⟨.replicate size false, #[]⟩
  ways.ready.toList

/-- Whether the match ends at `place`. -/
def isDone (program : Program) (place : Nat) : Bool :=
  match program.instruction place with
  | .done => true
  | _ => false

/-- Where the way at `place` goes on after reading `c`. -/
def step? (program : Program) (c : Char) (place : Nat) : Option Nat :=
  match program.instruction place with
  | .read members next => if members.contains c then some next else none
  | _ => none

/-- Runs the ways at `places` over `rest`. `count` is the number of characters
read so far, and `best?` the count at the best match so far. Ways that come
after one that ends the match are not preferred to it and are given up. -/
def run (program : Program) (previous? : Option Char) :
    (rest : List Char) → (places : List Nat) → (count : Nat) → (best? : Option Nat) → Option Nat
  | rest, places, count, best? =>
    let ready := program.ready previous? rest.head? places
    let live := ready.takeWhile (!program.isDone ·)
    let best? := if live.length < ready.length then some count else best?
    match rest with
    | [] => best?
    | c :: rest =>
      match live.filterMap (program.step? c) with
      | [] => best?
      | places => program.run (some c) rest places (count + 1) best?

/-- The number of characters that the program matches at the front of `rest`.
`previous?` is the character before them. -/
def matchCount? (program : Program) (previous? : Option Char) (rest : List Char) : Option Nat :=
  program.run previous? rest [program.start] 0 none

end Program

end Regex

end Packrat
