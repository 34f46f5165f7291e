import RowSignals.Pattern.Program

/-!
# Searching

A search reads a text once, from left to right. It keeps the places of the program that are
alive, in the order of preference, each with the notes of its captures; of two ways to the same
place only the preferred one stays alive. The time is thus at most the length of the text times
that of the program, whatever the pattern.

* `Thread`: a live place with its notes.
* `Program.leaves`: the live places that wait for a character or accept.
* `Program.cut`: the places that are preferred to the first one that accepts.
* `Program.advance`: a place after a character.
* `Program.search`: the notes of the preferred match among those that start first.

A match that was found is the best so far, not the last word: what is left after `cut` is
preferred to it and may still match.
-/

namespace RowSignals

/-- Places in the text that were noted, the latest first. -/
abbrev Notes := List (Nat × Nat)

/-- A live place of a program. -/
structure Thread where
  place : Nat
  notes : Notes
  deriving Repr

namespace Program

/-- The live places that can be reached from `pending` without taking a character and that wait
for one or accept, in the order of preference. Every place is visited once. -/
def leaves (program : Program) (before after : Option Char) (position : Nat) :
    Nat → Array Bool → List Thread → List Thread
  | 0, _, _ => []
  | _ + 1, _, [] => []
  | fuel + 1, visited, thread :: pending =>
    if visited.getD thread.place true then
      leaves program before after position fuel visited pending
    else
      let visited := visited.setIfInBounds thread.place true
      match program.instructions[thread.place]? with
      | some (.check anchor next) =>
        let pending :=
          if anchor.holds before after then ⟨next, thread.notes⟩ :: pending else pending
        leaves program before after position fuel visited pending
      | some (.note slot next) =>
        leaves program before after position fuel visited
          (⟨next, (slot, position) :: thread.notes⟩ :: pending)
      | some (.fork first second) =>
        leaves program before after position fuel visited
          (⟨first, thread.notes⟩ :: ⟨second, thread.notes⟩ :: pending)
      | _ => thread :: leaves program before after position fuel visited pending

/-- The threads before the first one that accepts, and the notes of that one. -/
def cut (program : Program) : List Thread → List Thread × Option Notes
  | [] => ([], none)
  | thread :: threads =>
    match program.instructions[thread.place]? with
    | some .accept => ([], some thread.notes)
    | _ =>
      let (kept, found) := cut program threads
      (thread :: kept, found)

/-- The thread after it took a character. -/
def advance (program : Program) (c : Char) (thread : Thread) : Option Thread :=
  match program.instructions[thread.place]? with
  | some (.take set next) => if set.contains c then some ⟨next, thread.notes⟩ else none
  | _ => none

/-- The rest of a search, at a position with the live threads and the best match so far. Until a
match is found, a new one may start at every position. -/
def searchFrom (program : Program) (position : Nat) (before : Option Char)
    (threads : List Thread) (best : Option Notes) (text : List Char) : Option Notes :=
  -- a match that starts here is preferred least, as it starts last
  let pending := if best.isNone then threads ++ [⟨program.start, []⟩] else threads
  let size := program.instructions.size
  -- a visit ends one pending place and makes two at most; no place is visited twice
  let reached := program.leaves before text.head? position (pending.length + 2 * size + 1)
    (Array.replicate size false) pending
  let (kept, found) := program.cut reached
  let best := found <|> best
  match text with
  | [] => best
  | c :: rest =>
    let threads := kept.filterMap (program.advance c)
    if threads.isEmpty && best.isSome then best
    else searchFrom program (position + 1) (some c) threads best rest

/-- The notes of the match that starts first; of the matches that start there, of the preferred
one. -/
def search (program : Program) (text : List Char) : Option Notes :=
  program.searchFrom 0 none [] none text

end Program

/-- The text between the two places that were noted for a capture. -/
def Notes.captured? (notes : Notes) (index : Nat) (text : List Char) : Option String := do
  let start ← notes.lookup (2 * index)
  let stop ← notes.lookup (2 * index + 1)
  return String.ofList ((text.drop start).take (stop - start))

end RowSignals
