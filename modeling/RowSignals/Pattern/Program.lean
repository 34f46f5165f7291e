import RowSignals.Pattern.Basic

/-!
# Programs of patterns

A program is a pattern laid out as numbered instructions, each naming the ones that may follow
it. It is written from the end: the instructions of a part are laid out when it is known where
its match goes on, so that only a loop has to come back to an instruction that is already there.

* `Instruction`, `Program`.
* `Pattern.emit`: one more instruction.
* `Pattern.times`, `Pattern.loop`, `Pattern.layOutRepeated`: a part several times.
* `Pattern.layOut`: the instructions of a pattern, before a given instruction.
* `Program.ofPattern`.
-/

namespace RowSignals

/-- One step of a match. -/
inductive Instruction where
  /-- Take a character of the set. -/
  | take (set : CharSet) (next : Nat)
  /-- Go on only where the anchor holds. -/
  | check (anchor : Anchor) (next : Nat)
  /-- Note the place under a number. -/
  | note (slot : Nat) (next : Nat)
  /-- Go on in two ways, of which the first one is preferred. -/
  | fork (first second : Nat)
  | accept
  deriving Repr

/-- Instructions, and where they start. -/
structure Program where
  instructions : Array Instruction
  start : Nat
  deriving Repr

namespace Pattern

/-- A list of instructions with one more, and its number. -/
def emit (instruction : Instruction) (program : Array Instruction) : Nat × Array Instruction :=
  (program.size, program.push instruction)

/-- A fork between doing the body and going on without it. -/
def choice (greedy : Bool) (body next : Nat) : Instruction :=
  if greedy then .fork body next else .fork next body

/-- The result of doing `f` some times, each time before the place of the last one. -/
def times (f : Nat → Array Instruction → Nat × Array Instruction) :
    Nat → Nat → Array Instruction → Nat × Array Instruction
  | 0, next, program => (next, program)
  | n + 1, next, program =>
    let (place, program) := f next program
    times f n place program

/-- The instructions of a loop that is done at least once. -/
def loop (greedy : Bool) (f : Nat → Array Instruction → Nat × Array Instruction) (next : Nat)
    (program : Array Instruction) : Nat × Array Instruction :=
  -- the body goes on to a fork that leads back to it, so the fork gets its number first and its
  -- instruction afterwards; until then `accept` stands in its place
  let (again, program) := emit .accept program
  let (body, program) := f again program
  (body, program.setIfInBounds again (choice greedy body next))

/-- The instructions of a repeated part, given the instructions of the part. -/
def layOutRepeated (least : Nat) (most : Option Nat) (greedy nullable : Bool)
    (f : Nat → Array Instruction → Nat × Array Instruction) (next : Nat)
    (program : Array Instruction) : Nat × Array Instruction :=
  match most, least with
  | some most, least =>
    -- each part beyond the least number may be left out, and with it all that follow
    let optional (place : Nat) (program : Array Instruction) : Nat × Array Instruction :=
      let (body, program) := f place program
      emit (choice greedy body next) program
    let (place, program) := times optional (most - least) next program
    times f least place program
  | none, 0 =>
    -- A body that can match the empty text must not lead back to the fork before it: that place
    -- was visited already, and the way on would be lost. It gets another fork in front.
    if nullable then
      let (body, program) := loop greedy f next program
      emit (choice greedy body next) program
    else
      let (again, program) := emit .accept program
      let (body, program) := f again program
      (again, program.setIfInBounds again (choice greedy body next))
  | none, least + 1 =>
    let (place, program) := loop greedy f next program
    times f least place program

/-- The instructions of a pattern, before the instruction `next`. -/
def layOut : Pattern → Nat → Array Instruction → Nat × Array Instruction
  | .empty, next, program => (next, program)
  | .one set, next, program => emit (.take set next) program
  | .anchored anchor, next, program => emit (.check anchor next) program
  | .capture index body, next, program =>
    let (close, program) := emit (.note (2 * index + 1) next) program
    let (place, program) := body.layOut close program
    emit (.note (2 * index) place) program
  | .followedBy first second, next, program =>
    let (place, program) := second.layOut next program
    first.layOut place program
  | .either first second, next, program =>
    let (other, program) := second.layOut next program
    let (place, program) := first.layOut next program
    emit (.fork place other) program
  | .repeated count body, next, program =>
    let (least, most) := body.unrolled count
    layOutRepeated least most count.greedy body.isNullable body.layOut next program

end Pattern

/-- The program of a pattern. -/
def Program.ofPattern (pattern : Pattern) : Program :=
  let (start, instructions) := pattern.layOut 0 #[.accept]
  ⟨instructions, start⟩

end RowSignals
