import Phrasebook.Regex.Reader

/-!
# Programs for patterns

A pattern is laid out as instructions that name the instruction to go on with.
Where a pattern leaves a choice, a fork names the preferred way first; the order
of the ways is what makes one match of a text better than another.
-/

namespace Phrasebook
namespace Regex

/-- An instruction: accept, take a character of a set, test a place, note a
place, or fork. -/
inductive Instruction where
  | accept
  | take (set : CharSet) (next : Nat)
  | look (a : Assertion) (next : Nat)
  | save (slot : Nat) (next : Nat)
  | fork (first second : Nat)
  deriving Inhabited

/-- The instructions laid out so far. -/
abbrev Layout := StateM (Array Instruction)

namespace Layout

def emit (i : Instruction) : Layout Nat := do
  let code ← get
  set (code.push i)
  pure code.size

/-- A fork between going into a repetition and going past it. -/
def forkTo (greedy : Bool) (inside past : Nat) : Instruction :=
  if greedy then .fork inside past else .fork past inside

/-- One or more rounds of `body`, then `next`. The fork comes after each
round. -/
def oneOrMore (body : Nat → Layout Nat) (greedy : Bool) (next : Nat) :
    Layout Nat := do
  let again ← emit .accept
  let entry ← body again
  modify fun code => code.setIfInBounds again (forkTo greedy entry next)
  pure entry

/-- Any number of rounds of a body that always takes up a character, then
`next`. -/
def anyNumber (body : Nat → Layout Nat) (greedy : Bool) (next : Nat) :
    Layout Nat := do
  let again ← emit .accept
  let entry ← body again
  modify fun code => code.setIfInBounds again (forkTo greedy entry next)
  pure again

def rounds (body : Nat → Layout Nat) : (count : Nat) → (next : Nat) → Layout Nat
  | 0, next => pure next
  | count + 1, next => do
    let entry ← body next
    rounds body count entry

/-- Up to a number of rounds, each of which may be the last; then `past`. -/
def upTo (body : Nat → Layout Nat) (greedy : Bool) (past : Nat) :
    (count : Nat) → (next : Nat) → Layout Nat
  | 0, next => pure next
  | count + 1, next => do
    let inside ← body next
    let entry ← emit (forkTo greedy inside past)
    upTo body greedy past count entry

def repetition (body : Nat → Layout Nat) (canBePoint : Bool) (min : Nat)
    (max : Option Nat) (greedy : Bool) (next : Nat) : Layout Nat :=
  match max with
  | some max => do
    let entry ← upTo body greedy next (max - min) next
    rounds body min entry
  | none =>
    match min with
    | 0 =>
      if canBePoint then do
        let inside ← oneOrMore body greedy next
        emit (forkTo greedy inside next)
      else
        anyNumber body greedy next
    | min + 1 => do
      let entry ← oneOrMore body greedy next
      rounds body min entry

mutual

/-- The instructions for a pattern before those at `next`; the place where they
begin. -/
def ofPattern : Pattern → (next : Nat) → Layout Nat
  | .empty, next => pure next
  | .one set, next => emit (.take set next)
  | .look a, next => emit (.look a next)
  | .seq ps, next => ofParts ps next
  | .choice ps, next => ofBranches ps next
  | .repeat min max greedy p, next =>
    repetition (ofPattern p) p.canBePoint min max greedy next
  | .group none p, next => ofPattern p next
  | .group (some index) p, next => do
    let close ← emit (.save (2 * index + 1) next)
    let entry ← ofPattern p close
    emit (.save (2 * index) entry)

def ofParts : List Pattern → (next : Nat) → Layout Nat
  | [], next => pure next
  | p :: ps, next => do
    let rest ← ofParts ps next
    ofPattern p rest

def ofBranches : List Pattern → (next : Nat) → Layout Nat
  | [], next => pure next
  | [p], next => ofPattern p next
  | p :: ps, next => do
    let others ← ofBranches ps next
    let first ← ofPattern p next
    emit (.fork first others)

end

end Layout

/-- An expression laid out for matching. -/
structure Program where
  code : Array Instruction
  start : Nat
  groups : Nat
  names : List (String × Nat)

/-- The program of an expression. Slots 0 and 1 note where the whole match
begins and ends. -/
def Program.ofExpression (e : Expression) : Program :=
  let layout : Layout Nat := do
    let accept ← Layout.emit .accept
    let close ← Layout.emit (.save 1 accept)
    let entry ← Layout.ofPattern e.pattern close
    Layout.emit (.save 0 entry)
  let (start, code) := layout.run #[]
  { code, start, groups := e.groups, names := e.names }

end Regex
end Phrasebook
