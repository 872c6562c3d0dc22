import Phrasebook.Regex.Program

/-!
# Searching a text

All ways through a program are followed at once, one character at a time, the
preferred ones first. No instruction is followed twice at one place of the text,
so a search takes time in proportion to the text and the program. When a way
accepts, the less preferred ones are dropped, and what remains can only improve
on it. The match that begins first wins.
-/

namespace Phrasebook
namespace Regex

/-- Where the groups of a match begin and end. -/
abbrev Slots := Array (Option Nat)

/-- A way through the program: the next instruction and the places noted so
far. -/
structure Way where
  place : Nat
  slots : Slots

namespace Program

/-- The ways that wait for a character, from the ways on the stack in their
order. Forks, tests and notes are followed at once. `fuel` bounds the steps;
each instruction is met once and adds at most two. -/
def settle (p : Program) (position : Nat) (before after : Option Char) :
    (fuel : Nat) → List Way → (seen : Array Bool) → (settled : List Way) →
      List Way
  | 0, _, _, settled => settled.reverse
  | _ + 1, [], _, settled => settled.reverse
  | fuel + 1, way :: stack, seen, settled =>
    if seen.getD way.place true then
      settle p position before after fuel stack seen settled
    else
      let seen := seen.setIfInBounds way.place true
      match p.code.getD way.place .accept with
      | .accept | .take .. =>
        settle p position before after fuel stack seen (way :: settled)
      | .look a next =>
        let stack :=
          if a.holds before after then ⟨next, way.slots⟩ :: stack else stack
        settle p position before after fuel stack seen settled
      | .save slot next =>
        let slots := way.slots.setIfInBounds slot (some position)
        settle p position before after fuel
          (⟨next, slots⟩ :: stack) seen settled
      | .fork first second =>
        settle p position before after fuel
          (⟨first, way.slots⟩ :: ⟨second, way.slots⟩ :: stack) seen settled

/-- The ways that come before the first accepting one, and the match it
found. -/
def upToAccept (p : Program) : List Way → List Way × Option Slots
  | [] => ([], none)
  | way :: ways =>
    match p.code.getD way.place .accept with
    | .accept => ([], some way.slots)
    | _ =>
      let (live, found) := upToAccept p ways
      (way :: live, found)

def advance? (p : Program) (c : Char) (way : Way) : Option Way :=
  match p.code.getD way.place .accept with
  | .take set next =>
    if Unicode.Ranges.mem set c.toNat then some ⟨next, way.slots⟩ else none
  | _ => none

/-- The ways that go on from a place, and the best match so far. As long as
nothing has been found a new way begins at each place, after the others. -/
def visit (p : Program) (position : Nat) (before after : Option Char)
    (ways : List Way) (best : Option Slots) : List Way × Option Slots :=
  let fresh : Way := ⟨p.start, Array.replicate (2 * p.groups + 2) none⟩
  let ways := if best.isNone then ways ++ [fresh] else ways
  let settled :=
    p.settle position before after (ways.length + 2 * p.code.size + 1) ways
    (Array.replicate p.code.size false) []
  let (live, found) := p.upToAccept settled
  (live, found.orElse fun _ => best)

/-- The best match from the given ways on, or from a later place if none has
been found. -/
def searchFrom (p : Program) (position : Nat) (before : Option Char)
    (ways : List Way) (best : Option Slots) : List Char → Option Slots
  | [] => (p.visit position before none ways best).2
  | c :: rest =>
    let (live, best) := p.visit position before (some c) ways best
    let ways := live.filterMap (p.advance? c)
    if ways.isEmpty && best.isSome then best
    else searchFrom p (position + 1) (some c) ways best rest

/-- The first match of a text that begins at `start` or later. -/
def searchAt (p : Program) (text : List Char) (start : Nat) : Option Slots :=
  let before := if start = 0 then none else text[start - 1]?
  p.searchFrom start before [] none (text.drop start)

end Program

structure Match where
  first : Nat
  last : Nat
  slots : Slots

namespace Match

def ofSlots (slots : Slots) : Match where
  first := (slots.getD 0 none).getD 0
  last := (slots.getD 1 none).getD 0
  slots

/-- The stretch of the text that a group took up; empty if the group took no
part. -/
def group (m : Match) (text : List Char) (index : Nat) : List Char :=
  match m.slots.getD (2 * index) none, m.slots.getD (2 * index + 1) none with
  | some first, some last => (text.drop first).take (last - first)
  | _, _ => []

end Match

namespace Program

def matchAt? (p : Program) (text : List Char) (start : Nat) : Option Match :=
  (p.searchAt text start).map Match.ofSlots

def isMatch (p : Program) (text : List Char) : Bool :=
  (p.searchAt text 0).isSome

/-- The next match after one that ended at `lastEnd`: an empty match right there
does not count. -/
def nextMatch? (p : Program) (text : List Char) (start : Nat)
    (lastEnd : Option Nat) :
    Option Match := do
  if start > text.length then none
  let m ← p.matchAt? text start
  if m.first = m.last ∧ lastEnd = some m.last then
    if start + 1 > text.length then none else p.matchAt? text (start + 1)
  else
    pure m

/-- All matches from left to right. A match ends after the one before it, so one
more than there are characters is enough fuel. -/
def matchesFrom (p : Program) (text : List Char) :
    (fuel : Nat) → (start : Nat) → (lastEnd : Option Nat) → List Match
  | 0, _, _ => []
  | fuel + 1, start, lastEnd =>
    match p.nextMatch? text start lastEnd with
    | none => []
    | some m => m :: matchesFrom p text fuel m.last (some m.last)

/-- All matches of a text, from left to right without overlap. -/
def allMatches (p : Program) (text : List Char) : List Match :=
  p.matchesFrom text (2 * text.length + 2) 0 none

end Program
end Regex
end Phrasebook
