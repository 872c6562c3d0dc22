import Phrasebook.Regex.CharSet
import Phrasebook.Unicode.Word

/-!
# Patterns

The structure of a regular expression once its flags have been worked into it:
every step accepts a fixed set of characters, and every repetition knows whether
it prefers more or fewer rounds.
-/

namespace Phrasebook
namespace Regex

/-- A condition on a place in a text. -/
inductive Assertion where
  | textStart
  | textEnd
  | lineStart
  | lineEnd
  | crlfLineStart
  | crlfLineEnd
  | wordBoundary (ascii : Bool)
  | notWordBoundary (ascii : Bool)
  | wordStart (ascii : Bool)
  | wordEnd (ascii : Bool)
  | wordStartHalf (ascii : Bool)
  | wordEndHalf (ascii : Bool)
  deriving DecidableEq, Repr

namespace Assertion

def isWordAt (ascii : Bool) : Option Char → Bool
  | none => false
  | some c => if ascii then Unicode.isAsciiWord c else Unicode.isWord c

/-- Whether the condition holds between two neighbours; a missing one is the end
of the text. -/
def holds (a : Assertion) (before after : Option Char) : Bool :=
  match a with
  | .textStart => before.isNone
  | .textEnd => after.isNone
  | .lineStart => before.isNone || before == some '\n'
  | .lineEnd => after.isNone || after == some '\n'
  | .crlfLineStart =>
    before.isNone || before == some '\n' ||
      (before == some '\r' && after != some '\n')
  | .crlfLineEnd =>
    after.isNone || after == some '\r' ||
      (after == some '\n' && before != some '\r')
  | .wordBoundary k => isWordAt k before != isWordAt k after
  | .notWordBoundary k => isWordAt k before == isWordAt k after
  | .wordStart k => !isWordAt k before && isWordAt k after
  | .wordEnd k => isWordAt k before && !isWordAt k after
  | .wordStartHalf k => !isWordAt k before
  | .wordEndHalf k => !isWordAt k after

end Assertion

inductive Pattern where
  | empty
  | one (set : CharSet)
  | look (a : Assertion)
  | seq (parts : List Pattern)
  | choice (branches : List Pattern)
  | repeat (min : Nat) (max : Option Nat) (greedy : Bool) (body : Pattern)
  | group (index : Option Nat) (body : Pattern)
  deriving Inhabited

namespace Pattern

mutual

/-- Whether the pattern matches only where it takes up no characters. -/
def isPoint : Pattern → Bool
  | .empty | .look _ => true
  | .one _ => false
  | .seq ps => allPoints ps
  | .choice ps => allPoints ps
  | .repeat _ max _ p => max == some 0 || p.isPoint
  | .group _ p => p.isPoint

def allPoints : List Pattern → Bool
  | [] => true
  | p :: ps => p.isPoint && allPoints ps

end

mutual

def canBePoint : Pattern → Bool
  | .empty | .look _ => true
  | .one _ => false
  | .seq ps => allCanBePoint ps
  | .choice ps => someCanBePoint ps
  | .repeat min _ _ p => min == 0 || p.canBePoint
  | .group _ p => p.canBePoint

def allCanBePoint : List Pattern → Bool
  | [] => true
  | p :: ps => p.canBePoint && allCanBePoint ps

def someCanBePoint : List Pattern → Bool
  | [] => false
  | p :: ps => p.canBePoint || someCanBePoint ps

end

mutual

def depth : Pattern → Nat
  | .empty | .one _ | .look _ => 0
  | .seq ps => depths ps + 1
  | .choice ps => depths ps + 1
  | .repeat _ _ _ p => p.depth + 1
  | .group _ p => p.depth + 1

def depths : List Pattern → Nat
  | [] => 0
  | p :: ps => max p.depth (depths ps)

end

mutual

/-- The size of the program for a pattern, a set counted by its ranges. -/
def cost : Pattern → Nat
  | .empty | .look _ => 1
  | .one set => if set.length ≤ 1 then 1 else 2 * set.length
  | .seq ps => costs ps
  | .choice ps => costs ps + 1
  | .repeat min max _ p => (p.cost + 1) * (max.getD (min + 1))
  | .group _ p => p.cost + 2

def costs : List Pattern → Nat
  | [] => 0
  | p :: ps => p.cost + costs ps

end

/-- A repetition. Rounds that cannot take up characters are worth no more than
one, and one round needs no repetition. -/
def repeated (min : Nat) (max : Option Nat) (greedy : Bool) (body : Pattern) :
    Pattern :=
  let (min, max) :=
    if body.isPoint then (Nat.min min 1, some (Nat.min (max.getD 1) 1))
    else (min, max)
  if max = some 0 then .empty
  else if min = 1 ∧ max = some 1 then body
  else .repeat min max greedy body

def sequence : List Pattern → Pattern
  | [] => .empty
  | [p] => p
  | ps => .seq ps

/-- One of several patterns, the earlier preferred. -/
def oneOf : List Pattern → Pattern
  | [] => .empty
  | [p] => p
  | ps => .choice ps

end Pattern
end Regex
end Phrasebook
