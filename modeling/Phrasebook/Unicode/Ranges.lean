/-!
# Sets of characters as ranges

A set of characters is a list of inclusive ranges of code points. The tables of
this folder list them in ascending order without overlap, which is what
membership relies on.
-/

namespace Phrasebook
namespace Unicode

/-- Ascending, disjoint, inclusive ranges of code points. -/
abbrev Ranges := List (Nat × Nat)

namespace Ranges

/-- Whether a code point lies in one of the ranges. The search stops at the
first range that lies above it. -/
def mem : Ranges → Nat → Bool
  | [], _ => false
  | (lo, hi) :: rest, n => if n < lo then false else n ≤ hi || mem rest n

@[simp] theorem mem_nil (n : Nat) : mem [] n = false := rfl

theorem mem_cons (lo hi n : Nat) (rest : Ranges) :
    mem ((lo, hi) :: rest) n = if n < lo then false else n ≤ hi || mem rest n :=
  rfl

end Ranges

end Unicode
end Phrasebook
