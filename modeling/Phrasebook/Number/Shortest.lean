import Phrasebook.Number.Integer

/-!
# The shortest text of a real number

A double is written with the fewest decimal digits that read back as the same
double, and of those with the digits nearest to it. The number is taken apart
into `mantissa · 2 ^ exponent`, and every comparison is made in exact arithmetic
on the interval of numbers that round to it.

The digits are always written in positional notation: no exponent, and no point
where the number is whole.
-/

namespace Phrasebook
namespace Real

/-- A number `num / den` with the bounds `lo / den` and `hi / den` of the
numbers that round to it; `closed` says whether the bounds round to it as
well. -/
structure Interval where
  lo : Nat
  num : Nat
  hi : Nat
  den : Nat
  closed : Bool

/-- The numbers that round to the positive finite double
`mantissa · 2 ^ exponent`. Below a power of two the doubles lie twice as
close. -/
def Interval.ofParts (mantissa : Nat) (exponent : Int) : Interval :=
  let below := if mantissa = 1 <<< 52 ∧ exponent > -1074 then 1 else 2
  let up := 1 <<< (exponent - 2).toNat
  { lo := (4 * mantissa - below) * up
    num := 4 * mantissa * up
    hi := (4 * mantissa + 2) * up
    den := 1 <<< (2 - exponent).toNat
    closed := mantissa % 2 = 0 }

/-- Whether `a / b` rounds to the number of the interval. -/
def Interval.holds (i : Interval) (a b : Nat) : Bool :=
  let x := a * i.den
  if i.closed then i.lo * b ≤ x && x ≤ i.hi * b else i.lo * b < x &&
    x < i.hi * b

/-- The power of ten of the leading digit of the number. -/
def Interval.leadingPower (i : Interval) : Int :=
  if i.num ≥ i.den then
    ((Integer.natDigits (i.num / i.den)).length : Int) - 1
  else
    -((Integer.natDigits ((i.den - 1) / i.num)).length : Int)

/-- The nearest multiple of `10 ^ power` that rounds to the number, as the
multiplier. -/
def Interval.onGrid? (i : Interval) (power : Int) : Option Nat :=
  let a := Nat.pow 10 power.toNat
  let b := Nat.pow 10 (-power).toNat
  let below := i.num * b / (i.den * a)
  let above := below + 1
  let okBelow := i.holds (below * a) b
  let okAbove := i.holds (above * a) b
  let nearBelow := 2 * (i.num * b) < (2 * below + 1) * (i.den * a) ||
    (2 * (i.num * b) == (2 * below + 1) * (i.den * a) && below % 2 == 0)
  match okBelow, okAbove with
  | true, true => some (if nearBelow then below else above)
  | true, false => some below
  | false, true => some above
  | false, false => none

/-- The digits and the power of ten of the last digit, on the coarsest grid that
has a hit. Of the seventeen grids tried the last always has one. -/
def Interval.shortest (i : Interval) : Nat × Int :=
  let top := i.leadingPower
  match (List.range 17).findSome? fun (k : Nat) =>
      let power := top - (k : Int)
      (i.onGrid? power).map fun d => (d, power) with
  | some found => found
  | none => (0, 0)

/-- The number `digits · 10 ^ power` in positional notation, without trailing
zeros after the point. -/
def positional (digits : Nat) (power : Int) : List Char :=
  let ds := Integer.natDigits digits
  if power ≥ 0 then
    ds ++ List.replicate power.toNat '0'
  else
    let places := (-power).toNat
    let padded := List.replicate (places + 1 - ds.length) '0' ++ ds
    let whole := padded.take (padded.length - places)
    let fraction :=
      ((padded.drop (padded.length - places)).reverse.dropWhile
        (· == '0')).reverse
    if fraction.isEmpty then whole else whole ++ '.' :: fraction

def digits (x : Float) : List Char :=
  let bits := x.toBits.toNat
  let sign := if bits ≥ 1 <<< 63 then ['-'] else []
  let biased := (bits >>> 52) % (1 <<< 11)
  let fraction := bits % (1 <<< 52)
  if biased = 0x7FF then
    if fraction = 0 then sign ++ ['i', 'n', 'f'] else ['N', 'a', 'N']
  else if biased = 0 ∧ fraction = 0 then
    sign ++ ['0']
  else
    let (mantissa, exponent) : Nat × Int :=
      if biased = 0 then (fraction, -1074)
      else (1 <<< 52 + fraction, (biased : Int) - 1075)
    let (d, power) := (Interval.ofParts mantissa exponent).shortest
    sign ++ positional d power

def text (x : Float) : String :=
  String.ofList (digits x)

end Real
end Phrasebook
