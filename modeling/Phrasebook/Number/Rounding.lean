import Phrasebook.Number.Integer

/-!
# Reading real numbers

A decimal text names a rational number exactly. It is rounded once, to the
nearest double, a tie going to the even mantissa; numbers beyond the largest
double become infinite. Everything up to the final bit pattern is exact
arithmetic on natural numbers.
-/

namespace Phrasebook
namespace Real

/-- `num / den` rounded to the nearest natural number, a tie going to the even
one. -/
def divEven (num den : Nat) : Nat :=
  let q := num / den
  let r := num % den
  if 2 * r > den ∨ (2 * r = den ∧ q % 2 = 1) then q + 1 else q

/-- The exponent of the leading bit of `num / den`, for positive `num` and
`den`. -/
def leadingBit (num den : Nat) : Int :=
  let l : Int := (num.log2 : Int) - den.log2
  let below := if l ≥ 0 then num < den <<< l.toNat else num <<< (-l).toNat < den
  if below then l - 1 else l

/-- The bit pattern of the double nearest to the positive number `num / den`. -/
def bitsOfRatio (num den : Nat) : UInt64 :=
  let q : Int := max (leadingBit num den - 52) (-1074)
  let m :=
    if q ≥ 0 then divEven num (den <<< q.toNat)
    else divEven (num <<< (-q).toNat) den
  let (m, q) := if m = 1 <<< 53 then (1 <<< 52, q + 1) else (m, q)
  if q > 971 then
    0x7FF0000000000000
  else if m < 1 <<< 52 then
    UInt64.ofNat m
  else
    UInt64.ofNat (((q + 1075).toNat <<< 52) + (m - 1 <<< 52))

/-- The double nearest to `mantissa · 10 ^ exponent`. -/
def ofDecimal (negative : Bool) (mantissa : Nat) (exponent : Int) : Float :=
  let size : Int := (Integer.natDigits mantissa).length + exponent
  let bits : UInt64 :=
    if mantissa = 0 ∨ size < -400 then 0
    else if size > 400 then 0x7FF0000000000000
    else if exponent ≥ 0 then
      bitsOfRatio (mantissa * Nat.pow 10 exponent.toNat) 1
    else bitsOfRatio mantissa (Nat.pow 10 (-exponent).toNat)
  Float.ofBits (if negative then bits ||| 0x8000000000000000 else bits)

def splitSign : List Char → Bool × List Char
  | '-' :: s => (true, s)
  | '+' :: s => (false, s)
  | s => (false, s)

/-- The exponent written after a mantissa: nothing, or `e` with a signed run of
digits. -/
def exponent? : List Char → Option Int
  | [] => some 0
  | c :: s =>
    if c = 'e' ∨ c = 'E' then
      let (negative, digits) := splitSign s
      (Integer.nat? digits).map fun (n : Nat) =>
        if negative then -(n : Int) else n
    else
      none

/-- A decimal number without its sign: digits with or without a point among
them, then an exponent. -/
def unsigned? (negative : Bool) (s : List Char) : Option Float :=
  let whole := s.takeWhile Char.isDigit
  let rest := s.dropWhile Char.isDigit
  let (fraction, rest) :=
    match rest with
    | '.' :: after =>
      (after.takeWhile Char.isDigit, after.dropWhile Char.isDigit)
    | _ => ([], rest)
  do
    let mantissa ← Integer.nat? (whole ++ fraction)
    let exponent ← exponent? rest
    pure (ofDecimal negative mantissa (exponent - fraction.length))

/-- The double with the given text: a decimal number, `inf`, `infinity` or `nan`
in any case, with or without a sign. -/
def read? (s : List Char) : Option Float :=
  let (negative, body) := splitSign s
  let lower := body.map Char.toLower
  if lower = ['i', 'n', 'f'] ∨
    lower = ['i', 'n', 'f', 'i', 'n', 'i', 't', 'y'] then
    some (Float.ofBits
      (if negative then 0xFFF0000000000000 else 0x7FF0000000000000))
  else if lower = ['n', 'a', 'n'] then
    some (Float.ofBits
      (if negative then 0xFFF8000000000000 else 0x7FF8000000000000))
  else
    unsigned? negative body

end Real
end Phrasebook
