/-!
# Sixty-four bit integers and their decimal text

Counts are signed sixty-four bit integers. An operation is carried out on the
integers without a bound and its result taken only if it fits, so nothing ever
wraps. The decimal text of an integer has no leading zeros and no plus sign;
reading accepts both, and refuses what does not fit.
-/

namespace Phrasebook
namespace Integer

def ofInt? (n : Int) : Option Int64 :=
  if Int64.minValue.toInt ≤ n ∧ n ≤ Int64.maxValue.toInt then
    some (Int64.ofInt n)
  else none

theorem toInt_of_ofInt? {n : Int} {m : Int64} (h : ofInt? n = some m) :
    m.toInt = n := by
  unfold ofInt? at h
  split at h
  · rename_i hn
    obtain rfl := Option.some.inj h
    rw [Int64.toInt_minValue, Int64.toInt_maxValue] at hn
    exact Int64.toInt_ofInt_of_le (by omega) (by omega)
  · simp at h

theorem ofInt?_toInt (m : Int64) : ofInt? m.toInt = some m := by
  have hrange : Int64.minValue.toInt ≤ m.toInt ∧
      m.toInt ≤ Int64.maxValue.toInt :=
    ⟨m.minValue_le_toInt, m.toInt_le⟩
  rw [ofInt?, if_pos hrange, Int64.ofInt_toInt]

def natDigits (n : Nat) : List Char :=
  Nat.toDigits 10 n

def digits (n : Int64) : List Char :=
  if n.toInt < 0 then '-' :: natDigits n.toInt.natAbs
  else natDigits n.toInt.natAbs

def text (n : Int64) : String :=
  String.ofList (digits n)

/-- The number that a run of decimal digits stands for, continued from `acc`. -/
def natFrom? (acc : Nat) : List Char → Option Nat
  | [] => some acc
  | c :: rest =>
    if c.isDigit then natFrom? (10 * acc + (c.toNat - '0'.toNat)) rest else none

/-- The natural number with the given decimal text; any number of leading zeros,
no sign. -/
def nat? (s : List Char) : Option Nat :=
  if s.isEmpty then none else natFrom? 0 s

/-- The integer with the given decimal text, which may have a sign, if it
fits. -/
def read? : List Char → Option Int64
  | '-' :: s => (nat? s).bind fun n => ofInt? (-n)
  | '+' :: s => (nat? s).bind fun n => ofInt? n
  | s => (nat? s).bind fun n => ofInt? n

def add? (a b : Int64) : Option Int64 :=
  ofInt? (a.toInt + b.toInt)

def sub? (a b : Int64) : Option Int64 :=
  ofInt? (a.toInt - b.toInt)

def mul? (a b : Int64) : Option Int64 :=
  ofInt? (a.toInt * b.toInt)

/-- The quotient rounded toward zero; none for a zero divisor or out of
range. -/
def div? (a b : Int64) : Option Int64 :=
  if b = 0 then none else ofInt? (a.toInt.tdiv b.toInt)

/-- The remainder of the quotient rounded toward zero; none where that quotient
does not exist. -/
def rem? (a b : Int64) : Option Int64 :=
  if b = 0 then none else (div? a b).bind fun _ => ofInt? (a.toInt.tmod b.toInt)

end Integer
end Phrasebook
