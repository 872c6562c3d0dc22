import Phrasebook.Number.Integer
import Phrasebook.Text.Blank

/-!
# Moments of the calendar

A moment is a day of the Gregorian calendar with a time of day, to the
nanosecond and without a time zone. Second 60 is a leap second and comes after
all of second 59. The module reads the two literal forms `2024-03-15` and
`2024-03-15 10:20:30`, writes the second, and orders moments.
-/

namespace Phrasebook

/-- A day and a time of day. -/
structure Moment where
  year : Int
  month : Nat
  day : Nat
  hour : Nat
  minute : Nat
  second : Nat
  nanosecond : Nat
  deriving DecidableEq, Repr, Inhabited

namespace Moment

def isLeapYear (year : Int) : Bool :=
  year % 4 = 0 && (year % 100 ≠ 0 || year % 400 = 0)

/-- The number of days of a month, zero for a month that does not exist. -/
def daysIn (year : Int) (month : Nat) : Nat :=
  if month = 2 then (if isLeapYear year then 29 else 28)
  else if month = 4 ∨ month = 6 ∨ month = 9 ∨ month = 11 then 30
  else if 1 ≤ month ∧ month ≤ 12 then 31
  else 0

/-- A moment of the calendar: the day exists, the year is one that can be
counted in days, and the time of day is on the clock. -/
def isValid (m : Moment) : Bool :=
  -262143 ≤ m.year && m.year ≤ 262142 && 1 ≤ m.day &&
    m.day ≤ daysIn m.year m.month &&
    m.hour ≤ 23 && m.minute ≤ 59 && m.second ≤ 60 && m.nanosecond < 1000000000

def midnight (m : Moment) : Moment :=
  { m with hour := 0, minute := 0, second := 0, nanosecond := 0 }

def compare (a b : Moment) : Ordering :=
  (Ord.compare a.year b.year).then <|
  (Ord.compare a.month b.month).then <|
  (Ord.compare a.day b.day).then <|
  (Ord.compare a.hour b.hour).then <|
  (Ord.compare a.minute b.minute).then <|
  (Ord.compare a.second b.second).then <|
  Ord.compare a.nanosecond b.nanosecond

/-! ## Reading -/

/-- A number of at most `width` digits, after any blanks, and what follows
it. -/
def number? (width : Nat) (s : List Char) : Option (Nat × List Char) :=
  let s := Text.trimLeft s
  let ds := (s.take width).takeWhile Char.isDigit
  (Integer.nat? ds).map fun n => (n, s.drop ds.length)

/-- A year: four digits at most, or any number of digits after a sign. -/
def year? (s : List Char) : Option (Int × List Char) :=
  match Text.trimLeft s with
  | '-' :: rest => (signed? rest).map fun (n, after) => (-(n : Int), after)
  | '+' :: rest => (signed? rest).map fun (n, after) => ((n : Int), after)
  | rest => (number? 4 rest).map fun (n, after) => ((n : Int), after)
where
  /-- The digits that follow a sign, directly. -/
  signed? (rest : List Char) : Option (Nat × List Char) :=
    let ds := rest.takeWhile Char.isDigit
    (Integer.nat? ds).map fun n => (n, rest.drop ds.length)

/-- The text after the mark that must come next. -/
def after? (mark : Char) : List Char → Option (List Char)
  | [] => none
  | c :: rest => if c = mark then some rest else none

/-- A day, `year-month-day`, and what follows it. -/
def day? (s : List Char) : Option (Moment × List Char) := do
  let (year, s) ← year? s
  let s ← after? '-' s
  let (month, s) ← number? 2 s
  let s ← after? '-' s
  let (day, s) ← number? 2 s
  pure
    ({ year, month, day, hour := 0, minute := 0, second := 0, nanosecond := 0 },
      s)

/-- A day and a time of day, `year-month-day hour:minute:second`, and what
follows it. The gap between them may be of any length. -/
def dayTime? (s : List Char) : Option (Moment × List Char) := do
  let (date, s) ← day? s
  let (hour, s) ← number? 2 s
  let s ← after? ':' s
  let (minute, s) ← number? 2 s
  let s ← after? ':' s
  let (second, s) ← number? 2 s
  pure ({ date with hour, minute, second }, s)

def whole? : Option (Moment × List Char) → Option Moment
  | some (m, []) => if m.isValid then some m else none
  | _ => none

/-- The first moment of the day with the given text, blanks around it aside. -/
def ofDate? (s : List Char) : Option Moment :=
  whole? (day? (Text.trimBoth s))

def ofTime? (s : List Char) : Option Moment :=
  whole? (dayTime? (Text.trimBoth s))

/-! ## Writing -/

def padded (width : Nat) (n : Nat) : List Char :=
  let ds := Integer.natDigits n
  List.replicate (width - ds.length) '0' ++ ds

/-- A year: four digits at least, with a sign outside of 0 to 9999. -/
def yearText (year : Int) : List Char :=
  if 0 ≤ year ∧ year ≤ 9999 then padded 4 year.toNat
  else (if year < 0 then '-' else '+') :: padded 4 year.natAbs

/-- A fraction of a second: nothing, or as many groups of three digits as it
needs. -/
def fractionText (nanosecond : Nat) : List Char :=
  if nanosecond = 0 then []
  else if nanosecond % 1000000 = 0 then '.' :: padded 3 (nanosecond / 1000000)
  else if nanosecond % 1000 = 0 then '.' :: padded 6 (nanosecond / 1000)
  else '.' :: padded 9 nanosecond

/-- The characters of `year-month-day hour:minute:second` with the fraction, if
any. -/
def chars (m : Moment) : List Char :=
  yearText m.year ++ ('-' :: padded 2 m.month) ++ ('-' :: padded 2 m.day) ++
    (' ' :: padded 2 m.hour) ++ (':' :: padded 2 m.minute) ++
    (':' :: padded 2 m.second) ++
    fractionText m.nanosecond

def text (m : Moment) : String :=
  String.ofList m.chars

/-- The moment with the given text, which may have a fraction of up to nine
digits. -/
def read? (s : List Char) : Option Moment :=
  match dayTime? s with
  | some (m, '.' :: fraction) =>
    if fraction.length ≤ 9 then
      (Integer.nat? fraction).bind fun n =>
        whole?
          (some ({ m with nanosecond := n * Nat.pow 10 (9 - fraction.length) },
            []))
    else
      none
  | other => whole? other

end Moment
end Phrasebook
