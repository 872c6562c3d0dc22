/-!
# Suggestions for unknown names

An unknown name is answered with the known names closest to it by edit distance:
up to three, the closest first and names of one distance in alphabetical order.
A name of three characters or fewer may be one edit off, a longer one two.
-/

namespace Phrasebook
namespace Suggestion

/-- The next row of the table of distances. `left` is the entry just computed,
`row` the rest of the row above from the entry diagonally before. -/
def nextEntries (c : Char) :
    (left : Nat) → List Char → (row : List Nat) → List Nat
  | left, d :: ds, diagonal :: above :: row =>
    let entry :=
      min (min (left + 1) (above + 1))
        (if c = d then diagonal else diagonal + 1)
    entry :: nextEntries c entry ds (above :: row)
  | _, _, _ => []

/-- The row of distances to the prefixes of `t` after one more character of the
other text. -/
def nextRow (t : List Char) (row : List Nat) (c : Char) : List Nat :=
  let first := row.headD 0 + 1
  first :: nextEntries c first t row

/-- The number of single-character insertions, deletions and replacements
between two texts. -/
def distance (s t : List Char) : Nat :=
  (s.foldl (nextRow t) (List.range (t.length + 1))).getLastD 0

/-- How far a suggestion may be from the name. -/
def reach (name : String) : Nat :=
  if name.length ≤ 3 then 1 else 2

/-- Whether a candidate with its distance goes before another: the closer first,
then in order of the characters. -/
def goesBefore (a b : Nat × String) : Bool :=
  a.1 < b.1 || (a.1 == b.1 && !decide (b.2 < a.2))

/-- The known names within reach of `name` but not equal to it, each with its
distance. -/
def candidates (name : String) (known : List String) : List (Nat × String) :=
  (known.map fun k => (distance name.toList k.toList, k)).filter fun c =>
    0 < c.1 && c.1 ≤ reach name

def suggest (name : String) (known : List String) : List String :=
  (((candidates name known).mergeSort goesBefore).take 3).map Prod.snd

end Suggestion
end Phrasebook
