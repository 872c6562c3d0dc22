import Phrasebook.Unicode.CaseTable
import Phrasebook.Unicode.Grapheme

/-!
# Upper and lower case

Case mapping is the full mapping of Unicode without regard to any language: a
character may become several, and a capital sigma at the end of a word becomes
the final small sigma. A text is capitalised by mapping its first grapheme
cluster to upper case.
-/

namespace Phrasebook
namespace Text

/-- The mapping of one character by a table of sequences and a table of runs. -/
def mapCase (sequences : List (Nat × List Nat)) (runs : List Unicode.CaseRun)
    (c : Char) :
    List Char :=
  match sequences.lookup c.toNat with
  | some codes => codes.map Char.ofNat
  | none =>
    match runs.findSome? (·.image? c.toNat) with
    | some n => [Char.ofNat n]
    | none => [c]

def upperChar (c : Char) : List Char :=
  if c.toNat < 128 then [c.toUpper]
  else mapCase Unicode.upperSequences Unicode.upperRuns c

/-- The lower case of one character, apart from the final sigma. -/
def lowerChar (c : Char) : List Char :=
  if c.toNat < 128 then [c.toLower]
  else mapCase Unicode.lowerSequences Unicode.lowerRuns c

def isCased (c : Char) : Bool :=
  Unicode.Ranges.mem Unicode.casedRanges c.toNat

/-- A character that is passed over when the neighbours of a sigma are looked
for. -/
def isCaseIgnorable (c : Char) : Bool :=
  Unicode.Ranges.mem Unicode.caseIgnorableRanges c.toNat

def casedNext : List Char → Bool
  | [] => false
  | c :: rest => if isCaseIgnorable c then casedNext rest else isCased c

/-- The lower case of a text; `casedBefore` says whether the last character that
counts before it has a case. -/
def lowerFrom (casedBefore : Bool) : List Char → List Char
  | [] => []
  | c :: rest =>
    let casedHere := if isCaseIgnorable c then casedBefore else isCased c
    let lower :=
      if c = 'Σ' then [if casedBefore && !casedNext rest then 'ς' else 'σ']
      else lowerChar c
    lower ++ lowerFrom casedHere rest

def upcase (s : String) : String :=
  String.ofList (s.toList.flatMap upperChar)

def downcase (s : String) : String :=
  String.ofList (lowerFrom false s.toList)

/-- The text with its first grapheme cluster in upper case. -/
def capitalize (s : String) : String :=
  let (first, rest) := Unicode.firstCluster s.toList
  String.ofList (first.flatMap upperChar ++ rest)

end Text
end Phrasebook
