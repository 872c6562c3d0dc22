import Phrasebook.Text.Blank
import Phrasebook.Unicode.Age
import Phrasebook.Unicode.Category
import Phrasebook.Unicode.ClusterBreak
import Phrasebook.Unicode.Folding
import Phrasebook.Unicode.Property
import Phrasebook.Unicode.Script
import Phrasebook.Unicode.ScriptUse
import Phrasebook.Unicode.SentenceBreak
import Phrasebook.Unicode.WordBreak

/-!
# Sets of characters in regular expressions

A set is kept as ascending ranges that neither overlap nor touch, which the set
operations restore. The module also holds the sets that a pattern can call by
name.
-/

namespace Phrasebook
namespace Regex

abbrev CharSet := Unicode.Ranges

namespace CharSet

/-- Ranges in ascending order with overlapping and touching ones joined; `lo`
and `hi` bound the range being collected. -/
def joinFrom (lo hi : Nat) : List (Nat × Nat) → CharSet
  | [] => [(lo, hi)]
  | (lo', hi') :: rest =>
    if lo' ≤ hi + 1 then joinFrom lo (max hi hi') rest
    else (lo, hi) :: joinFrom lo' hi' rest

def ofRanges (rs : List (Nat × Nat)) : CharSet :=
  match rs.mergeSort fun a b => a.1 < b.1 || (a.1 == b.1 && a.2 ≤ b.2) with
  | [] => []
  | (lo, hi) :: rest => joinFrom lo hi rest

def single (c : Char) : CharSet :=
  [(c.toNat, c.toNat)]

def union (a b : CharSet) : CharSet :=
  ofRanges (a ++ b)

/-- The code points from `next` up to `top` that are not in the set. -/
def gapsFrom (next top : Nat) : CharSet → CharSet
  | [] => if next ≤ top then [(next, top)] else []
  | (lo, hi) :: rest =>
    if next < lo then (next, lo - 1) :: gapsFrom (hi + 1) top rest
    else gapsFrom (hi + 1) top rest

/-- The code points up to `top` that are not in the set. -/
def complement (top : Nat) (a : CharSet) : CharSet :=
  gapsFrom 0 top a

def inter (a b : CharSet) : CharSet :=
  ofRanges <| a.flatMap fun (lo, hi) => b.filterMap fun (lo', hi') =>
    if max lo lo' ≤ min hi hi' then some (max lo lo', min hi hi') else none

def diff (a b : CharSet) : CharSet :=
  inter a (complement 0x10FFFF b)

def symmDiff (a b : CharSet) : CharSet :=
  union (diff a b) (diff b a)

/-- The set with all characters that differ from a member only in case. -/
def withCases (a : CharSet) : CharSet :=
  union a ((Unicode.caseVariants (Unicode.Ranges.mem a)).map fun n => (n, n))

/-- The set with the ASCII letters that differ from a member only in case. -/
def withAsciiCases (a : CharSet) : CharSet :=
  let upper :=
    (inter a [(0x61, 0x7A)]).map fun (lo, hi) => (lo - 0x20, hi - 0x20)
  let lower :=
    (inter a [(0x41, 0x5A)]).map fun (lo, hi) => (lo + 0x20, hi + 0x20)
  ofRanges (a ++ upper ++ lower)

def blank : CharSet :=
  [(9, 13), (0x20, 0x20), (0x85, 0x85), (0xA0, 0xA0), (0x1680, 0x1680),
    (0x2000, 0x200A), (0x2028, 0x2029), (0x202F, 0x202F), (0x205F, 0x205F),
    (0x3000, 0x3000)]

def ascii? : String → Option CharSet
  | "alnum" => some [(0x30, 0x39), (0x41, 0x5A), (0x61, 0x7A)]
  | "alpha" => some [(0x41, 0x5A), (0x61, 0x7A)]
  | "ascii" => some [(0, 0x7F)]
  | "blank" => some [(9, 9), (0x20, 0x20)]
  | "cntrl" => some [(0, 0x1F), (0x7F, 0x7F)]
  | "digit" => some [(0x30, 0x39)]
  | "graph" => some [(0x21, 0x7E)]
  | "lower" => some [(0x61, 0x7A)]
  | "print" => some [(0x20, 0x7E)]
  | "punct" => some [(0x21, 0x2F), (0x3A, 0x40), (0x5B, 0x60), (0x7B, 0x7E)]
  | "space" => some [(9, 13), (0x20, 0x20)]
  | "upper" => some [(0x41, 0x5A)]
  | "word" => some [(0x30, 0x39), (0x41, 0x5A), (0x5F, 0x5F), (0x61, 0x7A)]
  | "xdigit" => some [(0x30, 0x39), (0x41, 0x46), (0x61, 0x66)]
  | _ => none

/-! ## Sets by Unicode name -/

/-- A name with case, spaces, low lines, hyphens and a leading `is` set
aside. -/
def normalName (name : List Char) : String :=
  let (isForm, body) :=
    match name with
    | i :: s :: rest =>
      if i.toLower = 'i' ∧ s.toLower = 's' then (true, rest) else (false, name)
    | _ => (false, name)
  let kept :=
    body.filter fun c => c.toNat < 128 && c != ' ' && c != '_' && c != '-'
  let lower := kept.map Char.toLower
  if isForm ∧ lower = ['c'] then "isc" else String.ofList lower

def named? {α : Type} (name : String) (table : List (List String × α)) :
    Option α :=
  (table.find? fun entry => entry.1.contains name).map Prod.snd

def ofGroups (groups : List Unicode.Ranges) : CharSet :=
  ofRanges groups.flatten

def category? (name : String) : Option CharSet :=
  match named? name Unicode.categoryNames,
    named? name Unicode.categoryGroups with
  | some set, _ => some set
  | none, some groups => some (ofGroups groups)
  | none, none =>
    match name with
    | "any" => some [(0, 0x10FFFF)]
    | "ascii" => some [(0, 0x7F)]
    | "assigned" => some (ofRanges Unicode.assignedRanges)
    | "cn" | "unassigned" =>
      some (complement 0x10FFFF (ofRanges Unicode.assignedRanges))
    | "c" | "other" =>
      let groups :=
        (Unicode.categoryGroups.filter fun g => !g.1.contains "lc").map Prod.snd
      some (complement 0x10FFFF (ofGroups groups.flatten))
    | _ => none

/-- The set that a single name stands for: a property, a category or a
script. -/
def ofName? (name : List Char) : Option CharSet :=
  let name := normalName name
  let property :=
    if name = "cf" ∨ name = "sc" ∨ name = "lc" then none
    else named? name Unicode.propertyNames
  property.orElse fun _ => (category? name).orElse fun _ =>
    named? name Unicode.scriptNames

/-- The characters that are used in a script: its own, unless they are listed as
shared by others, and those that are listed as shared by it. -/
def scriptUse? (name : String) : Option CharSet :=
  (Unicode.scriptNames.find? fun entry => entry.1.contains name).map
    fun (names, own) =>
      union (diff own (ofRanges Unicode.sharedRanges))
        (ofRanges (Unicode.sharedWith names))

/-- The characters that had a meaning in an edition of the standard: those that
were new in it or in one before. -/
def age? (name : String) : Option CharSet :=
  let before := Unicode.editions.takeWhile fun entry => !entry.1.contains name
  (named? name Unicode.editions).map fun added =>
    ofGroups (added :: before.map Prod.snd)

def ofProperty? (property value : List Char) : Option CharSet :=
  let value := normalName value
  match normalName property with
  | "gc" | "generalcategory" => category? value
  | "sc" | "script" => named? value Unicode.scriptNames
  | "scx" | "scriptextensions" => scriptUse? value
  | "age" => age? value
  | "gcb" | "graphemeclusterbreak" => named? value Unicode.clusterBreakNames
  | "wb" | "wordbreak" => named? value Unicode.wordBreakNames
  | "sb" | "sentencebreak" => named? value Unicode.sentenceBreakNames
  | _ => none

end CharSet
end Regex
end Phrasebook
