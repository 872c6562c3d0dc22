/-!
# Finding, replacing and splitting

The search for one text in another runs from left to right, and a hit is passed
over before the search goes on, so hits do not overlap. Patterns and separators
are never empty here. Each function is recursive on the text alone: a counter
says how many characters of the last hit are still to be passed over.
-/

namespace Phrasebook
namespace Text

/-- The text with each hit of `old` replaced, the first `skip` characters being
passed over. -/
def replaceFrom (old new : List Char) : Nat → List Char → List Char
  | _, [] => []
  | skip + 1, _ :: rest => replaceFrom old new skip rest
  | 0, c :: rest =>
    if old.isPrefixOf (c :: rest) then
      new ++ replaceFrom old new (old.length - 1) rest
    else
      c :: replaceFrom old new 0 rest

def replaceChars (s old new : List Char) : List Char :=
  replaceFrom old new 0 s

/-- The text with each hit of `old` replaced by `new`. -/
def replace (s old new : String) : String :=
  String.ofList (replaceChars s.toList old.toList new.toList)

def hasPart (part : List Char) : List Char → Bool
  | [] => part.isEmpty
  | c :: rest => part.isPrefixOf (c :: rest) || hasPart part rest

def contains (s part : String) : Bool :=
  hasPart part.toList s.toList

/-- The pieces between the hits of `mark`, the first `skip` characters being
passed over. -/
def splitFrom (mark : List Char) : Nat → List Char → List (List Char)
  | _, [] => [[]]
  | skip + 1, _ :: rest => splitFrom mark skip rest
  | 0, c :: rest =>
    if mark.isPrefixOf (c :: rest) then
      [] :: splitFrom mark (mark.length - 1) rest
    else
      match splitFrom mark 0 rest with
      | [] => [[c]]
      | piece :: pieces => (c :: piece) :: pieces

/-- The pieces between the hits of `mark`; one more than there are hits. -/
def splitChars (mark : List Char) (s : List Char) : List (List Char) :=
  splitFrom mark 0 s

/-- What stands before and after the first hit of `mark`. -/
def cut? (mark : List Char) : List Char → Option (List Char × List Char)
  | [] => if mark.isEmpty then some ([], []) else none
  | c :: rest =>
    if mark.isPrefixOf (c :: rest) then
      some ([], (c :: rest).drop mark.length)
    else
      (cut? mark rest).map fun (before, after) => (c :: before, after)

/-- The lengths found by `scan?`, as the stretches themselves: at each place the
longest claim of `scan?` is taken and passed over, and a place without one is
skipped. -/
def claimsFrom (scan? : List Char → Option Nat) :
    Nat → List Char → List (List Char)
  | _, [] => []
  | skip + 1, _ :: rest => claimsFrom scan? skip rest
  | 0, c :: rest =>
    match scan? (c :: rest) with
    | some n => (c :: rest).take n :: claimsFrom scan? (n - 1) rest
    | none => claimsFrom scan? 0 rest

/-- All stretches that `scan?` claims, from left to right without overlap. -/
def claims (scan? : List Char → Option Nat) (s : List Char) :
    List (List Char) :=
  claimsFrom scan? 0 s

/-- The texts one after another with `mark` between them. -/
def join (mark : String) : List String → String
  | [] => ""
  | [s] => s
  | s :: rest => s ++ mark ++ join mark rest

end Text
end Phrasebook
