import Phrasebook.Label.Pattern

/-!
# Finding the tokens of a label

The kinds of token are looked for one after the other, the most special first,
and what one kind has claimed is taken out of the text before the next is looked
for. So a piped token is never seen as a data token too.
-/

namespace Phrasebook

inductive TokenKind where
  | piped
  | method
  | data
  deriving DecidableEq, Repr

namespace TokenKind

/-- All kinds, the most special first. -/
def all : List TokenKind :=
  [.piped, .method, .data]

def behind? : TokenKind → List Char → Option (List Char)
  | .piped => Label.behindPiped?
  | .method => Label.behindMethod?
  | .data => Label.behindData?

def token : TokenKind → (label full : String) → Token
  | .piped => Token.ofPiped
  | .method => Token.ofMethod
  | .data => Token.ofData

/-- The stretches of a text that are tokens of a kind, from left to right. -/
def found (k : TokenKind) (s : List Char) : List (List Char) :=
  Text.claims (Label.extent? k.behind?) s

end TokenKind

namespace Label

/-- The text with every stretch of the list taken out, one after the other. -/
def without (s : List Char) (stretches : List (List Char)) : List Char :=
  stretches.foldl (fun s part => Text.replaceChars s part []) s

/-- The stretches that each kind claims, in order, from a text. -/
def claimed : List TokenKind → List Char → List (TokenKind × List Char)
  | [], _ => []
  | k :: kinds, s =>
    let found := k.found s
    found.map (fun part => (k, part)) ++ claimed kinds (without s found)

/-- The list without later entries for a stretch that was claimed before. -/
def firstClaims (seen : List (List Char)) :
    List (TokenKind × List Char) → List (TokenKind × List Char)
  | [] => []
  | (k, part) :: rest =>
    if seen.contains part then firstClaims seen rest
    else (k, part) :: firstClaims (part :: seen) rest

/-- The distinct tokens of a label, kind by kind and then in the order in which
they appear. -/
def tokens (label : String) : List Token :=
  (firstClaims [] (claimed TokenKind.all label.toList)).map fun (k, part) =>
    k.token label (String.ofList part)

end Label
end Phrasebook
