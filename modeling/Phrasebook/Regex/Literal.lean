import Phrasebook.Regex.Search

/-!
# Pattern literals and replacement

A rule writes a regular expression as `/pattern/` with flags behind it, of which
`i` makes it blind to case; without the leading slash the whole text is the
pattern. A replacement refers to the groups of a match by number or name.
-/

namespace Phrasebook
namespace Regex

/-- The pattern in a literal, and whether it is blind to case. The last slash
ends the pattern. -/
def splitLiteral (s : List Char) : List Char × Bool :=
  match s with
  | '/' :: body =>
    let flags := (body.reverse.takeWhile (· != '/')).reverse
    if body.contains '/' then
      (body.take (body.length - flags.length - 1), flags.contains 'i')
    else (body, false)
  | _ => (s, false)

def patternOf (literal : String) : String :=
  String.ofList (splitLiteral literal.toList).1

/-- A pattern that cannot be used, and what the engine says about it. The
engine here says nothing. -/
structure Fault where
  pattern : String
  diagnosis : Option String
  deriving DecidableEq, Repr

/-- Where a text is wanted, a fault is named by its pattern. -/
instance : Coe Fault String := ⟨Fault.pattern⟩

/-- The program for a literal, or what is wrong with its pattern. -/
def ofLiteral (literal : String) : Except Fault Program :=
  let (pattern, caseless) := splitLiteral literal.toList
  match read? caseless (String.ofList pattern) with
  | some e => .ok (Program.ofExpression e)
  | none => .error ⟨patternOf literal, none⟩

inductive Part where
  | text (c : Char)
  | numbered (index : Nat)
  | named (label : String)

/-- The group that a reference names: a number if it reads as one, else a
name. -/
def reference (cs : List Char) : Part :=
  let digits :=
    match cs with
    | '+' :: rest => rest
    | _ => cs
  match Integer.nat? digits with
  | some n => if n < UInt64.size then .numbered n else .named (String.ofList cs)
  | none => .named (String.ofList cs)

def isReferenceChar (c : Char) : Bool :=
  c.isAlphanum || c == '_'

/-- The reference after a dollar sign and the characters it takes up, if there
is one. -/
def reference? (s : List Char) : Option (Part × Nat) :=
  match s with
  | '\x7b' :: body =>
    let name := body.takeWhile (· != '\x7d')
    if body.contains '\x7d' then some (reference name, name.length + 2)
    else none
  | _ =>
    let name := s.takeWhile isReferenceChar
    if name.isEmpty then none else some (reference name, name.length)

def partsFrom : (skip : Nat) → List Char → List Part
  | _, [] => []
  | skip + 1, _ :: rest => partsFrom skip rest
  | 0, c :: rest =>
    if c = '$' then
      if rest.head? = some '$' then .text '$' :: partsFrom 1 rest
      else
        match reference? rest with
        | some (part, size) => part :: partsFrom size rest
        | none => .text '$' :: partsFrom 0 rest
    else
      .text c :: partsFrom 0 rest

def Part.expand (p : Program) (text : List Char) (m : Match) : Part → List Char
  | .text c => [c]
  | .numbered index => m.group text index
  | .named label =>
    match p.names.lookup label with
    | some index => m.group text index
    | none => []

/-- The text from `start` on with each match replaced. -/
def Program.splice (p : Program) (text : List Char) (parts : List Part)
    (start : Nat) :
    List Match → List Char
  | [] => text.drop start
  | m :: ms =>
    (text.drop start).take (m.first - start) ++ parts.flatMap
    (Part.expand p text m) ++
      splice p text parts m.last ms

def Program.replaceAll (p : Program) (text replacement : String) : String :=
  let chars := text.toList
  String.ofList
    (p.splice chars (partsFrom 0 replacement.toList) 0 (p.allMatches chars))

def Program.matchesText (p : Program) (text : String) : Bool :=
  p.isMatch text.toList

def Program.firstText? (p : Program) (text : String) : Option String :=
  let chars := text.toList
  (p.matchAt? chars 0).map fun m => String.ofList (m.group chars 0)

end Regex
end Phrasebook
