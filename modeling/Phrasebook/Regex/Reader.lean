import Phrasebook.Number.Integer
import Phrasebook.Regex.Pattern
import Phrasebook.Text.Search

/-!
# Reading patterns

The reader goes through the text of a pattern once, with the groups that are
open on a stack. Flags that are set inside a pattern hold to the end of the
group around them, across its branches. There is no look-around and there are no
back-references; whatever is not well formed is refused.
-/

namespace Phrasebook
namespace Regex

structure Flags where
  caseless : Bool := false
  multiLine : Bool := false
  dotAll : Bool := false
  swapGreed : Bool := false
  verbose : Bool := false
  crlf : Bool := false
  unicode : Bool := true

namespace Flags

def set? (f : Flags) (letter : Char) (on : Bool) : Option Flags :=
  match letter with
  | 'i' => some { f with caseless := on }
  | 'm' => some { f with multiLine := on }
  | 's' => some { f with dotAll := on }
  | 'U' => some { f with swapGreed := on }
  | 'x' => some { f with verbose := on }
  | 'R' => some { f with crlf := on }
  | 'u' => some { f with unicode := on }
  | _ => none

/-- The greatest code point that classes range over. -/
def top (f : Flags) : Nat :=
  if f.unicode then 0x10FFFF else 0xFF

/-- The set closed under case if the pattern is read without regard to it. -/
def foldCase (f : Flags) (s : CharSet) : CharSet :=
  if !f.caseless then s else if f.unicode then s.withCases else s.withAsciiCases

def negate (f : Flags) (negated : Bool) (s : CharSet) : CharSet :=
  if negated then s.complement f.top else s

/-- A class as a step of a pattern. Outside of Unicode mode it must keep to
ASCII. -/
def step? (f : Flags) (s : CharSet) : Option Pattern :=
  if f.unicode || s.all (·.2 < 0x80) then some (.one s) else none

def skipBlanks (inComment : Bool) : List Char → List Char
  | [] => []
  | c :: rest =>
    if inComment then skipBlanks (c != '\n') rest
    else if Text.isBlank c then skipBlanks false rest
    else if c = '#' then skipBlanks true rest
    else c :: rest

/-- The text after blanks and comments, where they do not count. -/
def space (f : Flags) (s : List Char) : List Char :=
  if f.verbose then skipBlanks false s else s

end Flags

/-! ## Escapes and classes -/

/-- What a single escape or character stands for. -/
inductive Atom where
  | literal (c : Char)
  | byte (n : Nat)
  | set (s : CharSet)
  | look (a : Assertion)

def isMeta (c : Char) : Bool :=
  ['\\', '.', '+', '*', '?', '(', ')', '|', '[', ']', '\x7b', '\x7d', '^', '$',
    '#', '&', '-',
    '~'].contains c

def hexValue? (c : Char) : Option Nat :=
  if c.isDigit then some (c.toNat - 0x30)
  else if 'a' ≤ c ∧ c ≤ 'f' then some (c.toNat - 0x57)
  else if 'A' ≤ c ∧ c ≤ 'F' then some (c.toNat - 0x37)
  else none

def charOf? (n : Nat) : Option Char :=
  if h : n.isValidChar then some (Char.ofNatAux n h) else none

def hexDigits? (f : Flags) :
    (count : Nat) → (acc : Nat) → List Char → Option (Nat × List Char)
  | 0, acc, s => some (acc, s)
  | count + 1, acc, s =>
    match s with
    | [] => none
    | c :: rest => (hexValue? c).bind fun d =>
      hexDigits? f count (16 * acc + d) (f.space rest)

def hexBraced? (f : Flags) : (fuel : Nat) → (acc : Option Nat) → List Char →
    Option (Nat × List Char)
  | 0, _, _ => none
  | _ + 1, _, [] => none
  | fuel + 1, acc, c :: rest =>
    if c = '\x7d' then acc.map fun n => (n, f.space rest)
    else (hexValue? c).bind fun d =>
      hexBraced? f fuel (some (min (16 * acc.getD 0 + d) 0x110000))
        (f.space rest)

/-- The code point written after `\x`, `\u` or `\U`. -/
def hex? (f : Flags) (kind : Char) (s : List Char) :
    Option (Atom × List Char) :=
  match f.space s with
  | [] => none
  | '\x7b' :: rest => do
    let (n, rest) ← hexBraced? f (rest.length + 1) none (f.space rest)
    let c ← charOf? n
    pure (.literal c, rest)
  | s => do
    let digits := if kind = 'x' then 2 else if kind = 'u' then 4 else 8
    let (n, rest) ← hexDigits? f digits 0 s
    let c ← charOf? n
    pure (if kind = 'x' ∧ n ≥ 0x80 ∧ !f.unicode then .byte n else .literal c,
      rest)

def classNameFrom? (f : Flags) :
    (fuel : Nat) → List Char → Option (List Char × List Char)
  | 0, _ => none
  | _ + 1, [] => none
  | fuel + 1, c :: rest =>
    if c = '\x7d' then some ([], rest)
    else (classNameFrom? f fuel (f.space rest)).map fun (name, after) =>
      (c :: name, after)

/-- The set that a class name, or a property with a value, stands for. -/
def namedSet? (f : Flags) (name : List Char) : Option CharSet :=
  match Text.cut? ['!', '='] name with
  | some (property, value) =>
    (CharSet.ofProperty? property value).map (CharSet.complement f.top)
  | none =>
    match Text.cut? [':'] name with
    | some (property, value) => CharSet.ofProperty? property value
    | none =>
      match Text.cut? ['='] name with
      | some (property, value) => CharSet.ofProperty? property value
      | none => CharSet.ofName? name

/-- The set written after `\p` or `\P`. -/
def unicodeClass? (f : Flags) (negated : Bool) (s : List Char) :
    Option (Atom × List Char) := do
  let (name, rest) ←
    match f.space s with
    | [] => none
    | '\\' :: _ => none
    | '\x7b' :: rest => classNameFrom? f (rest.length + 1) (f.space rest)
    | c :: rest => some ([c], f.space rest)
  if !f.unicode then none
  else do
    let s ← namedSet? f name
    pure (.set (f.negate negated (f.foldCase s)), rest)

/-- The set of `\d`, `\s` or `\w`, or what is outside of it. -/
def perlClass? (f : Flags) (c : Char) : Option CharSet :=
  let set? : Option CharSet :=
    match c.toLower with
    | 'd' =>
      if f.unicode then some Unicode.digitRanges else CharSet.ascii? "digit"
    | 's' => if f.unicode then some CharSet.blank else CharSet.ascii? "space"
    | 'w' =>
      if f.unicode then some Unicode.wordRanges else CharSet.ascii? "word"
    | _ => none
  set?.map (f.negate c.isUpper)

def wordAssertion? (ascii : Bool) : String → Option Assertion
  | "start" => some (.wordStart ascii)
  | "end" => some (.wordEnd ascii)
  | "start-half" => some (.wordStartHalf ascii)
  | "end-half" => some (.wordEndHalf ascii)
  | _ => none

/-- Letters and hyphens up to what follows them. -/
def lettersFrom (f : Flags) : (fuel : Nat) → List Char → List Char × List Char
  | 0, s => ([], s)
  | _ + 1, [] => ([], [])
  | fuel + 1, c :: rest =>
    if c.isAlpha || c == '-' then
      let (name, after) := lettersFrom f fuel (f.space rest)
      (c :: name, after)
    else
      ([], c :: rest)

/-- What `\b` stands for: a word boundary, or the assertion named in braces
behind it. Braces that do not begin with a letter are left, for they are a
repetition. -/
def boundary? (f : Flags) (s : List Char) : Option (Atom × List Char) :=
  match s with
  | '\x7b' :: rest =>
    match f.space rest with
    | [] => none
    | c :: after =>
      if c.isAlpha || c == '-' then
        match lettersFrom f (after.length + 1) (c :: after) with
        | (name, '\x7d' :: after) =>
          (wordAssertion? (!f.unicode) (String.ofList name)).map fun a =>
            (.look a, after)
        | _ => none
      else
        some (.look (.wordBoundary (!f.unicode)), s)
  | _ => some (.look (.wordBoundary (!f.unicode)), s)

def escape? (f : Flags) : List Char → Option (Atom × List Char)
  | [] => none
  | c :: rest =>
    if c.isDigit then none
    else if c = 'x' ∨ c = 'u' ∨ c = 'U' then hex? f c rest
    else if c = 'p' ∨ c = 'P' then unicodeClass? f (c = 'P') rest
    else if ['d', 's', 'w', 'D', 'S', 'W'].contains c then
      (perlClass? f c).map fun s => (.set s, rest)
    else if isMeta c then some (.literal c, rest)
    else
      match c with
      | 'a' => some (.literal '\x07', rest)
      | 'f' => some (.literal '\x0c', rest)
      | 't' => some (.literal '\t', rest)
      | 'n' => some (.literal '\n', rest)
      | 'r' => some (.literal '\r', rest)
      | 'v' => some (.literal '\x0b', rest)
      | 'A' => some (.look .textStart, rest)
      | 'z' => some (.look .textEnd, rest)
      | 'b' => boundary? f rest
      | 'B' => some (.look (.notWordBoundary (!f.unicode)), rest)
      | '<' => some (.look (.wordStart (!f.unicode)), rest)
      | '>' => some (.look (.wordEnd (!f.unicode)), rest)
      | _ => if c.toNat < 128 ∧ !c.isAlphanum then some (.literal c, rest)
          else none

/-! ## Bracketed classes -/

inductive SetOp where
  | inter
  | diff
  | symmDiff

def SetOp.apply : SetOp → CharSet → CharSet → CharSet
  | .inter, a, b => a.inter b
  | .diff, a, b => a.diff b
  | .symmDiff, a, b => a.symmDiff b

/-- A bracketed class that is open: what was collected in the class around it,
whether it is negated, the operation waiting for its right side, and what has
been collected so far. -/
structure OpenClass where
  negated : Bool
  pending : Option (SetOp × CharSet)
  items : CharSet

def OpenClass.operand (f : Flags) (k : OpenClass) : CharSet :=
  match k.pending with
  | none => k.items
  | some (op, left) => op.apply (f.foldCase left) (f.foldCase k.items)

def OpenClass.close (f : Flags) (k : OpenClass) : CharSet :=
  f.negate k.negated (f.foldCase (k.operand f))

def OpenClass.add (k : OpenClass) (s : CharSet) : OpenClass :=
  { k with items := k.items.union s }

/-- Hyphens at the beginning of a class, which stand for themselves. -/
def leadingHyphens (f : Flags) :
    (fuel : Nat) → Bool → List Char → Option (Bool × List Char)
  | 0, _, _ => none
  | _ + 1, _, [] => none
  | fuel + 1, seen, c :: rest =>
    if c = '-' then leadingHyphens f fuel true (f.space rest)
    else some (seen, c :: rest)

/-- The beginning of a class after its bracket: a negation, hyphens, and a
closing bracket that stands for itself. -/
def openClass? (f : Flags) (s : List Char) :
    Option (OpenClass × List Char) := do
  let s := f.space s
  let (negated, s) :=
    match s with
    | '^' :: rest => (true, f.space rest)
    | _ => (false, s)
  let (hyphen, s) ← leadingHyphens f (s.length + 1) false s
  let items : CharSet := if hyphen then CharSet.single '-' else []
  match s with
  | ']' :: rest =>
    if hyphen then pure ({ negated, pending := none, items }, s)
    else
      match f.space rest with
      | [] => none
      | rest =>
        pure ({ negated, pending := none, items := CharSet.single ']' }, rest)
  | _ => pure ({ negated, pending := none, items }, s)

/-- An ASCII class such as `[:alpha:]`, after its first bracket. -/
def asciiClass? (f : Flags) (s : List Char) : Option (CharSet × List Char) :=
  match s with
  | ':' :: rest =>
    let (negated, rest) :=
      match rest with
      | '^' :: more => (true, more)
      | _ => (false, rest)
    let name := rest.takeWhile (· != ':')
    match rest.drop name.length with
    | ':' :: ']' :: after =>
      (CharSet.ascii? (String.ofList name)).map fun s =>
        (f.negate negated (f.foldCase s), after)
    | _ => none
  | _ => none

def classUnit? (f : Flags) : List Char → Option (Atom × List Char)
  | [] => none
  | '\\' :: rest => escape? f rest
  | c :: rest => some (.literal c, rest)

/-- The code point of a unit that stands for a single character of a class. -/
def Atom.point? (f : Flags) : Atom → Option Nat
  | .literal c => if f.unicode ∨ c.toNat < 128 then some c.toNat else none
  | .byte n => some n
  | _ => none

def classItem? (f : Flags) (s : List Char) : Option (CharSet × List Char) := do
  let (first, rest) ← classUnit? f s
  let rest := f.space rest
  let alone : Option (CharSet × List Char) :=
    match first with
    | .set set => some (set, rest)
    | .look _ => none
    | unit => (unit.point? f).map fun n => ([(n, n)], rest)
  match rest with
  | [] => none
  | '-' :: after =>
    match f.space after with
    | [] => none
    | ']' :: _ => alone
    | '-' :: _ => alone
    | after => do
      let (last, rest) ← classUnit? f after
      let lo ← first.point? f
      let hi ← last.point? f
      if lo ≤ hi then pure ([(lo, hi)], rest) else none
  | _ => alone

/-- The rest of a bracketed class, with the classes that are open around the
innermost one. -/
def classFrom? (f : Flags) :
    (fuel : Nat) → OpenClass → List OpenClass → List Char →
    Option (CharSet × List Char)
  | 0, _, _, _ => none
  | fuel + 1, here, around, s =>
    let withOp (op : SetOp) (rest : List Char) :=
      classFrom? f fuel
        { here with pending := some (op, here.operand f), items := [] }
          around rest
    match f.space s with
    | [] => none
    | '[' :: rest =>
      match asciiClass? f rest with
      | some (set, rest) => classFrom? f fuel (here.add set) around rest
      | none =>
        (openClass? f rest).bind fun (inner, rest) =>
          classFrom? f fuel inner (here :: around) rest
    | ']' :: rest =>
      match around with
      | [] => some (here.close f, rest)
      | outer :: around =>
        classFrom? f fuel (outer.add (here.close f)) around rest
    | '&' :: '&' :: rest => withOp .inter rest
    | '-' :: '-' :: rest => withOp .diff rest
    | '~' :: '~' :: rest => withOp .symmDiff rest
    | s => (classItem? f s).bind fun (set, rest) =>
      classFrom? f fuel (here.add set) around rest

def bracketed? (f : Flags) (s : List Char) : Option (CharSet × List Char) := do
  let (k, rest) ← openClass? f s
  classFrom? f (rest.length + 1) k [] rest

/-! ## Repetitions -/

def digitsFrom (f : Flags) : (fuel : Nat) → List Char → List Char × List Char
  | 0, s => ([], s)
  | _ + 1, [] => ([], [])
  | fuel + 1, c :: rest =>
    if c.isDigit then
      let (ds, after) := digitsFrom f fuel (f.space rest)
      (c :: ds, after)
    else
      ([], c :: rest)

/-- A count of rounds with blanks around it. The outer option is the count being
too large, the inner one its being absent. -/
def count? (f : Flags) (s : List Char) : Option (Option Nat) × List Char :=
  let s := Text.trimLeft s
  let (ds, rest) := digitsFrom f (s.length + 1) s
  let rest := f.space (Text.trimLeft rest)
  match Integer.nat? ds with
  | none => (some none, rest)
  | some n => (if n < UInt32.size then some (some n) else none, rest)

def bounds? (f : Flags) (s : List Char) :
    Option ((Nat × Option Nat) × List Char) :=
  let (first, s) := count? f (f.space s)
  match s with
  | '\x7d' :: rest => first.join.map fun n => ((n, some n), rest)
  | ',' :: rest =>
    match f.space rest with
    | '\x7d' :: rest => first.join.map fun n => ((n, none), rest)
    | rest => do
      let n ← first.join
      let (second, rest) := count? f rest
      let m ← second.join
      match rest with
      | '\x7d' :: rest => if n ≤ m then pure ((n, some m), rest) else none
      | _ => none
  | _ => none

/-! ## Groups -/

def isNameChar (first : Bool) (c : Char) : Bool :=
  if first then c == '_' || Unicode.isAlphabetic c
  else
    c == '_' || c == '.' || c == '[' || c == ']' || Unicode.isAlphabetic c ||
      Unicode.isDigit c || Unicode.Ranges.mem Unicode.categoryNl c.toNat ||
      Unicode.Ranges.mem Unicode.categoryNo c.toNat

def groupName? (s : List Char) : Option (String × List Char) :=
  let name := s.takeWhile (· != '>')
  match name, s.drop name.length with
  | c :: cs, '>' :: rest =>
    if isNameChar true c && cs.all (isNameChar false) then
      some (String.ofList name, rest)
    else none
  | _, _ => none

/-- Flag letters up to the mark that ends them: the flags, the mark, and what
follows. `used` holds the letters so far, none of which may be repeated. -/
def flagsFrom? (f : Flags) (negated dangling : Bool) (used : List Char) :
    List Char → Option (Flags × Char × List Char)
  | [] => none
  | c :: rest =>
    if c = ')' ∨ c = ':' then
      if dangling then none else some (f, c, rest)
    else if c = '-' then
      if negated then none else flagsFrom? f true true used rest
    else if used.contains c then none
    else (f.set? c (!negated)).bind fun f =>
      flagsFrom? f negated false (c :: used) rest

/-- A piece of a sequence; a flag group takes up a place but matches nothing. -/
inductive Piece where
  | pattern (p : Pattern)
  | flags

/-- A group that is open: its index if it captures, the flags to restore after
it, and what came before it in the group around it. -/
structure OpenGroup where
  index : Option Nat
  flags : Flags
  branches : List Pattern
  pieces : List Piece

/-- The state of the reader within the innermost group. Branches and pieces are
kept in reverse. -/
structure State where
  flags : Flags
  branches : List Pattern
  pieces : List Piece
  around : List OpenGroup
  groups : Nat
  names : List (String × Nat)

namespace State

def branch (st : State) : Pattern :=
  .sequence <| st.pieces.reverse.filterMap fun
    | .pattern p => some p
    | .flags => none

def content (st : State) : Pattern :=
  .oneOf (st.branch :: st.branches).reverse

def push (st : State) (p : Pattern) : State :=
  { st with pieces := .pattern p :: st.pieces }

def enter (st : State) (index : Option Nat) (inside : Flags) : State :=
  { st with
    flags := inside
    branches := []
    pieces := []
    around :=
      { index, flags := st.flags, branches := st.branches
        pieces := st.pieces } :: st.around }

def capture? (st : State) (name : Option String) : Option State :=
  let index := st.groups + 1
  match name with
  | none => some { st.enter (some index) st.flags with groups := index }
  | some n =>
    if st.names.any (·.1 == n) then none
    else some
      { st.enter (some index) st.flags with
        groups := index
        names := (n, index) :: st.names }

def leave? (st : State) : Option State :=
  match st.around with
  | [] => none
  | g :: around => some
    { st with
      flags := g.flags
      branches := g.branches
      pieces := .pattern (.group g.index st.content) :: g.pieces
      around }

/-- The last piece under a repetition; there must be one that can be
repeated. -/
def repeat? (st : State) (min : Nat) (max : Option Nat) (lazy : Bool) :
    Option State :=
  match st.pieces with
  | .pattern p :: pieces =>
    let greedy := lazy == st.flags.swapGreed
    some { st with
      pieces := .pattern (Pattern.repeated min max greedy p) :: pieces }
  | _ => none

def literal? (st : State) (c : Char) : Option State :=
  let f := st.flags
  let set := CharSet.single c
  if f.caseless ∧ (f.unicode ∨ c.toNat < 128) then
    some (st.push (.one (f.foldCase set)))
  else some (st.push (.one set))

def unit? (st : State) : Atom → Option State
  | .literal c => st.literal? c
  | .byte _ => none
  | .set s => (st.flags.step? s).map st.push
  | .look a => some (st.push (.look a))

/-- The set that a point accepts: anything but the end of a line. -/
def dot? (st : State) : Option State :=
  let f := st.flags
  if !f.unicode then none
  else if f.dotAll then some (st.push (.one [(0, 0x10FFFF)]))
  else if f.crlf then
    some (st.push (.one [(0, 9), (0x0B, 0x0C), (0x0E, 0x10FFFF)]))
  else some (st.push (.one [(0, 9), (0x0B, 0x10FFFF)]))

def startMark (f : Flags) : Assertion :=
  if !f.multiLine then .textStart else if f.crlf then .crlfLineStart
    else .lineStart

def endMark (f : Flags) : Assertion :=
  if !f.multiLine then .textEnd else if f.crlf then .crlfLineEnd else .lineEnd

/-- Whether a group opens a look-around, which patterns do not have. -/
def isLookAround : List Char → Bool
  | '?' :: '=' :: _ | '?' :: '!' :: _ | '?' :: '<' :: '=' :: _ |
      '?' :: '<' :: '!' :: _ => true
  | _ => false

def group? (st : State) (s : List Char) : Option (State × List Char) :=
  let s := st.flags.space s
  if isLookAround s then none
  else
    match s with
    | '?' :: 'P' :: '<' :: rest =>
      (groupName? rest).bind fun (n, rest) =>
        (st.capture? (some n)).map fun st => (st, rest)
    | '?' :: '<' :: rest =>
      (groupName? rest).bind fun (n, rest) =>
        (st.capture? (some n)).map fun st => (st, rest)
    | '?' :: rest =>
      (flagsFrom? st.flags false false [] rest).bind fun (f, mark, after) =>
        if mark = ':' then some (st.enter none f, after)
        else if rest.head? = some ')' then none
        else some ({ st with flags := f, pieces := .flags :: st.pieces }, after)
    | rest => (st.capture? none).map fun st => (st, rest)

/-- A question mark that makes a repetition prefer fewer rounds. -/
def lazyMark : List Char → Bool × List Char
  | '?' :: rest => (true, rest)
  | rest => (false, rest)

def step? (st : State) (c : Char) (rest : List Char) :
    Option (State × List Char) :=
  let f := st.flags
  let repeatHere (min : Nat) (max : Option Nat) (rest : List Char) :=
    let (lazy, rest) := lazyMark rest
    (st.repeat? min max lazy).map fun st => (st, rest)
  match c with
  | '(' => st.group? rest
  | ')' => st.leave?.map fun st => (st, rest)
  | '|' =>
    some ({ st with branches := st.branch :: st.branches, pieces := [] }, rest)
  | '[' =>
    (bracketed? f rest).bind fun (set, rest) =>
      (f.step? set).map fun p => (st.push p, rest)
  | '?' => repeatHere 0 (some 1) rest
  | '*' => repeatHere 0 none rest
  | '+' => repeatHere 1 none rest
  | '\x7b' => (bounds? f rest).bind fun ((min, max), rest) =>
    repeatHere min max (f.space rest)
  | '\\' => (escape? f rest).bind fun (u, rest) => (st.unit? u).map fun st =>
    (st, rest)
  | '.' => st.dot?.map fun st => (st, rest)
  | '^' => some (st.push (.look (startMark f)), rest)
  | '$' => some (st.push (.look (endMark f)), rest)
  | c => (st.literal? c).map fun st => (st, rest)

/-- The state after the whole text. Each construct takes up a character, so as
much fuel as there are characters is enough. -/
def run? : (fuel : Nat) → State → List Char → Option State
  | 0, st, s => if s.isEmpty then some st else none
  | fuel + 1, st, s =>
    match st.flags.space s with
    | [] => some st
    | c :: rest => (st.step? c rest).bind fun (st, rest) => run? fuel st rest

end State

/-- A regular expression: its structure, the number of its capturing groups and
their names. -/
structure Expression where
  pattern : Pattern
  groups : Nat
  names : List (String × Nat)

/-- How deep constructs may be nested. Engines that search in linear time
customarily allow 250 levels, with bracketed sets counted, which are not counted
here. -/
def depthLimit : Nat := 250

/-- How large the program for an expression may be. The customary limit is
10 MiB for the compiled program, and an instruction is taken for 32 bytes
here. -/
def costLimit : Nat := 10 * 1024 * 1024 / 32

/-- The expression with the given text, if it is well formed and of reasonable
size. -/
def read? (caseless : Bool) (s : String) : Option Expression := do
  let start : State :=
    { flags := { caseless }, branches := [], pieces := [], around := []
      groups := 0, names := [] }
  let st ← State.run? s.length start s.toList
  if !st.around.isEmpty then none
  else
    let pattern := st.content
    if pattern.depth > depthLimit ∨ pattern.cost > costLimit then none
    else pure { pattern, groups := st.groups, names := st.names }

end Regex
end Phrasebook
