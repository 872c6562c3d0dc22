import Phrasebook.Text.Blank
import Phrasebook.Text.Search

/-!
# Tokens

A token is a placeholder of a label. A data token such as `name` in braces
stands for a value, a method token such as `user.name` for an attribute, and a
piped token such as `count|| item, items` for a phrase that depends on the
value. Each has a short name, and may have context keys behind single colons and
case keys behind double ones.
-/

namespace Phrasebook

/-- The parts of a name that all tokens share. -/
structure TokenName where
  full : String
  short : String
  label : String
  contextKeys : List String
  caseKeys : List String
  deriving DecidableEq, Repr

/-- How a piped token shows the phrase: after the value, or alone with the value
filled in. -/
inductive Separator where
  | display
  | substitute
  deriving DecidableEq, Repr

def Separator.chars : Separator → List Char
  | .display => ['|', '|']
  | .substitute => ['|']

/-- A placeholder of a label. -/
inductive Token where
  | data (name : TokenName)
  | method (name : TokenName) (object method : String)
  | piped (name : TokenName) (separator : Separator) (params : List String)
  deriving DecidableEq, Repr

namespace TokenName

/-- The list without later repetitions of an item. -/
def firstOnly : List (List Char) → List (List Char)
  | [] => []
  | k :: ks => k :: (firstOnly ks).filter (· != k)

/-- The keys among some pieces of a name: trimmed, not empty, each once. -/
def keys (pieces : List (List Char)) : List String :=
  (firstOnly ((pieces.map Text.trimBoth).filter fun k => !k.isEmpty)).map
    String.ofList

/-- The parts of a declaration, which is the text of a token without braces and
parameters. Double colons set off the case keys; in what is before them single
colons set off the context keys. -/
def ofDeclaration (full label : String) (declaration : List Char) : TokenName :=
  let pieces := Text.splitChars [':', ':'] declaration
  let head := Text.splitChars [':'] (pieces.headD [])
  { full
    short := String.ofList (Text.trimBoth (head.headD []))
    label
    contextKeys := keys head.tail
    caseKeys := keys pieces.tail }

end TokenName

namespace Token

def withoutBraces (s : List Char) : List Char :=
  let s := if s.head? = some '{' then s.tail else s
  if s.getLast? = some '}' then s.dropLast else s

/-- The data token that is written as `full`. -/
def ofData (label full : String) : Token :=
  let inner := full.toList.dropWhile fun c => c == '%' || c == '{'
  let inner := (inner.reverse.dropWhile (· == '}')).reverse
  .data (TokenName.ofDeclaration full label inner)

/-- The method token that is written as `full`. The first point of the short
name ends the name of the object. -/
def ofMethod (label full : String) : Token :=
  let name := TokenName.ofDeclaration full label (withoutBraces full.toList)
  match Text.cut? ['.'] name.short.toList with
  | some (owner, member) =>
    .method name (String.ofList owner) (String.ofList member)
  | none => .method name name.short ""

def separatorOf (body : List Char) : Separator :=
  if Text.hasPart Separator.display.chars body then .display else .substitute

/-- The parameters of a piped token: what stands between commas, trimmed, unless
nothing does. -/
def paramsOf (s : List Char) : List String :=
  (((Text.splitChars [','] s).map Text.trimBoth).filter fun p => !p.isEmpty).map
    String.ofList

def ofPiped (label full : String) : Token :=
  let body := withoutBraces full.toList
  let separator := separatorOf body
  let (declaration, params) := (Text.cut? separator.chars body).getD (body, [])
  .piped (TokenName.ofDeclaration full label declaration) separator
    (paramsOf params)

def name : Token → TokenName
  | .data name => name
  | .method name _ _ => name
  | .piped name _ _ => name

def full (t : Token) : String :=
  t.name.full

def short (t : Token) : String :=
  t.name.short

/-- The name under which the data of a token's subject is found. -/
def subjectName : Token → String
  | .data name => name.short
  | .method _ object _ => object
  | .piped name _ _ => name.short

end Token
end Phrasebook
