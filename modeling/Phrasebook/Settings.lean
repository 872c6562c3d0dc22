import Phrasebook.Label.Token
import Phrasebook.Table

/-!
# Settings of a rendering

What an application fixes once for all renderings, what one rendering may
restrict, and how a host application dresses up the texts that are put into a
label.
-/

namespace Phrasebook

/-- The settings of an application: texts for tokens without data, templates for
decorations without data, and whether case keys are heeded. -/
structure Settings where
  dataDefaults : Table String
  decorationDefaults : Table String
  languageCases : Bool

def Settings.standard : Settings where
  dataDefaults := Table.empty
  decorationDefaults := Table.empty
  languageCases := true

/-- The restrictions of one rendering: the names of the tokens that may be
filled in, if not all may, and whether markup is left as it is. -/
structure Options where
  allowed : Option (List String)
  skipDecorations : Bool

def Options.standard : Options where
  allowed := none
  skipDecorations := false

def Options.allows (o : Options) (name : String) : Bool :=
  match o.allowed with
  | none => true
  | some names => names.contains name

/-- What a host application puts around texts: the value of a token, the content
of an element that has no decoration of its own, and a text that a case has
changed. -/
structure Decorator where
  token : Token → String → String
  element : String → String → String
  case : String → (original transformed : String) → String

def Decorator.plain : Decorator where
  token := fun _ value => value
  element := fun _ content => content
  case := fun _ _ transformed => transformed

end Phrasebook
