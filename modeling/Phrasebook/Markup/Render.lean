import Phrasebook.Label.Variant
import Phrasebook.Markup.Node

/-!
# Rendering markup

Each element of a label changes its rendered content: by the decoration that the
caller supplies under its name, by the configured default, or by the decorator.
The root element, and elements that may not be filled in, show their content as
it is.
-/

namespace Phrasebook
namespace Rendering

open Markup

def contentMark : List Char :=
  ['{', '$', '0', '}']

def attributeMark (name : String) : List Char :=
  '{' :: '$' :: name.toList ++ ['}']

def fillContent (template content : String) : String :=
  String.ofList (Text.replaceChars template.toList contentMark content.toList)

/-- The length of the placeholder at the beginning of a text, whatever its
name. -/
def placeholderLength (s : List Char) : Option Nat :=
  match s with
  | '{' :: '$' :: rest =>
    if rest.contains '}' then some ((rest.takeWhile (· != '}')).length + 3)
      else none
  | _ => none

def dropPlaceholders : (skip : Nat) → List Char → List Char
  | _, [] => []
  | skip + 1, _ :: rest => dropPlaceholders skip rest
  | 0, c :: rest =>
    match placeholderLength (c :: rest) with
    | some n => dropPlaceholders (n - 1) rest
    | none => c :: dropPlaceholders 0 rest

def fillAttributes (s : List Char) (attributes : List (String × String)) :
    List Char :=
  attributes.foldl
    (fun s a => Text.replaceChars s (attributeMark a.1) a.2.toList) s

/-- A default decoration with the content and the attributes put in, the content
first and the attributes in the order of their names. Placeholders that are left
are taken out. -/
def fillDefault (template content : String) (attributes : Table String) :
    String :=
  let filled := Text.replaceChars template.toList contentMark content.toList
  String.ofList (dropPlaceholders 0 (fillAttributes filled attributes.sorted))

/-- What an element makes of its content. `label` is the label it stands in. -/
def decorate (r : Rendering) (label name content : String) : Logged String :=
  if name.toList = rootName ∨ !r.options.allows name then pure content
  else
    match r.data.get? name with
    | some (.decoration (.function decorate)) => pure (decorate content)
    | some (.decoration (.template template)) =>
      pure (fillContent template content)
    | some (.decoration (.attributes attributes)) =>
      match r.settings.decorationDefaults.get? name with
      | some template => pure (fillDefault template content attributes)
      | none => do
        Logged.tell (.noDefaultDecoration name label)
        pure content
    | some d =>
      match d.text? with
      | some template => pure (fillContent template content)
      | none => pure content
    | none =>
      match r.settings.decorationDefaults.get? name with
      | some template => pure (fillDefault template content Table.empty)
      | none => pure (r.decorator.element name content)

mutual

def nodeText (r : Rendering) (label : String) : Node → Logged String
  | .text s => pure s
  | .element name children => do
    let content ← nodeTexts r label children
    r.decorate label name content

def nodeTexts (r : Rendering) (label : String) : List Node → Logged String
  | [] => pure ""
  | n :: ns => do
    let first ← nodeText r label n
    let others ← nodeTexts r label ns
    pure (first ++ others)

end

def fillMarkup (r : Rendering) (label : String) : Logged String :=
  r.nodeText label (read label).tree

end Rendering
end Phrasebook
