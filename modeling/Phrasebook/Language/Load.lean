import Phrasebook.Language.Case
import Phrasebook.Settings

/-!
# Loading language data

Languages, settings and their parts are loaded from structured data such as a
document in a data format provides. A record is an object with the fields of the
record, or a list of its fields in their order. Fields that are not known are
ignored; a field that is missing has a default unless it is required; a field of
the wrong kind makes the whole unloadable.
-/

namespace Phrasebook

/-- Structured data. No record has a numeric field, so which number it is does
not matter. -/
inductive Data where
  | null
  | bool (b : Bool)
  | number
  | string (s : String)
  | list (items : List Data)
  | object (fields : List (String × Data))
  deriving Inhabited

namespace Data

def string? : Data → Option String
  | .string s => some s
  | _ => none

def bool? : Data → Option Bool
  | .bool b => some b
  | _ => none

def list? {α : Type} (load : Data → Option α) : Data → Option (List α)
  | .list items => items.mapM load
  | _ => none

def fields? {α : Type} (load : Data → Option α) :
    Data → Option (List (String × α))
  | .object fields => fields.mapM fun f => (load f.2).map fun a => (f.1, a)
  | _ => none

def table? {α : Type} (load : Data → Option α) (d : Data) : Option (Table α) :=
  (d.fields? load).map Table.ofList

end Data

/-- The fields of a record. In a list of fields, a field may be missing at the
end only if it has a default. -/
structure Record where
  fields : List (String × Data)
  positional : Bool

namespace Record

def of? (names : List String) : Data → Option Record
  | .object fields => some ⟨fields, false⟩
  | .list items =>
    if items.length ≤ names.length then some ⟨names.zip items, true⟩ else none
  | _ => none

def required? {α : Type} (r : Record) (name : String) (load : Data → Option α) :
    Option α :=
  (Table.find? name r.fields).bind load

def withDefault? {α : Type} (r : Record) (name : String)
    (load : Data → Option α) (default : α) :
    Option α :=
  match Table.find? name r.fields with
  | some d => load d
  | none => some default

/-- A field that may be absent or null. -/
def optional? {α : Type} (r : Record) (name : String) (load : Data → Option α) :
    Option (Option α) :=
  match Table.find? name r.fields with
  | some .null => some none
  | some d => (load d).map some
  | none => if r.positional then none else some none

end Record

def Rule.ofData? (d : Data) : Option Rule := do
  let r ← Record.of?
      ["keyword", "description", "examples", "conditions", "operations"] d
  let keyword ← r.required? "keyword" Data.string?
  let description ← r.withDefault? "description" Data.string? ""
  let examples ← r.withDefault? "examples" Data.string? ""
  let conditions ← r.withDefault? "conditions" Data.string? ""
  let operations ← r.optional? "operations" Data.string?
  pure { keyword, description, examples, conditions, operations }

/-- The source of a variable: the name of one without an attribute, or an object
that gives the name of the attribute. -/
def Source.ofData? : Data → Option Source
  | .string "itself" => some .itself
  | .string "size" => some .size
  | .object [("itself", .null)] => some .itself
  | .object [("size", .null)] => some .size
  | .object [("attribute", .string name)] => some (.attribute name)
  | .object [("list_attribute", .string name)] => some (.listAttribute name)
  | _ => none

def Templates.ofData? (d : Data) : Option Templates :=
  (d.table? Data.string?).map Table.sorted

/-- The templates for one number of parameters; a string stands for there being
none. -/
def Mapping.entryOfData? : Data → Option (Option Templates)
  | .string _ => some none
  | d => (Templates.ofData? d).map some

def Mapping.ofData? : Data → Option Mapping
  | .list items => (items.mapM Mapping.entryOfData?).map .byArity
  | d => (Templates.ofData? d).map .single

def Context.ofData? (d : Data) : Option Context := do
  let r ← Record.of?
    ["keyword", "description", "keys", "default_key", "token_expression",
      "variables", "variable_sources", "token_mapping", "rules"] d
  let keyword ← r.required? "keyword" Data.string?
  let description ← r.withDefault? "description" Data.string? ""
  let keys ← r.withDefault? "keys" (Data.list? Data.string?) []
  let defaultKey ← r.withDefault? "default_key" Data.string? "other"
  let tokenExpression ← r.optional? "token_expression" Data.string?
  let variableNames ← r.withDefault? "variables" (Data.list? Data.string?) []
  let sources ← r.withDefault? "variable_sources"
      (Data.table? Source.ofData?) Table.empty
  let mapping ← r.optional? "token_mapping" Mapping.ofData?
  let rules ← r.withDefault? "rules" (Data.list? Rule.ofData?) []
  pure
    { keyword, description, keys, defaultKey, tokenExpression, variableNames,
      sources, mapping,
      rules }

def Application.ofData? : Data → Option Application
  | .string "phrase" => some .phrase
  | .string "words" => some .words
  | .object [("phrase", .null)] => some .phrase
  | .object [("words", .null)] => some .words
  | _ => none

def Case.ofData? (d : Data) : Option Case := do
  let r ← Record.of?
    ["keyword", "latin_name", "native_name", "description", "application",
      "rules"] d
  let keyword ← r.required? "keyword" Data.string?
  let latinName ← r.withDefault? "latin_name" Data.string? ""
  let nativeName ← r.withDefault? "native_name" Data.string? ""
  let description ← r.withDefault? "description" Data.string? ""
  let application ← r.withDefault? "application" Application.ofData? .phrase
  let rules ← r.withDefault? "rules" (Data.list? Rule.ofData?) []
  pure { keyword, latinName, nativeName, description, application, rules }

def Language.ofData? (d : Data) : Option Language := do
  let r ← Record.of? ["locale", "name", "contexts", "cases"] d
  let locale ← r.required? "locale" Data.string?
  let name ← r.withDefault? "name" Data.string? ""
  let contexts ← r.withDefault? "contexts" (Data.list? Context.ofData?) []
  let cases ← r.withDefault? "cases" (Data.list? Case.ofData?) []
  pure { locale, name, contexts, cases }

def Settings.ofData? (d : Data) : Option Settings := do
  let r ← Record.of?
      ["data_defaults", "decoration_defaults", "language_cases"] d
  let dataDefaults ← r.withDefault? "data_defaults"
      (Data.table? Data.string?) Table.empty
  let decorationDefaults ←
    r.withDefault? "decoration_defaults" (Data.table? Data.string?) Table.empty
  let languageCases ← r.withDefault? "language_cases" Data.bool? true
  pure { dataDefaults, decorationDefaults, languageCases }

end Phrasebook
