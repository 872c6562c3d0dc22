import Phrasebook.Regex.Literal
import Phrasebook.Value.Basic

/-!
# Why an operation fails

Each failure names its cause; the wording of all of them is in one place.
-/

namespace Phrasebook

inductive DateForm where
  | date
  | time
  deriving DecidableEq, Repr

def DateForm.word : DateForm → String
  | .date => "date"
  | .time => "time"

inductive EvalError where
  | unknownOperator (name : String)
  | specialForm (name : String)
  | invalidOperator (head : String)
  | argumentCount (operator : String) (expected got : Nat)
  | typeMismatch (operator found : String)
  | arithmetic (operator : String)
  | invalidRegex (fault : Regex.Fault)
  | invalidDate (form : DateForm) (text : String)
  deriving DecidableEq, Repr

namespace EvalError

def message : EvalError → String
  | .unknownOperator name => "unknown operator '" ++ name ++ "'"
  | .specialForm name =>
    "'" ++ name ++ "' is a special form and needs unevaluated arguments"
  | .invalidOperator head => "list head is not an operator: " ++ head
  | .argumentCount operator expected got =>
    "'" ++ operator ++ "' expects " ++ toString expected ++
      " arguments, got " ++ toString got
  | .typeMismatch operator found =>
    "'" ++ operator ++ "' cannot operate on " ++ found
  | .arithmetic operator =>
    "'" ++ operator ++ "' is undefined for these operands"
  | .invalidRegex fault =>
    "invalid regular expression '" ++ fault.pattern ++ "'" ++
      match fault.diagnosis with
      | some diagnosis => ": " ++ diagnosis
      | none => ""
  | .invalidDate form text =>
    "invalid " ++ form.word ++ " literal '" ++ text ++ "'"

def mismatch (operator : String) (found : Value) : EvalError :=
  .typeMismatch operator found.description

end EvalError
end Phrasebook
