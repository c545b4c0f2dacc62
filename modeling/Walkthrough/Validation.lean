import Walkthrough.Json
/-!
What is wrong with a value that was to be read as a model: a list of issues, each with its place,
its defect and the offending value.
-/

namespace Walkthrough.Validation

inductive Key where
  | field (name : String)
  | index (position : Nat)
deriving DecidableEq, Repr

inductive Defect where
  | missing
  | unknownField
  | notText
  | notMapping
  | notList
  | notModel (model : String)
  | notChoice (choices : List String)
  | notInteger
  | unreadableInteger
  | oversizedInteger
  | fractional
  | notFinite
  | negative
  | notTruth
  | unreadableTruth
  | rule (words : String)
deriving DecidableEq, Repr

def listed : List String → String
  | [] => ""
  | [only] => s!"'{only}'"
  | [first, last] => s!"'{first}' or '{last}'"
  | first :: rest => s!"'{first}', {listed rest}"

def Defect.label : Defect → String
  | .missing => "missing"
  | .unknownField => "extra_forbidden"
  | .notText => "string_type"
  | .notMapping => "dict_type"
  | .notList => "list_type"
  | .notModel _ => "model_type"
  | .notChoice _ => "enum"
  | .notInteger => "int_type"
  | .unreadableInteger => "int_parsing"
  | .oversizedInteger => "int_parsing_size"
  | .fractional => "int_from_float"
  | .notFinite => "finite_number"
  | .negative => "greater_than_equal"
  | .notTruth => "bool_type"
  | .unreadableTruth => "bool_parsing"
  | .rule _ => "value_error"

def Defect.message : Defect → String
  | .missing => "Field required"
  | .unknownField => "Extra inputs are not permitted"
  | .notText => "Input should be a valid string"
  | .notMapping => "Input should be a valid dictionary"
  | .notList => "Input should be a valid list"
  | .notModel model => s!"Input should be a valid dictionary or instance of {model}"
  | .notChoice choices => s!"Input should be {listed choices}"
  | .notInteger => "Input should be a valid integer"
  | .unreadableInteger => "Input should be a valid integer, unable to parse string as an integer"
  | .oversizedInteger => "Unable to parse input string as an integer, exceeded maximum size"
  | .fractional => "Input should be a valid integer, got a number with a fractional part"
  | .notFinite => "Input should be a finite number"
  | .negative => "Input should be greater than or equal to 0"
  | .notTruth => "Input should be a valid boolean"
  | .unreadableTruth => "Input should be a valid boolean, unable to interpret input"
  | .rule words => s!"Value error, {words}"

structure Issue where
  place : List Key
  defect : Defect
  input : Json

structure Failure where
  model : String
  issues : List Issue

def Issue.inside (key : Key) (issue : Issue) : Issue :=
  { issue with place := key :: issue.place }

def Failure.heading (failure : Failure) : String :=
  let count := failure.issues.length
  let noun := if count = 1 then "error" else "errors"
  s!"{count} validation {noun} for {failure.model}"

def Defect.isRule : Defect → Bool
  | .rule _ => true
  | _ => false

def Defect.context : Defect → List (String × Json)
  | .notModel model => [("class_name", .text model)]
  | .notChoice choices => [("expected", .text (listed choices))]
  | .negative => [("ge", .int 0)]
  | _ => []

def Key.report : Key → Json
  | .field name => .text name
  | .index position => .ofNat position

def Issue.report (issue : Issue) : Json :=
  .object ([("type", .text issue.defect.label), ("loc", .list (issue.place.map Key.report)),
      ("msg", .text issue.defect.message), ("input", issue.input)]
    ++ if issue.defect.context.isEmpty then [] else [("ctx", .object issue.defect.context)])

abbrev Checked (α : Type) := Except (List Issue) α

end Walkthrough.Validation
