import Walkthrough.Requirement.Verdict
import Walkthrough.Store.Status
/-!
What came of pressing the control of a step.
-/

namespace Walkthrough

structure Outcome where
  step : String
  status : Status
  executed : Bool
  message : Option String
  requirements : Option Assessment
  details : List (String × Json)

namespace Outcome

def withheld (step : String) (status : Status) (message : String) : Outcome :=
  ⟨step, status, false, some message, none, []⟩

def isGood (outcome : Outcome) : Bool :=
  outcome.status != .error && outcome.requirements.all (·.passed)

def report (outcome : Outcome) : List (String × Json) :=
  [("step_id", .text outcome.step), ("status", .text outcome.status.name),
   ("executed", .bool outcome.executed), ("ok", .bool outcome.isGood)]
    ++ (match outcome.message with
      | some message => if message = "" then [] else [("message", .text message)]
      | none => [])
    ++ (match outcome.requirements with
      | some assessment => [("requirements", assessment.payload)]
      | none => [])
    ++ if outcome.details.isEmpty then [] else [("details", .object outcome.details)]

end Outcome

end Walkthrough
