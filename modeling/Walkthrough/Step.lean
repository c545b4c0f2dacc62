import Walkthrough.Step.Action
import Walkthrough.Json
/-!
Steps of a walkthrough. A step has exactly one identity, that of a step or that of a section, and
either acts once, runs what its container holds, or runs a fixed list of inner actions.
-/

namespace Walkthrough

inductive Identity where
  | ofStep (id : String)
  | ofSection (id : String)
deriving DecidableEq, Repr

def Identity.key : Identity → String
  | ofStep id => "step-" ++ id
  | ofSection id => "section-" ++ id

structure InnerAction where
  action : Action
  target : String
  value : Option String
  requirements : Option String
deriving DecidableEq, Repr

inductive StepBody where
  | single
  | multiple (actions : List InnerAction) (delay : Option Nat)
deriving DecidableEq, Repr

structure Step where
  action : Action
  target : String
  value : Option String
  requirements : Option String
  objectives : Option String
  hints : Option String
  identity : Identity
  custom : List (String × String)
  body : StepBody
deriving DecidableEq, Repr

namespace Step

inductive Model where
  | plain
  | multi
deriving DecidableEq, Repr

def Model.name : Model → String
  | plain => "StepDescriptor"
  | multi => "MultiStepDescriptor"

def Model.accepts : Model → Action → Bool
  | plain, action => action != .multistep
  | multi, action => action == .multistep

def model (step : Step) : Model :=
  match step.body with
  | .single => .plain
  | .multiple .. => .multi

def key (step : Step) : String :=
  step.identity.key

def isSequence (step : Step) : Bool :=
  step.action == .sequence

end Step

def present (name : String) (value : Option String) : List (String × Json) :=
  match value with
  | some content => [(name, .text content)]
  | none => []

def InnerAction.payload (inner : InnerAction) : List (String × Json) :=
  [("target_action", .text inner.action.name), ("ref_target", .text inner.target)]
    ++ present "target_value" inner.value ++ present "requirements" inner.requirements

def Identity.payload : Identity → List (String × Json)
  | ofStep id => [("step_id", .text id)]
  | ofSection id => [("section_id", .text id)]

def StepBody.payload : StepBody → List (String × Json)
  | single => []
  | multiple actions delay =>
      ("internal_actions", .list (actions.map fun inner => .object inner.payload)) ::
        match delay with
        | some wait => [("step_delay_ms", .int wait)]
        | none => []

def Step.payload (step : Step) : List (String × Json) :=
  [("target_action", .text step.action.name), ("ref_target", .text step.target)]
    ++ present "target_value" step.value ++ present "requirements" step.requirements
    ++ present "objectives" step.objectives ++ present "hints" step.hints
    ++ step.identity.payload
    ++ ("custom_data", .pairs step.custom) :: step.body.payload

end Walkthrough
