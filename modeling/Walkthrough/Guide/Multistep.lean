import Walkthrough.Guide.Attempt
/-!
Running the inner actions of a multi-step, each shown and then done, behind a single control. The
first failure ends the run and leaves the step in an error at that action.
-/

namespace Walkthrough.Guide

def failAt (key : String) (index : Nat) (message : String) : Run Outcome := do
  discard (Run.move ⟨key, .error, some message, some index⟩)
  return ⟨key, .error, false, some message, none, [("failed_index", .ofNat index)]⟩

def obstacle (inner : InnerAction) (index : Nat) : Run (Option String) := do
  match inner.requirements with
  | none | some "" => return none
  | some requirements =>
      let config ← Run.settings
      match ← Requirement.evaluateWithin config.requirementTimeout requirements inner.subject with
      | none => return some s!"Step {index + 1} requirements check failed: Requirements check timeout"
      | some assessment =>
          if assessment.passed then return none
          else
            return some s!"Step {index + 1} requirements not met: {assessment.explanation}"

def innerCommand (inner : InnerAction) (mode : Mode) : Command :=
  ⟨inner.action, inner.target, inner.value, mode⟩

def showThenDoInner (inner : InnerAction) : Run Unit := do
  discard (innerCommand inner .preview).perform
  Run.pause (← Run.settings).multistepShowDelay
  discard (innerCommand inner .commit).perform

def runInner (key : String) (delay : Amount) (index : Nat) :
    List InnerAction → Run (Option Outcome)
  | [] => pure none
  | inner :: rest => do
      Run.setIndex key index
      match ← obstacle inner index with
      | some message => return some (← failAt key index message)
      | none =>
          match ← Run.outcome (showThenDoInner inner) with
          | .error fault =>
              return some (← failAt key index s!"Step {index + 1} failed: {fault.words}")
          | .ok _ =>
              if !rest.isEmpty then Run.pause delay
              runInner key delay (index + 1) rest

def delayOf (delay : Option Nat) : Run Amount := do
  match delay with
  | some own => return .whole own
  | none => return (← Run.settings).multistepStepDelay

def runActions (key : String) (actions : List InnerAction) (delay : Option Nat)
    (requirements : Assessment) : Run Outcome := do
  let wait ← delayOf delay
  begin key
  match ← runInner key wait 0 actions with
  | some failed => return failed
  | none =>
      Run.page .settle
      discard (Run.move ⟨key, .completed, none, some (actions.length - 1 : Nat)⟩)
      return ⟨key, .completed, true, none, some requirements, []⟩

/-- Objectives, state and requirements are looked at before the first action. A step without inner
actions cannot be run this way. -/
def runMultistep (step : Step) : Run Outcome := do
  if ← objectivesMet step then completeByObjectives step
  else
    let status ← Run.status step.key
    if isBusy status then return .withheld step.key status (busyMessage status)
    else
      let requirements ← check step
      if requirements.passed then
        match step.body with
        | .multiple actions delay => runActions step.key actions delay requirements
        | .single => throw (.misuse (.noMember step.model.name "step_delay_ms"))
      else
        return { Outcome.withheld step.key status requirements.explanation with
          requirements := some requirements }

end Walkthrough.Guide
