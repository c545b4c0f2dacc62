import Walkthrough.Guide.Sequence
import Walkthrough.Guide.Multistep
/-!
Pressing the control of a step: the gates in front of it, the run it starts, and what is told about
it. Also making a step runnable again, and finding the step of a rendered control.
-/

namespace Walkthrough.Guide

def runPlain (step : Step) (mode : Mode) : Run Unit := do
  if step.isSequence then discard (runSequence step (mode == .preview))
  else runStep step mode

def withHints (hints : Option String) (explanation : String) : String :=
  match hints with
  | none | some "" => explanation
  | some hints => s!"{explanation} ({hints})"

/-- A failed run is told about in the outcome; only a broken grouping of the controls goes on. -/
def reportRun (step : Step) (requirements : Assessment) (result : Except Fault Unit) :
    Run Outcome := do
  let outcome := fun (status : Status) (message : String) (details : List (String × Json)) =>
    (⟨step.key, status, false, some message, some requirements, details⟩ : Outcome)
  match result with
  | .ok _ => return ⟨step.key, ← Run.status step.key, true, none, some requirements, []⟩
  | .error (.guide error) =>
      if error.isConsistency then throw (.guide error)
      else return outcome (← Run.status step.key) error.message error.report
  | .error fault => return outcome (← Run.status step.key) fault.words []

def trigger (step : Step) (mode : Mode) : Run Outcome := do
  if ← objectivesMet step then completeByObjectives step
  else
    let status ← Run.status step.key
    if isBusy status then return .withheld step.key status (busyMessage status)
    else
      match step.body with
      | .multiple .. => runMultistep step
      | .single =>
          let requirements ← check step
          if requirements.passed then
            reportRun step requirements (← Run.outcome (runPlain step mode))
          else
            let message := withHints step.hints requirements.explanation
            return { Outcome.withheld step.key status message with
              requirements := some requirements }

def reset (key : String) : Run StepState := do
  let state ← Run.reset key
  discard (Control.clearCompleted key)
  return state

/-! Rendered controls. -/

def idSelector (id : String) : String :=
  "[data-step-id=\"" ++ id ++ "\"], [data-section-id=\"" ++ id ++ "\"]"

def findStep (id : String) : Run Step := do
  let root ← Control.contentRoot
  match ← Selector.query (idSelector id) root with
  | [] =>
      throw (.guide (.general ("No interactive step with id " ++ id) "NOT_FOUND"
        [("step_id", .text id)]))
  | control :: _ =>
      match Step.ofAttributes (← Run.page (.attributes control)) with
      | .ok step => return step
      | .error failure => throw (.invalid failure)

/-- The key of a rendered step, or the id itself if its state is known under it. -/
def keyOf (id : String) : Run String := do
  match ← Run.outcome (findStep id) with
  | .ok step => return step.key
  | .error (.guide error) =>
      if ((← Run.ask .states).find? id).isSome then return id else throw (.guide error)
  | .error fault => throw fault

end Walkthrough.Guide
