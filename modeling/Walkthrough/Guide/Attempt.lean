import Walkthrough.Step.Performance
import Walkthrough.Requirement.Evaluation
import Walkthrough.Control
import Walkthrough.Guide.Outcome
/-!
One attempt at a step: the step is set running, its action is performed, and the step ends as
completed, or idle after a preview, or in an error. Also the gates in front of an attempt, which
are its requirements and its objectives.
-/

namespace Walkthrough.Guide

/-- Set running; a finished or failed step is made idle first. -/
def begin (key : String) : Run Unit := do
  let status ← Run.status key
  if status = .completed || status = .error then discard (Run.reset key)
  Run.moveTo key .running

/-- A failure leaves the step in an error with the failure's text, and goes on. -/
def failing {α : Type} (key : String) (attempt : Run α) : Run α :=
  tryCatch attempt fun fault => do
    discard (Run.move ⟨key, .error, some fault.words, none⟩)
    throw fault

def stepCommand (step : Step) (mode : Mode) : Command :=
  ⟨step.action, step.target, step.value, mode⟩

/-- A preview ends idle. A commitment lets the page settle and marks the controls of the step. -/
def runStep (step : Step) (mode : Mode) : Run Unit := do
  begin step.key
  failing step.key do
    discard (stepCommand step mode).perform
    match mode with
    | .preview => Run.moveTo step.key .idle
    | .commit =>
        Run.page .settle
        discard (Control.markCompleted (some step.key))
  match mode with
  | .preview => pure ()
  | .commit => Run.moveTo step.key .completed

/-! Gates. -/

def check (step : Step) : Run Assessment :=
  Requirement.evaluate step.requirements step.subject

def objectivesMet (step : Step) : Run Bool := do
  match step.objectives with
  | none | some "" => return false
  | some objectives => return (← Requirement.evaluate (some objectives) step.subject).passed

def isMultiple (step : Step) : Bool :=
  match step.body with
  | .single => false
  | .multiple .. => true

def doneMessage : String := "Objectives already met"

/-- Completed without acting. The controls of a multi-step are not marked. -/
def completeByObjectives (step : Step) : Run Outcome := do
  let status ← Run.status step.key
  if status = .completed then return .withheld step.key status doneMessage
  else
    if status != .idle then discard (Run.reset step.key)
    if !isMultiple step then discard (Control.markCompleted (some step.key))
    Run.moveTo step.key .completed
    return .withheld step.key .completed doneMessage

def busyMessage (status : Status) : String :=
  "Step is already " ++ status.name

def isBusy (status : Status) : Bool :=
  status == .running || status == .completed

end Walkthrough.Guide
