import Walkthrough.Guide.Attempt
/-!
Running every step inside a container, in document order. The container and all its steps are
looked at before the first step is touched. Each step is attempted until it succeeds or the number
of attempts that the settings allow is used up; then the sequence goes on with the next one.
-/

namespace Walkthrough.Guide

def childSelector : String :=
  ".interactive[data-targetaction]:not([data-targetaction=\"sequence\"])"

def container (selector : String) : Run Element := do
  let resolution ← Selector.resolve selector (← Control.contentRoot)
  match resolution.elements with
  | [only] => return only
  | [] =>
      throw (.guide (.resolution
        ("No interactive sequence container found matching selector: " ++ selector) selector 0))
  | several =>
      throw (.guide (.resolution
        (s!"{several.length} interactive sequence containers found matching selector: {selector}"
          ++ " - this is not supported (must be exactly 1)") selector several.length))

def isFilled (attributes : List (String × String)) (name : String) : Bool :=
  ((attributeValue attributes name).getD "") != ""

def firstIssue (failure : Validation.Failure) : String :=
  match failure.issues with
  | issue :: _ => issue.defect.message
  | [] => ""

/-- The step of a control; nothing for a control without an action or a target. -/
def child? (selector : String) (attributes : List (String × String)) :
    Except Fault (Option Step) :=
  if isFilled attributes "data-targetaction" && isFilled attributes "data-reftarget" then
    match Control.key (textFields attributes) with
    | .error fault => .error fault
    | .ok _ =>
        match Step.ofAttributes attributes with
        | .ok step => .ok (some step)
        | .error failure =>
            .error (.guide (.general
              s!"Invalid interactive element in sequence {selector}: {firstIssue failure}"
              "VALIDATION" [("attributes", .pairs attributes)]))
  else .ok none

def readChildren (selector : String) : List Element → Run (List Step)
  | [] => pure []
  | element :: rest => do
      let attributes ← Run.page (.attributes element)
      match child? selector attributes with
      | .error fault => throw fault
      | .ok none => readChildren selector rest
      | .ok (some step) => return step :: (← readChildren selector rest)

def children (inside : Element) (selector : String) : Run (List Step) := do
  let steps ← readChildren selector (← Selector.query childSelector (some inside))
  if steps.isEmpty then
    throw (.guide (.resolution
      ("No interactive elements found within sequence container: " ++ selector) selector 1))
  else return steps

/-- Makes a step ready for a run; false if its objectives are met, so that it needs none. -/
def prepare (step : Step) : Run Bool := do
  if ← objectivesMet step then
    if (← Run.status step.key) != .completed then discard (completeByObjectives step)
    return false
  else
    if (← Run.status step.key) != .idle then discard (Run.reset step.key)
    return true

/-! Attempts. -/

def retryPause (attempt : Nat) : Run Bool := do
  let settings ← Run.settings
  if ← Run.ofMisuse (settings.retryMax.isReachedBy attempt) then return false
  else
    Run.pause settings.retryDelay
    return true

def mayAttempt (attempt : Nat) : Run Bool := do
  Run.ofMisuse ((← Run.settings).retryMax.exceeds attempt)

def ready (step : Step) : Run Bool :=
  return (← check step).passed

/-- By so much the number of attempts may be raised while a step is being attempted. -/
def allowance : Nat := 1000

/-- After a failed attempt the step is made idle again. A broken grouping of the controls ends the
whole sequence. -/
def recover (step : Step) (attempt : Nat) (fault : Fault) : Run Unit := do
  if fault.isConsistency then throw fault
  else
    discard (Run.reset step.key)
    discard (retryPause (attempt + 1))

/-- Attempts to show a step. The bound on the attempts is read anew before each one. -/
def showAttempts (step : Step) : Nat → Nat → Run Unit
  | 0, _ => pure ()
  | patience + 1, attempt => do
      if !(← mayAttempt attempt) then return ()
      else if !(← ready step) then
        if ← retryPause (attempt + 1) then showAttempts step patience (attempt + 1)
        else return ()
      else
        match ← Run.outcome (runStep step .preview) with
        | .error fault =>
            recover step attempt fault
            showAttempts step patience (attempt + 1)
        | .ok _ => Run.pause (← Run.settings).showOnlyStepDelay

def showThenDo (step : Step) : Run Bool := do
  runStep step .preview
  Run.pause (← Run.settings).previewSettle
  if ← ready step then
    runStep step .commit
    return true
  else return false

def pauseAfter (step : Step) : Run Unit := do
  let config ← Run.settings
  Run.pause (if step.action = .button then config.stateChangeDelay else config.actionDelay)

/-- Attempts to do a step. A step that is no longer ready after it was shown costs an attempt, and
so does a failure while waiting for the next one. -/
def doAttempts (step : Step) (isLast : Bool) : Nat → Nat → Run Unit
  | 0, _ => pure ()
  | patience + 1, attempt => do
      if !(← mayAttempt attempt) then return ()
      else if !(← ready step) then
        if ← retryPause (attempt + 1) then doAttempts step isLast patience (attempt + 1)
        else return ()
      else
        match ← Run.outcome (showThenDo step) with
        | .ok true => if isLast then return () else pauseAfter step
        | .ok false =>
            match ← Run.outcome (retryPause (attempt + 1)) with
            | .ok _ => doAttempts step isLast patience (attempt + 1)
            | .error fault =>
                recover step (attempt + 1) fault
                doAttempts step isLast patience (attempt + 2)
        | .error fault =>
            recover step attempt fault
            doAttempts step isLast patience (attempt + 1)

def patience : Run Nat :=
  return (← Run.settings).retryMax.ceiling + allowance

def showAll (sequence : String) (position : Nat) : List Step → Run Unit
  | [] => pure ()
  | step :: rest => do
      Run.setIndex sequence position
      if ← prepare step then showAttempts step (← patience) 0
      showAll sequence (position + 1) rest

def doAll (sequence : String) (position : Nat) : List Step → Run Unit
  | [] => pure ()
  | step :: rest => do
      Run.setIndex sequence position
      if ← prepare step then doAttempts step rest.isEmpty (← patience) 0
      doAll sequence (position + 1) rest

def walk (step : Step) (showOnly : Bool) : Run Unit := do
  let selector := step.target
  let steps ← children (← container selector) selector
  if showOnly then showAll step.key 0 steps else doAll step.key 0 steps
  discard (Control.markCompleted (some step.key))

/-- Whatever comes of the run, the selector is not active afterwards. -/
def leaving {α : Type} (selector : String) (run : Run α) : Run α := do
  let result ← Run.outcome run
  Run.ask (.leaveSequence selector)
  match result with
  | .ok value => return value
  | .error fault => throw fault

/-- A sequence whose container is being walked already is turned away. -/
def runSequence (step : Step) (showOnly : Bool) : Run String := do
  let selector := step.target
  if (← Run.ask .activeSequences).contains selector then return selector
  else
    Run.ask (.enterSequence selector)
    leaving selector do
      begin step.key
      failing step.key (walk step showOnly)
      Run.moveTo step.key .completed
    return selector

end Walkthrough.Guide
