import Walkthrough.Dialogue
import Walkthrough.Page
import Walkthrough.Facts
import Walkthrough.Tuning
import Walkthrough.Store
import Walkthrough.Step.Action
/-!
What a running guide asks of its surroundings: calls of the page, facts about the user and the
server, pauses, the settings, and the records that all runs share. Page calls, slow facts and
pauses let other runs go on in the meantime; every other request is answered at once.
-/

namespace Walkthrough

structure Command where
  action : Action
  target : String
  value : Option String
  mode : Mode
deriving DecidableEq, Repr

inductive Request where
  | page (call : PageCall)
  | lookup (asked : Lookup)
  | collect (asked : Lookup)
  | pause (milliseconds : Int)
  | announce (command : Command)
  | settings
  | states
  | move (move : Move)
  | setIndex (step : String) (index : Int)
  | activeSequences
  | enterSequence (selector : String)
  | leaveSequence (selector : String)
deriving DecidableEq, Repr

namespace Request

/-- A lookup that takes time is collected when the time is over. -/
@[reducible] def Answer : Request → Type
  | page call => Except Fault call.Answer
  | lookup _ => Prompt
  | collect _ => Except Fault Json
  | pause _ => Except Fault Unit
  | announce _ => Unit
  | settings => Tuning
  | states => Store
  | move _ => Except GuideError StepState
  | setIndex .. => Unit
  | activeSequences => List String
  | enterSequence _ => Unit
  | leaveSequence _ => Unit

end Request

abbrev Run (α : Type) := ExceptT Fault (Dialogue Request.Answer) α

namespace Run

def ask (request : Request) : Run request.Answer :=
  ExceptT.lift (Dialogue.question request)

def page (call : PageCall) : Run call.Answer :=
  ExceptT.mk (Dialogue.question (Request.page call))

def settings : Run Tuning :=
  ask .settings

def ofMisuse {α : Type} (value : Except Misuse α) : Run α :=
  match value with
  | .ok value => pure value
  | .error cause => throw (.misuse cause)

/-- Without a delay there is no pause at all. -/
def pause (delay : Amount) : Run Unit := do
  if ← ofMisuse delay.isPositive then
    let milliseconds ← ofMisuse delay.milliseconds
    ExceptT.mk (Dialogue.question (Request.pause milliseconds))

def state (step : String) : Run StepState :=
  return (← ask .states).get step

def status (step : String) : Run Status :=
  return (← state step).status

def move (move : Move) : Run StepState := do
  match ← ask (.move move) with
  | .ok state => return state
  | .error error => throw (.guide error)

/-- To a status that brings no error text and no index. -/
def moveTo (step : String) (status : Status) : Run Unit :=
  discard (move ⟨step, status, none, none⟩)

/-- Back to idle; an idle step is left alone. -/
def reset (step : String) : Run StepState := do
  let current ← state step
  if current.status = .idle then return current
  else move ⟨step, .idle, none, none⟩

def setIndex (step : String) (index : Nat) : Run Unit :=
  ask (.setIndex step index)

def outcome {α : Type} (run : Run α) : Run (Except Fault α) :=
  ExceptT.lift run.run

end Run

end Walkthrough
