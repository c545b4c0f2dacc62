import Walkthrough.Rehearsal.Operation
import Walkthrough.Json.Same
/-!
Interventions: operations that are performed in the middle of a run, when a certain event happens.
While an intervention is being performed, no further ones take place.
-/

namespace Walkthrough.Rehearsal

/-- A step of an intervention: an operation under its name, or a failure of the event itself. -/
inductive Cue where
  | perform (name : String) (operation : Operation)
  | raise (fault : Fault)

/-- The events it waits for, the one among them at which it takes place (every one if none is
given), and what is done. -/
structure Intervention where
  event : String
  subject : Option Json
  nth : Option Nat
  cues : List Cue

namespace Intervention

def awaits (intervention : Intervention) (event : Event) : Bool :=
  intervention.event == event.name &&
    match intervention.subject with
    | some subject => subject.same event.subject
    | none => true

/-- It takes place when it has seen so many events. -/
def isDue (intervention : Intervention) (seen : Nat) : Bool :=
  match intervention.nth with
  | some nth => seen == nth
  | none => true

end Intervention

def performCues : List Cue → StateM Stage (Except Fault Unit)
  | [] => return .ok ()
  | .raise fault :: _ => return .error fault
  | .perform name operation :: rest => do
      let outcome ← operation.perform uninterrupted
      Stage.note (.interruption name outcome)
      performCues rest

def countSeen (position : Nat) : StateM Stage Nat := do
  modify fun stage => { stage with seen := stage.seen.modify position (· + 1) }
  return (← get).seen.getD position 0

/-- The interventions that an event calls for, in order, up to a failure. -/
def interveneFrom (position : Nat) (event : Event) :
    List Intervention → StateM Stage (Except Fault Unit)
  | [] => return .ok ()
  | intervention :: rest => do
      if !intervention.awaits event then interveneFrom (position + 1) event rest
      else
        let seen ← countSeen position
        let outcome ← if intervention.isDue seen then performCues intervention.cues
          else pure (.ok ())
        match outcome with
        | .ok _ => interveneFrom (position + 1) event rest
        | .error fault => return .error fault

def interrupting (interventions : List Intervention) : Interrupt :=
  fun event => interveneFrom 0 event interventions

namespace Stage

def perform (interventions : List Intervention) (operation : Operation) (stage : Stage) :
    Except Fault Json × List Entry × Stage :=
  let quiet := { stage with trace := [] }
  let (outcome, later) := (operation.perform (interrupting interventions)).run quiet
  (outcome, later.trace, later)

end Stage

end Walkthrough.Rehearsal
