import Walkthrough.Request
import Walkthrough.Document
import Walkthrough.Store.EventLog
import Walkthrough.Rehearsal.Source
/-!
The stage of a rehearsal: a page held in memory, the settings, the records of all steps and a
source of facts. It answers whatever a run asks, and keeps a trace of what was done. Before an
event takes effect it may be interrupted, which can change everything on the stage.
-/

namespace Walkthrough.Rehearsal

/-- What the trace tells. Commands stand in it as they were given. -/
inductive Entry where
  | state (change : StateChange)
  | execute (action : Json) (target : String) (value : Option String) (mode : Json)
  | call (call : PageCall)
  | pause (milliseconds : Int)
  | interruption (name : String) (outcome : Except Fault Json)

/-- Besides the page, the settings and the records: what the page was asked to find, and how many
events each intervention has seen. -/
structure Stage where
  document : Document
  tuning : Tuning
  store : Store
  active : List String
  source : Source
  log : Option EventLog
  trace : List Entry
  queries : List String
  seen : List Nat

structure Event where
  name : String
  subject : Json

def eventOf : PageCall → Event
  | .query selector _ => ⟨"query", .text selector⟩
  | .text _ | .directText _ | .renderedText _ => ⟨"text", .null⟩
  | .attributes _ => ⟨"attributes", .null⟩
  | .contains .. => ⟨"contains", .null⟩
  | .location => ⟨"location", .null⟩
  | .click _ => ⟨"click", .null⟩
  | .highlight .. => ⟨"highlight", .null⟩
  | .setValue _ value => ⟨"set_value", .text value⟩
  | .formEvents .. => ⟨"form_events", .null⟩
  | .pushRoute path => ⟨"push_route", .text path⟩
  | .openExternal address => ⟨"open_external", .text address⟩
  | .markCompleted _ => ⟨"mark", .null⟩
  | .clearCompleted _ => ⟨"clear", .null⟩
  | .completionEvent .. => ⟨"completion_event", .null⟩
  | .settle => ⟨"settle", .null⟩

def isTraced : PageCall → Bool
  | .query .. | .text _ | .directText _ | .renderedText _ | .attributes _ | .contains ..
  | .location => false
  | _ => true

/-- What may happen before an event takes effect; a failure takes the place of the event. -/
abbrev Interrupt := Event → StateM Stage (Except Fault Unit)

def uninterrupted : Interrupt :=
  fun _ => pure (.ok ())

namespace Stage

def note (entry : Entry) : StateM Stage Unit :=
  modify fun stage => { stage with trace := stage.trace ++ [entry] }

def act (call : PageCall) : StateM Stage (Except Fault call.Answer) := do
  let stage ← get
  let (document, answer) := stage.document.answer call
  let queries := match call with
    | .query selector _ => stage.queries ++ [selector]
    | _ => stage.queries
  set { stage with document := document, queries := queries }
  return answer

def page (interrupt : Interrupt) (call : PageCall) : StateM Stage (Except Fault call.Answer) := do
  if isTraced call then note (.call call)
  match ← interrupt (eventOf call) with
  | .ok _ => act call
  | .error fault => return .error fault

def pause (interrupt : Interrupt) (milliseconds : Int) : StateM Stage (Except Fault Unit) := do
  note (.pause milliseconds)
  interrupt ⟨"pause", .int milliseconds⟩

/-- Every accepted move is traced and written to the log, if there is one. -/
def tell (change : StateChange) : StateM Stage Unit := do
  note (.state change)
  modify fun stage => { stage with log := stage.log.map fun log => (log.record change).1 }

def move (move : Move) : StateM Stage (Except GuideError StepState) := do
  match (← get).store.transition move with
  | .error error => return .error error
  | .ok (change, store) =>
      modify fun stage => { stage with store := store }
      tell change
      return .ok ((← get).store.get move.step)

def enter (selector : String) : StateM Stage Unit :=
  modify fun stage =>
    if stage.active.contains selector then stage
    else { stage with active := stage.active ++ [selector] }

def leave (selector : String) : StateM Stage Unit :=
  modify fun stage => { stage with active := stage.active.filter (· != selector) }

def announce (command : Command) : StateM Stage Unit :=
  note (.execute (.text command.action.name) command.target command.value
    (.text command.mode.name))

def prompt (asked : Lookup) : StateM Stage Prompt := do
  let (reply, source) := (← get).source.prompt asked
  modify fun stage => { stage with source := source }
  return reply

def collect (asked : Lookup) : StateM Stage (Except Fault Json) := do
  let (reply, source) := (← get).source.collect asked
  modify fun stage => { stage with source := source }
  return reply

def answer (interrupt : Interrupt) (request : Request) : StateM Stage request.Answer :=
  match request with
  | .page call => page interrupt call
  | .lookup asked => prompt asked
  | .collect asked => collect asked
  | .pause milliseconds => pause interrupt milliseconds
  | .announce command => announce command
  | .settings => return (← get).tuning
  | .states => return (← get).store
  | .move request => move request
  | .setIndex step index =>
      modify fun stage => { stage with store := stage.store.setIndex step index }
  | .activeSequences => return (← get).active
  | .enterSequence selector => enter selector
  | .leaveSequence selector => leave selector

def hold {α : Type} (interrupt : Interrupt) (run : Run α) : StateM Stage (Except Fault α) :=
  Dialogue.holdWith (answer interrupt) run.run

end Stage

end Walkthrough.Rehearsal
