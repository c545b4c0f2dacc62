import Walkthrough.Browser.Connection
import Walkthrough.Facts.Routine
/-!
Connecting in a rehearsal: endpoints and browsers follow a routine, and time passes only while
sleeping.
-/

namespace Walkthrough.Rehearsal

open Browser Facts

/-- What comes of connecting to an endpoint: windows with pages, or a refusal; and what comes of
closing the browser. -/
structure Hosted where
  windows : Except String (List (List String))
  closing : Option String

inductive Done where
  | start
  | connect (endpoint : String)
  | openWindow
  | openPage
  | close
  | stop
deriving DecidableEq, Repr

structure Surroundings where
  endpoints : Routine
  browsers : List (String × Hosted)
  now : Float
  done : List Done
  polls : List String

def openedPage : String := "new-page"

namespace Surroundings

def note (entry : Done) : StateM Surroundings Unit :=
  modify fun around => { around with done := around.done ++ [entry] }

def hosted? (around : Surroundings) (endpoint : String) : Option Hosted :=
  (around.browsers.find? fun entry => entry.1 == endpoint).map Prod.snd

def connect (endpoint : String) : StateM Surroundings (Except Fault Found) := do
  note (.connect endpoint)
  match (← get).hosted? endpoint with
  | none => return .ok ⟨endpoint, []⟩
  | some hosted =>
      match hosted.windows with
      | .ok windows => return .ok ⟨endpoint, windows⟩
      | .error message => return .error (.page message)

def close (browser : Found) : StateM Surroundings (Except Fault Unit) := do
  note .close
  match ((← get).hosted? browser.endpoint).bind Hosted.closing with
  | some message => return .error (.page message)
  | none => return .ok ()

def poll (address : Address) : StateM Surroundings Answered := do
  let around ← get
  let url := address.text
  let (turn, endpoints) := around.endpoints.take url
  set { around with endpoints := endpoints, polls := around.polls ++ [url] }
  return turn.answered address

def sleep (seconds : Float) : StateM Surroundings Unit :=
  modify fun around =>
    if seconds > 0 then { around with now := around.now + seconds } else around

def answer (errand : Browser.Errand) : StateM Surroundings errand.Answer :=
  match errand with
  | .clock => return (← get).now
  | .sleep seconds => sleep seconds
  | .poll address => poll address
  | .start => note .start
  | .connect endpoint => connect endpoint
  | .openWindow _ => do
      note .openWindow
      return .ok []
  | .openPage _ => do
      note .openPage
      return .ok openedPage
  | .close browser => close browser
  | .stop => note .stop

def hold {α : Type} (connecting : Connecting α) (connection : Connection)
    (around : Surroundings) : (Except Fault α × Connection) × Surroundings :=
  (Dialogue.holdWith answer (StateT.run (ExceptT.run connecting) connection)).run around

end Surroundings

end Walkthrough.Rehearsal
