import Walkthrough.Facts.Fixed
import Walkthrough.Facts.Served
import Walkthrough.Facts.Routine
/-!
Where a rehearsal takes its facts from: fixed ones, which may fail or take time, or a server that
follows a routine.
-/

namespace Walkthrough.Rehearsal

open Facts

def lookupName : Lookup → String
  | .user => "get_user"
  | .dataSources => "get_data_sources"
  | .plugins => "get_plugins"
  | .dashboards _ => "search_dashboards"
  | .permissions => "get_permissions"
  | .frontendSettings => "get_frontend_settings"

structure Arranged where
  facts : Fixed
  failures : List (String × String)
  delays : List (String × Float)

def Arranged.find? {α : Type} (entries : List (String × α)) (asked : Lookup) : Option α :=
  (entries.find? fun entry => entry.1 == lookupName asked).map Prod.snd

def Arranged.answer (arranged : Arranged) (asked : Lookup) : Except Fault Json :=
  match Arranged.find? arranged.failures asked with
  | some message => .error (.broken message)
  | none => arranged.facts.lookup asked

def Arranged.prompt (arranged : Arranged) (asked : Lookup) : Prompt :=
  match Arranged.find? arranged.delays asked with
  | some seconds => if seconds > 0 then .after seconds else .now (arranged.answer asked)
  | none => .now (arranged.answer asked)

/-- A server with a routine, the client that asks it until it is closed, the time, the replies kept,
and all requests. -/
structure Remote where
  client : Client
  closed : Bool
  routine : Routine
  now : Float
  cache : Cache Float
  requests : List Asked

namespace Remote

def instant : Float := 0.000001

/-- Time passes as it is told to, or, on a clock that runs by itself, unnoticed. -/
def pass (remote : Remote) (runs : Bool) (seconds : Float) : Remote :=
  { remote with now := remote.now + if runs then instant else seconds }

def closedClient : Fault :=
  .broken "Cannot send a request, as the client has been closed."

def send (fetch : Fetch) : StateM Remote Answered := do
  let remote ← get
  match fetch.address remote.client.base with
  | .error defect => return .error (.misuse (.badAddress defect))
  | .ok address =>
      if remote.closed then return .error closedClient
      else
        let asked := remote.client.asked address
        let (turn, routine) := remote.routine.take asked.path
        set { remote with routine := routine, requests := remote.requests ++ [asked] }
        return turn.answered address

def runErrand (errand : Errand) : StateM Remote (errand.Answer Float) :=
  match errand with
  | .clock => return (← get).now
  | .fetch fetch => send fetch

def lookup (asked : Lookup) : StateM Remote (Except Fault Json) := do
  let remote ← get
  let errands : Served Float Json := Served.lookup asked
  let (outcome, cache) ← Dialogue.holdWith runErrand (StateT.run (ExceptT.run errands) remote.cache)
  modify fun later => { later with cache := cache }
  return outcome

end Remote

inductive Source where
  | arranged (arranged : Arranged)
  | remote (remote : Remote)

namespace Source

def prompt (source : Source) (asked : Lookup) : Prompt × Source :=
  match source with
  | .arranged facts => (facts.prompt asked, source)
  | .remote server =>
      let (outcome, server) := (Remote.lookup asked).run server
      (.now outcome, .remote server)

def collect (source : Source) (asked : Lookup) : Except Fault Json × Source :=
  match source with
  | .arranged facts => (facts.answer asked, source)
  | .remote server =>
      let (outcome, server) := (Remote.lookup asked).run server
      (outcome, .remote server)

end Source

end Walkthrough.Rehearsal
