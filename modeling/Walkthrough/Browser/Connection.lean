import Walkthrough.Browser.Endpoint
import Walkthrough.Facts.Reply
import Walkthrough.Amount
import Walkthrough.Dialogue
/-!
Connecting to a browser that is running already. Each candidate is waited for in turn; the first
one that answers and can be connected to is used.
-/

namespace Walkthrough.Browser

structure Found where
  endpoint : String
  windows : List (List String)
deriving DecidableEq, Repr

inductive Errand where
  | clock
  | sleep (seconds : Float)
  | poll (address : Address)
  | start
  | connect (endpoint : String)
  | openWindow (browser : Found)
  | openPage (browser : Found)
  | close (browser : Found)
  | stop

/-- A new window has the pages that it is opened with. -/
@[reducible] def Errand.Answer : Errand → Type
  | clock => Float
  | sleep _ => Unit
  | poll _ => Answered
  | start => Unit
  | connect _ => Except Fault Found
  | openWindow _ => Except Fault (List String)
  | openPage _ => Except Fault String
  | close _ => Except Fault Unit
  | stop => Unit

structure Connection where
  started : Bool
  browser : Option Found
  page : Option String
  run : Option String
deriving DecidableEq, Repr

namespace Connection

def closed : Connection := ⟨false, none, none, none⟩

end Connection

abbrev Connecting (α : Type) :=
  ExceptT Fault (StateT Connection (Dialogue Errand.Answer)) α

namespace Connecting

def ask (errand : Errand) : Connecting errand.Answer :=
  ExceptT.lift (StateT.lift (Dialogue.question errand))

def ofOutcome {α : Type} (outcome : Except Fault α) : Connecting α :=
  match outcome with
  | .ok value => pure value
  | .error fault => throw fault

/-! Waiting for an endpoint. -/

def isUp (answered : Answered) : Except Fault Bool :=
  match answered with
  | .ok reply => .ok (reply.status == 200)
  | .error (.exchange _) => .ok false
  | .error fault => .error fault

def placeOf (url : String) : Except Misuse Address :=
  (Address.read url >>= Address.nowhere.below).mapError Misuse.badAddress

/-- Polls until an answer comes or the time is over, at most `polls` times. That there is no place
to poll comes out when it is polled. -/
def pollUntil (place : Except Misuse Address) (deadline interval : Float) : Nat → Connecting Bool
  | 0 => return false
  | polls + 1 => do
      if !((← ask .clock) < deadline) then return false
      else if ← ofOutcome (isUp (← ask (.poll (← ofOutcome (place.mapError Fault.misuse))))) then
        return true
      else
        ask (.sleep interval)
        pollUntil place deadline interval polls

/-- No more polls than this fit between the intervals; where these take no time, `patience` tells
how many there are. -/
def pollBound (limit interval : Float) (patience : Nat) : Nat :=
  if interval > 0 then (limit / interval).toUInt64.toNat + 3 else patience

def waitTimeout : Amount := .real 6.0

def pollInterval : Float := 0.25

def limitOf : Amount → Except Misuse Float
  | .whole number => .ok (if number > 1 then Decimal.roundInteger number else 1.0)
  | .real number => .ok (if number > 1.0 then number else 1.0)
  | .unusable kind => .error (.unordered ">" "float" kind)

def waitFor (endpoint : String) (timeout : Amount) (interval : Float) (patience : Nat) :
    Connecting Bool := do
  match Endpoint.versionUrl endpoint with
  | .error defect => throw (.misuse (.badUrl defect))
  | .ok "" => return false
  | .ok url =>
      let limit ← ofOutcome ((limitOf timeout).mapError Fault.misuse)
      let deadline := (← ask .clock) + limit
      pollUntil (placeOf url) deadline interval (pollBound limit interval patience)

/-! Connecting and closing. -/

def adopt (browser : Found) : Connecting Unit := do
  let pages ← match browser.windows with
    | window :: _ => pure window
    | [] => do ofOutcome (← ask (.openWindow browser))
  modify fun connection => { connection with browser := some browser }
  let page ← match pages with
    | page :: _ => pure page
    | [] => do ofOutcome (← ask (.openPage browser))
  modify fun connection => { connection with page := some page }

def unavailable (reason : Option String) : Fault :=
  .broken ("Shared browser unavailable: " ++ reason.getD "no CDP endpoint configured")

def tryAll (reason : Option String) : List String → Connecting Unit
  | [] => throw (unavailable reason)
  | candidate :: rest => do
      if ← waitFor candidate waitTimeout pollInterval 0 then
        match ← ask (.connect candidate) with
        | .ok browser => adopt browser
        | .error (.page message) => tryAll (some (candidate ++ ": " ++ message)) rest
        | .error fault => throw fault
      else tryAll (some (candidate ++ " did not respond")) rest

def connect (environment : List (String × String)) : Connecting Unit := do
  let connection ← get
  if connection.page.isSome then return ()
  else
    if !connection.started then
      ask .start
      modify fun connection => { connection with started := true }
    tryAll none (Endpoint.candidates environment)

/-- The page and the run are given up first, then the browser, then the driver of browsers. A
browser that cannot be closed is left to itself. -/
def close : Connecting Unit := do
  let connection ← get
  set { connection with run := none, page := none, browser := none }
  match connection.browser with
  | none => pure ()
  | some browser =>
      match ← ask (.close browser) with
      | .error (.page _) => pure ()
      | outcome => ofOutcome outcome
  if connection.started then
    ask .stop
    modify fun later => { later with started := false }

def runVariable : String := "GUIDE_RUN_ID"

def runName (environment : List (String × String)) (otherwise : String) : String :=
  match (environment.find? fun entry => entry.1 == runVariable).map Prod.snd with
  | none | some "" => otherwise
  | some name => name

def run (environment : List (String × String)) (fresh : String) : Connecting String := do
  match (← get).run with
  | some name => return name
  | none =>
      connect environment
      let name := runName environment fresh
      modify fun connection => { connection with run := some name }
      return name

end Connecting

end Walkthrough.Browser
