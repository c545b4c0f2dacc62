import Walkthrough.Facts.Client
import Walkthrough.Store.EventLog
/-!
What a guide is set up with, before it does anything: how it reaches the page, how long facts are
kept, and where its events are logged.
-/

namespace Walkthrough.Guide

inductive Reach where
  | bridged (settle : Int)
  | direct
deriving DecidableEq, Repr

structure Setup where
  reach : Reach
  cacheTtl : Float
  log : Option String

def logOf (run : Option String) : Option EventLog :=
  match run with
  | none | some "" => none
  | some name => some (EventLog.start name)

/-- A page that answers by itself goes before one that has to be bridged. The server that tells the
facts needs an address. -/
def setUp (direct bridgeable : Bool) (config : Config) (run : Option String) :
    Except Misuse Setup := do
  let reach ← if direct then .ok .direct
    else if bridgeable then .ok (.bridged config.settle)
    else .error .noPage
  let _ ← Facts.Client.ofConfig config false
  return ⟨reach, config.cacheTtl, (logOf run).map fun log => EventLog.path log.run⟩

end Walkthrough.Guide
