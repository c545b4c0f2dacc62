import Walkthrough.Store.Channel
import Walkthrough.Config.Path
import Walkthrough.Decimal.Reader
/-!
The log of a run: one numbered line for each state change it is told and that can be written down.
-/

namespace Walkthrough

/-- A line gives the index in digits, which a number of too many digits has not. -/
def StateChange.isWritable (change : StateChange) : Bool :=
  !change.index.any Decimal.isOverlong

structure LogLine where
  run : String
  number : Nat
  change : StateChange
deriving DecidableEq, Repr

/-- The number of the last line asked for, and the lines written. -/
structure EventLog where
  run : String
  number : Nat
  lines : List LogLine
  closed : Bool
deriving DecidableEq, Repr

namespace EventLog

def start (run : String) : EventLog :=
  ⟨run, 0, [], false⟩

/-- Every change is counted, also one that cannot be written and one that comes after the end. -/
def record (log : EventLog) (change : StateChange) : EventLog × Except Fault Nat :=
  let number := log.number + 1
  if !change.isWritable then ({ log with number := number }, .error (.misuse .overlongNumber))
  else if log.closed then ({ log with number := number }, .error (.misuse .closedLog))
  else ({ log with number := number, lines := log.lines ++ [⟨log.run, number, change⟩] },
    .ok number)

def close (log : EventLog) : EventLog :=
  { log with closed := true }

def path (run : String) : String :=
  Path.plain (run ++ "/events.jsonl")

end EventLog

end Walkthrough
