/-!
The states of a step and the moves between them.
-/

namespace Walkthrough

inductive Status where
  | idle
  | running
  | completed
  | error
deriving DecidableEq, Repr

namespace Status

def all : List Status := [idle, running, completed, error]

def name : Status → String
  | idle => "idle"
  | running => "running"
  | completed => "completed"
  | error => "error"

def ofName? (name : String) : Option Status :=
  all.find? fun status => status.name == name

/-- An idle step may complete at once, when its objectives are already met. -/
def next : Status → List Status
  | idle => [running, completed]
  | running => [idle, completed, error]
  | completed => [idle]
  | error => [idle]

def mayBecome (current requested : Status) : Bool :=
  current.next.contains requested

theorem mayBecome_idle_of_ne (current : Status) (busy : current ≠ idle) :
    current.mayBecome idle = true := by
  cases current with
  | idle => exact absurd rfl busy
  | running | completed | error => decide

end Status

end Walkthrough
