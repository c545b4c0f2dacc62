import Walkthrough.Store.EventLog
/-!
States, stores and lines of a log as dynamic values.
-/

namespace Walkthrough

def indexOrNull (index : Option Int) : Json :=
  (index.map Json.int).getD .null

def StepState.fields (state : StepState) : List (String × Json) :=
  [("status", .text state.status.name), ("current_index", indexOrNull state.index),
   ("error", .ofOption state.error)]

def StepState.report (state : StepState) : Json :=
  .object state.fields

def Store.report (store : Store) : Json :=
  .list (store.map fun entry => .list [.text entry.1, entry.2.report])

def LogLine.report (line : LogLine) : Json :=
  .object [("run_id", .text line.run), ("seq", .ofNat line.number),
    ("step_id", .text line.change.step), ("previous", .text line.change.previous.name),
    ("status", .text line.change.status.name), ("error", .ofOption line.change.error),
    ("current_index", indexOrNull line.change.index)]

def EventLog.report (log : EventLog) : Json :=
  .list (log.lines.map LogLine.report)

def Status.ofJson (name : Json) : Except Fault Status :=
  let refused := Except.error (Fault.misuse (.notChoice name "StepStatus"))
  match name with
  | .text content =>
      match ofName? content with
      | some status => .ok status
      | none => refused
  | _ => refused

end Walkthrough
