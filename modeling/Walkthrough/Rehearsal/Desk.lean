import Walkthrough.Store.Report
/-!
Rehearsing the records alone: listeners with habits and event logs subscribe under names, and steps
are moved by hand.
-/

namespace Walkthrough.Rehearsal

/-- What a listener does whenever it is told of a change: it fails, or it ends the subscriptions of
others and, at a certain status, moves the step on. -/
structure Habit where
  fails : Bool
  removes : List String
  awaits : Option Status
  becomes : Option Status

structure Subscriber where
  serial : Nat
  name : String
  habit : Habit

structure Attached where
  serial : Nat
  name : String
  log : EventLog

/-- A line in the file to which a log was opened. Logs opened to one file all write to its end. -/
structure Written where
  place : List (List Char)
  line : LogLine

structure Desk where
  board : Board
  subscribers : List Subscriber
  logs : List Attached
  written : List Written
  next : Nat

namespace Desk

def empty : Desk := ⟨Board.empty, [], [], [], 0⟩

def serialOf (subscribers : List Subscriber) (name : String) : Option Nat :=
  (subscribers.reverse.find? fun subscriber => subscriber.name == name).map Subscriber.serial

def moveOn (habit : Habit) (told : List StateChange) : List Reaction :=
  match told, habit.awaits, habit.becomes with
  | change :: _, some awaited, some next =>
      if change.status = awaited then [.move ⟨change.step, next, none, none⟩] else []
  | _, _, _ => []

def reactions (subscribers : List Subscriber) (habit : Habit) (told : List StateChange) :
    List Reaction :=
  if habit.fails then [.fail]
  else (habit.removes.filterMap (serialOf subscribers)).map Reaction.unsubscribe
    ++ moveOn habit told

def informed (subscribers : List Subscriber) (listener : Listener) : Listener :=
  match subscribers.find? fun subscriber => subscriber.serial == listener.serial with
  | some subscriber => { listener with react := reactions subscribers subscriber.habit }
  | none => listener

def subscribe (desk : Desk) (name : String) (habit : Habit) : Desk :=
  let subscribers := desk.subscribers ++ [⟨desk.next, name, habit⟩]
  let board := desk.board.subscribe ⟨desk.next, fun _ => []⟩
  { desk with
    subscribers := subscribers
    board := { board with listeners := board.listeners.map (informed subscribers) }
    next := desk.next + 1 }

def unsubscribe (desk : Desk) (name : String) : Desk :=
  match serialOf desk.subscribers name with
  | some serial => { desk with board := desk.board.unsubscribe serial }
  | none => desk

def attach (desk : Desk) (name : String) : Desk :=
  { desk with
    board := desk.board.subscribe ⟨desk.next, fun _ => []⟩
    logs := desk.logs ++ [⟨desk.next, name, EventLog.start name⟩]
    next := desk.next + 1 }

def log? (desk : Desk) (name : String) : Option Attached :=
  desk.logs.reverse.find? fun attached => attached.name == name

def placeOf (name : String) : List (List Char) :=
  Path.place (EventLog.path name)

def putLog (desk : Desk) (serial : Nat) (log : EventLog) : Desk :=
  let put := fun (attached : Attached) =>
    if attached.serial = serial then { attached with log := log } else attached
  { desk with logs := desk.logs.map put }

def write (desk : Desk) (attached : Attached) (change : StateChange) :
    Desk × Except Fault Nat :=
  let (log, outcome) := attached.log.record change
  let told := desk.putLog attached.serial log
  match outcome with
  | .ok number =>
      let line : Written := ⟨placeOf attached.name, ⟨log.run, number, change⟩⟩
      ({ told with written := told.written ++ [line] }, .ok number)
  | .error fault => (told, .error fault)

def readLog (desk : Desk) (name : String) : Json :=
  match desk.log? name with
  | some attached =>
      .list ((desk.written.filter fun written => written.place == placeOf attached.name).map
        fun written => written.line.report)
  | none => .null

def closeLog (desk : Desk) (name : String) : Desk :=
  match desk.log? name with
  | some attached =>
      { desk.putLog attached.serial attached.log.close with
        board := desk.board.unsubscribe attached.serial }
  | none => desk

def record (desk : Desk) (name : String) (change : StateChange) : Desk × Except Fault Json :=
  match desk.log? name with
  | some attached =>
      let (later, outcome) := desk.write attached change
      (later, outcome.map Json.ofNat)
  | none => (desk, .ok .null)

/-- Moves of listeners nest no deeper than this. -/
def nesting : Nat := 200

def ofGuide {α : Type} (outcome : Except GuideError α) : Except Fault α :=
  match outcome with
  | .ok value => .ok value
  | .error error => .error (.guide error)

inductive Operation where
  | transition (key : String) (status : Json) (error : Option String) (index : Option Int)
  | setIndex (key : String) (index : Int)
  | reset (key : String)
  | get (key : String)
  | snapshot
  | subscribe (name : String) (habit : Habit)
  | unsubscribe (name : String)
  | attachLog (name : String)
  | closeLog (name : String)
  | record (name key : String) (previous status : Json) (error : Option String)
      (index : Option Int)
  | readLog (name : String)
  | nothing

def perform (desk : Desk) : Operation → Desk × Except Fault Json
  | .transition key status error index =>
      match Status.ofJson status with
      | .error fault => (desk, .error fault)
      | .ok status =>
          let (board, outcome) := desk.board.move nesting ⟨key, status, error, index⟩
          ({ desk with board := board }, (ofGuide outcome).map StepState.report)
  | .setIndex key index => ({ desk with board := desk.board.setIndex key index }, .ok .null)
  | .reset key =>
      let (board, outcome) := desk.board.reset nesting key
      ({ desk with board := board }, (ofGuide outcome).map StepState.report)
  | .get key => (desk, .ok (desk.board.store.get key).report)
  | .snapshot => (desk, .ok desk.board.store.report)
  | .subscribe name habit => (desk.subscribe name habit, .ok .null)
  | .unsubscribe name => (desk.unsubscribe name, .ok .null)
  | .attachLog name => (desk.attach name, .ok (.text (EventLog.path name)))
  | .closeLog name => (desk.closeLog name, .ok .null)
  | .record name key previous status error index =>
      match Status.ofJson previous, Status.ofJson status with
      | .ok previous, .ok status => desk.record name ⟨key, previous, status, error, index⟩
      | .error fault, _ => (desk, .error fault)
      | _, .error fault => (desk, .error fault)
  | .readLog name => (desk, .ok (desk.readLog name))
  | .nothing => (desk, .ok .null)

def writeDown (desk : Desk) (notice : Notice) : Desk :=
  match desk.logs.find? fun attached => attached.serial == notice.serial with
  | some attached => (desk.write attached notice.change).1
  | none => desk

def deliveries (desk : Desk) (notices : List Notice) : List (String × StateChange) :=
  notices.filterMap fun notice =>
    (desk.subscribers.find? fun subscriber => subscriber.serial == notice.serial).map
      fun subscriber => (subscriber.name, notice.change)

def step (desk : Desk) (operation : Operation) :
    Desk × Except Fault Json × List (String × StateChange) :=
  let (later, outcome) := desk.perform operation
  let fresh := later.board.notices.drop desk.board.notices.length
  (fresh.foldl writeDown later, outcome, later.deliveries fresh)

end Desk

end Walkthrough.Rehearsal
