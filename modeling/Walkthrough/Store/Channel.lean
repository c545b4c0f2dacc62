import Walkthrough.Store
/-!
Telling listeners about state changes. Every accepted move is told to the listeners that are
subscribed when its telling starts. A listener may fail, which concerns nobody else, and it may do
everything that can be done from outside before the next listener is told: begin and end
subscriptions, move steps and set their index.
-/

namespace Walkthrough

mutual

inductive Reaction where
  | subscribe (listener : Listener)
  | unsubscribe (serial : Nat)
  | move (move : Move)
  | setIndex (step : String) (index : Int)
  | fail

/-- A subscriber: `react` says what it does on the latest of the changes it was told, newest
first. Two subscribers are the same if their serial numbers are. -/
structure Listener where
  serial : Nat
  react : List StateChange → List Reaction

end

structure Notice where
  serial : Nat
  change : StateChange
deriving DecidableEq, Repr

structure Board where
  store : Store
  listeners : List Listener
  notices : List Notice

namespace Board

def empty : Board := ⟨[], [], []⟩

def subscribe (board : Board) (listener : Listener) : Board :=
  { board with listeners := board.listeners ++ [listener] }

/-- The first subscription of that subscriber ends; without one, nothing happens. -/
def unsubscribe (board : Board) (serial : Nat) : Board :=
  { board with listeners := board.listeners.eraseP fun listener => listener.serial == serial }

def told (board : Board) (serial : Nat) : List StateChange :=
  ((board.notices.filter fun notice => notice.serial == serial).map Notice.change).reverse

def setIndex (board : Board) (step : String) (index : Int) : Board :=
  { board with store := board.store.setIndex step index }

def reactAll (moveAgain : Board → Move → Board) (board : Board) : List Reaction → Board
  | [] => board
  | .fail :: _ => board
  | .subscribe listener :: rest => reactAll moveAgain (board.subscribe listener) rest
  | .unsubscribe serial :: rest => reactAll moveAgain (board.unsubscribe serial) rest
  | .move move :: rest => reactAll moveAgain (moveAgain board move) rest
  | .setIndex step index :: rest => reactAll moveAgain (board.setIndex step index) rest

def tell (moveAgain : Board → Move → Board) (change : StateChange) (board : Board)
    (listener : Listener) : Board :=
  let noted := { board with notices := board.notices ++ [⟨listener.serial, change⟩] }
  reactAll moveAgain noted (listener.react (noted.told listener.serial))

def moveWith (moveAgain : Board → Move → Board) (board : Board) (move : Move) :
    Board × Except GuideError StepState :=
  match board.store.transition move with
  | .error error => (board, .error error)
  | .ok (change, store) =>
      (board.listeners.foldl (tell moveAgain change) { board with store := store },
        .ok (store.get move.step))

/-- Moves of listeners nest at most `depth` deep. -/
def move : Nat → Board → Move → Board × Except GuideError StepState
  | 0, board, request => moveWith (fun board _ => board) board request
  | depth + 1, board, request =>
      moveWith (fun board inner => (move depth board inner).1) board request

def reset (depth : Nat) (board : Board) (step : String) :
    Board × Except GuideError StepState :=
  if board.store.status step = .idle then (board, .ok (board.store.get step))
  else board.move depth ⟨step, .idle, none, none⟩

end Board

end Walkthrough
