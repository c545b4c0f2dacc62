import Walkthrough.Store.Status
import Walkthrough.Fault
/-!
The state of every step, by its key, in the order in which the steps were first touched.
-/

namespace Walkthrough

structure StepState where
  status : Status
  index : Option Int
  error : Option String
deriving DecidableEq, Repr

def StepState.fresh : StepState :=
  ⟨.idle, none, none⟩

structure StateChange where
  step : String
  previous : Status
  status : Status
  error : Option String
  index : Option Int
deriving DecidableEq, Repr

structure Move where
  step : String
  status : Status
  error : Option String
  index : Option Int
deriving DecidableEq, Repr

abbrev Store := List (String × StepState)

namespace Store

def find? (store : Store) (step : String) : Option StepState :=
  (List.find? (fun entry => entry.1 == step) store).map Prod.snd

def get (store : Store) (step : String) : StepState :=
  (store.find? step).getD .fresh

def status (store : Store) (step : String) : Status :=
  (store.get step).status

/-- In its place, or at the end. -/
def put (store : Store) (step : String) (state : StepState) : Store :=
  match store with
  | [] => [(step, state)]
  | entry :: rest =>
      if entry.1 = step then (step, state) :: rest else entry :: put rest step state

/-- The state after an accepted move. The index is kept unless a new one is given or the step
becomes idle; an error text is kept only in an error. -/
def moved (current : StepState) (move : Move) : StepState :=
  { status := move.status
    index := match move.index with
      | some index => some index
      | none => if move.status = .idle then none else current.index
    error := if move.status = .error then move.error else none }

def transition (store : Store) (move : Move) : Except GuideError (StateChange × Store) :=
  let current := store.get move.step
  if current.status.mayBecome move.status then
    let state := moved current move
    .ok (⟨move.step, current.status, move.status, state.error, state.index⟩,
      store.put move.step state)
  else .error (.transition move.step current.status.name move.status.name)

def setIndex (store : Store) (step : String) (index : Int) : Store :=
  store.put step { store.get step with index := some index }

theorem get_put_same (store : Store) (step : String) (state : StepState) :
    (store.put step state).get step = state := by
  induction store with
  | nil => simp [put, get, find?]
  | cons entry rest ih =>
      unfold put
      split
      · simp [get, find?]
      · next other =>
          simpa [get, find?, List.find?_cons, other] using ih

theorem find?_put_other (store : Store) {step other : String} (state : StepState)
    (distinct : other ≠ step) : (store.put step state).find? other = store.find? other := by
  induction store with
  | nil => simp [put, find?, Ne.symm distinct]
  | cons entry rest ih =>
      unfold put
      split
      · next same =>
          subst same
          simp [find?, Ne.symm distinct]
      · by_cases here : entry.1 = other
        · simp [find?, here]
        · simpa [find?, List.find?_cons, here] using ih

theorem get_put_other (store : Store) {step other : String} (state : StepState)
    (distinct : other ≠ step) : (store.put step state).get other = store.get other := by
  rw [get, get, find?_put_other store state distinct]

end Store

end Walkthrough
