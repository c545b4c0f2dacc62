import Walkthrough.Step.Reader
import Walkthrough.Fault
/-!
Which model each action is read as, in order of registration.
-/

namespace Walkthrough

/-- The models that may be offered for registration; only models of steps are taken. -/
inductive OfferedModel where
  | step (model : Step.Model)
  | innerAction

structure Registration where
  action : Action
  model : Step.Model
  description : Option String

abbrev Registry := List Registration

namespace Registry

/-- A second registration of an action takes the place of the first. -/
def insert (registry : Registry) (entry : Registration) : Registry :=
  match registry with
  | [] => [entry]
  | known :: rest =>
      if known.action = entry.action then entry :: rest else known :: insert rest entry

def register (registry : Registry) (action : Action) (model : OfferedModel)
    (description : Option String) : Except Fault Registry :=
  match model with
  | .step model => .ok (registry.insert ⟨action, model, description⟩)
  | .innerAction => .error (.misuse .notStepModel)

def find? (registry : Registry) (name : Json) : Option Registration :=
  match name with
  | .text name => List.find? (fun entry => entry.action.name == name) registry
  | _ => none

def get (registry : Registry) (name : Json) : Except Fault Registration :=
  match registry.find? name with
  | some entry => .ok entry
  | none => .error (.misuse (.unknownAction name.display))

/-- The first spelling of the action that counts as true, else the value of the last spelling. -/
def actionOf (fields : List (String × Json)) : Json :=
  let given := fun (name : String) => (Fields.lookup fields name).getD .null
  if (given "target_action").truthy then given "target_action"
  else if (given "targetAction").truthy then given "targetAction"
  else given "targetaction"

def read (registry : Registry) (payload : Json) : Except Fault Step :=
  match payload with
  | .object fields =>
      match actionOf fields with
      | .null => .error (.misuse .noAction)
      | name =>
          match registry.get name with
          | .error fault => .error fault
          | .ok entry =>
              match Step.read entry.model payload with
              | .ok step => .ok step
              | .error failure => .error (.invalid failure)
  | _ => .error (.misuse .notStepPayload)

def standard : Registry :=
  [⟨.highlight, .plain, some "Outline or click matched elements"⟩,
   ⟨.button, .plain, some "Outline or click buttons by text"⟩,
   ⟨.formfill, .plain, some "Fill a single form control"⟩,
   ⟨.navigate, .plain, some "Route to a path or open a URL"⟩,
   ⟨.sequence, .plain, some "Run every step inside a container"⟩,
   ⟨.multistep, .multi, some "Run inline internal actions"⟩]

end Registry

end Walkthrough
