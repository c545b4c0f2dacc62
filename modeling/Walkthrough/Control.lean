import Walkthrough.Selector.Resolution
import Walkthrough.Step.Attributes
/-!
The rendered controls of steps. Every control carries the id of a step or of a section; controls
with the same id form a group, which is marked as completed as a whole.
-/

namespace Walkthrough.Control

open Text

/-- The key made of the id of a section or else of that of a step, if either is there. -/
def keyOf? (ofSection ofStep : String) : Option String :=
  if ofSection != "" then some ("section-" ++ ofSection)
  else if ofStep != "" then some ("step-" ++ ofStep)
  else none

def key? (attributes : List (String × String)) : Option String :=
  let given := fun (name : String) => trim ((attributeValue attributes name).getD "")
  keyOf? (given "data-section-id") (given "data-step-id")

/-- An id is a text; a value that counts as false is none at all. -/
def idIn (attributes : List (String × Json)) (name : String) : Except Fault String :=
  match (Fields.lookup attributes name).getD .null with
  | .text content => .ok (trim content)
  | value =>
      if value.truthy then .error (.misuse (.noMember value.kindName "strip")) else .ok ""

def shownValue (attributes : List (String × Json)) (name : String) : String :=
  ((Fields.lookup attributes name).getD .null).display

/-- A control without an id cannot have been rendered properly. -/
def key (attributes : List (String × Json)) : Except Fault String := do
  let ofSection ← idIn attributes "data-section-id"
  let ofStep ← idIn attributes "data-step-id"
  match keyOf? ofSection ofStep with
  | some key => return key
  | none =>
      throw (.guide (.consistency
        ("Interactive element missing required unique step ID: reftarget="
          ++ shownValue attributes "data-reftarget" ++ ", targetaction="
          ++ shownValue attributes "data-targetaction")
        [("attributes", .object attributes)]))

def contentRoot : Run (Option Element) := do
  let given := (← Run.settings).contentRootSelector
  if !given.truthy then return none
  else return (← Selector.queryGiven given none).head?

def controlSelector : String := "[data-requirements]"

abbrev Groups := List (String × List Element)

namespace Groups

def add (groups : Groups) (key : String) (element : Element) : Groups :=
  match groups with
  | [] => [(key, [element])]
  | group :: rest =>
      if group.1 = key then (key, group.2 ++ [element]) :: rest
      else group :: add rest key element

def get (groups : Groups) (key : String) : List Element :=
  ((groups.find? fun group => group.1 == key).map Prod.snd).getD []

def sortedKeys (groups : Groups) : List String :=
  (groups.map Prod.fst).mergeSort fun left right => decide (left ≤ right)

end Groups

def groupAll (groups : Groups) : List Element → Run Groups
  | [] => pure groups
  | element :: rest => do
      match key? (← Run.page (.attributes element)) with
      | some key => groupAll (groups.add key element) rest
      | none => groupAll groups rest

def groups : Run Groups := do
  let root ← contentRoot
  groupAll [] (← Selector.query controlSelector root)

def groupOf (key : Option String) : Run (List Element) := do
  match key with
  | none | some "" =>
      throw (.guide (.consistency "Interactive step missing required unique step ID" []))
  | some key =>
      let all ← groups
      let controls := all.get key
      if controls.isEmpty then
        throw (.guide (.consistency ("Step not found for unique ID: " ++ key)
          [("unique_id", .text key), ("available", .texts all.sortedKeys)]))
      else return controls

/-- Marks the whole group and announces it with its first control. -/
def markCompleted (key : Option String) : Run (List Element) := do
  let controls ← groupOf key
  Run.page (.markCompleted controls)
  Run.page .settle
  match controls with
  | [] => pure ()
  | first :: _ => Run.page (.completionEvent first "completed")
  return controls

def clearCompleted (key : String) : Run (List Element) := do
  let controls := (← groups).get key
  if !controls.isEmpty then Run.page (.clearCompleted controls)
  return controls

end Walkthrough.Control
