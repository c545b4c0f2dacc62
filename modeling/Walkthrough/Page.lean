import Walkthrough.Json
/-!
What can be asked of a page and done to it. An element is known by its number alone; everything
else about it has to be asked for.
-/

namespace Walkthrough

abbrev Element := Nat

inductive PageCall where
  | query (selector : String) (root : Option Element)
  | text (element : Element)
  | directText (element : Element)
  | renderedText (element : Element)
  | attributes (element : Element)
  | contains (container element : Element)
  | location
  | click (element : Element)
  | highlight (element : Element) (duration : Json)
  | setValue (element : Element) (value : String)
  | formEvents (element : Element) (tag : String)
  | pushRoute (path : String)
  | openExternal (address : String)
  | markCompleted (elements : List Element)
  | clearCompleted (elements : List Element)
  | completionEvent (element : Element) (state : String)
  | settle
deriving DecidableEq, Repr

namespace PageCall

@[reducible] def Answer : PageCall → Type
  | query .. => List Element
  | text _ | directText _ | renderedText _ => String
  | attributes _ => List (String × String)
  | contains .. => Bool
  | location => String
  | setValue .. => String
  | formEvents .. => List String
  | click _ | highlight .. | pushRoute _ | openExternal _ | markCompleted _ | clearCompleted _
  | completionEvent .. | settle => Unit

/-- Calls that act for the user, beyond showing where they would act. -/
def commits : PageCall → Bool
  | click _ | setValue .. | formEvents .. | pushRoute _ | openExternal _ => true
  | _ => false

end PageCall

def completedClass : String := "completed"

def completionEventName : String := "interactive-action-completed"

def formControlTags : List String :=
  ["input", "select", "textarea"]

def formEventSequence (tag : String) : List String :=
  if formControlTags.contains tag then ["focus", "input", "change", "blur"] else ["focus", "blur"]

end Walkthrough
