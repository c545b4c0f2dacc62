import Walkthrough.Page
import Walkthrough.Json
/-!
The scripts that are run inside a page, with what they are given.
-/

namespace Walkthrough.Browser

inductive Script where
  | nativeQuery (root : Option Element) (selector : String)
  | directText
  | renderedText
  | attributes
  | contains (element : Option Element)
  | click
  | highlight (duration : Json)
  | setValue (value : Json)
  | formEvents (names : List String)
  | pushRoute (path : Json)
  | openWindow (address : Json)
  | markCompleted (elements : List (Option Element))
  | clearCompleted (elements : List (Option Element))
  | dispatchCompletion (element : Option Element) (state : Json)
  | nextFrame
  | domIdle (timeout threshold : Json)
deriving DecidableEq, Repr

inductive Argument where
  | value (content : Json)
  | element (element : Element)
  | list (items : List Argument)
  | object (fields : List (String × Argument))

namespace Argument

def nothing : Argument := value .null

def text (content : String) : Argument := value (.text content)

def elementOrNothing : Option Element → Argument
  | some found => element found
  | none => nothing

end Argument

def highlightClass : String := "interactive-highlighted"

def outlineClass : String := "interactive-highlight-outline"

namespace Script

def marking (elements : List (Option Element)) : Argument :=
  .list [.list (elements.map Argument.elementOrNothing), .text completedClass]

def argument : Script → Argument
  | nativeQuery root selector =>
      .object [("root", .elementOrNothing root), ("selector", .text selector)]
  | directText | renderedText | attributes | click | nextFrame => .nothing
  | contains element => .elementOrNothing element
  | highlight duration =>
      .object [("durationMs", .value duration), ("highlightClass", .text highlightClass),
        ("outlineClass", .text outlineClass)]
  | setValue value => .value value
  | formEvents names => .value (.texts names)
  | pushRoute path => .value path
  | openWindow address => .value address
  | markCompleted elements => marking elements
  | clearCompleted elements => marking elements
  | dispatchCompletion element state =>
      .list [.elementOrNothing element,
        .object [("eventName", .text completionEventName), ("state", .value state)]]
  | domIdle timeout threshold =>
      .object [("timeoutMs", .value timeout), ("thresholdMs", .value threshold)]

end Script

end Walkthrough.Browser
