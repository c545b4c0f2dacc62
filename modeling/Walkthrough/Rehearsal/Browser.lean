import Walkthrough.Browser.Bridge
/-!
A browser that follows a script: it takes down every call, fails where it is told to, and otherwise
replies with the next of its replies.
-/

namespace Walkthrough.Rehearsal

open Browser

def methodName : Browser.Call → String
  | .evaluate .. => "evaluate"
  | .evaluateHandle _ => "evaluate_handle"
  | .properties => "get_properties"
  | .dispose => "dispose"
  | .textContent _ => "text_content"
  | .scrollIntoView .. => "scroll_into_view_if_needed"
  | .addStyles => "add_style_tag"
  | .wait _ => "wait_for_timeout"
  | .location => "url"

def scriptName : Script → String
  | .nativeQuery .. => "NATIVE_QUERY_SCRIPT"
  | .directText => "DIRECT_TEXT_SCRIPT"
  | .renderedText => "RENDERED_TEXT_SCRIPT"
  | .attributes => "ATTRIBUTES_SCRIPT"
  | .contains _ => "CONTAINS_SCRIPT"
  | .click => "CLICK_SCRIPT"
  | .highlight _ => "HIGHLIGHT_SCRIPT"
  | .setValue _ => "SET_VALUE_SCRIPT"
  | .formEvents _ => "FORM_EVENTS_SCRIPT"
  | .pushRoute _ => "PUSH_ROUTE_SCRIPT"
  | .openWindow _ => "OPEN_WINDOW_SCRIPT"
  | .markCompleted _ => "MARK_COMPLETED_SCRIPT"
  | .clearCompleted _ => "CLEAR_COMPLETED_SCRIPT"
  | .dispatchCompletion .. => "DISPATCH_COMPLETION_SCRIPT"
  | .nextFrame => "NEXT_FRAME_SCRIPT"
  | .domIdle .. => "DOM_IDLE_SCRIPT"

def stylesName : String := "HIGHLIGHT_STYLES"

def firstArgument : Browser.Call → Option String
  | .evaluate _ script | .evaluateHandle script => some (scriptName script)
  | .addStyles => some stylesName
  | _ => none

/-- Calls of a method, and of one script if it is given, fail. -/
structure Failing where
  method : String
  script : Option String
  fault : Fault

def Failing.concerns (failing : Failing) (call : Browser.Call) : Bool :=
  failing.method == methodName call &&
    (failing.script.isNone || failing.script == firstArgument call)

structure ScriptedBrowser where
  location : String
  properties : List (String × Option Element)
  failures : List Failing
  replies : List Json
  calls : List Browser.Call

namespace ScriptedBrowser

/-- The properties of an array: a name given twice keeps its first place and its last value. -/
def property (known : List (String × Option Element)) (given : String × Option Element) :
    List (String × Option Element) :=
  match known with
  | [] => [given]
  | entry :: rest => if entry.1 = given.1 then given :: rest else entry :: property rest given

def respond (call : Browser.Call) : StateM ScriptedBrowser (Except Fault Json) := do
  modify fun browser => { browser with calls := browser.calls ++ [call] }
  let browser ← get
  match browser.failures.find? fun failing => failing.concerns call with
  | some failing => return .error failing.fault
  | none =>
      set { browser with replies := browser.replies.tail }
      return .ok (browser.replies.head?.getD .null)

def acknowledge (call : Browser.Call) : StateM ScriptedBrowser (Except Fault Unit) := do
  return (← respond call).map fun _ => ()

def answer (call : Browser.Call) : StateM ScriptedBrowser call.Answer :=
  match call with
  | .evaluate target script => respond (.evaluate target script)
  | .textContent element => respond (.textContent element)
  | .evaluateHandle script => acknowledge (.evaluateHandle script)
  | .dispose => acknowledge .dispose
  | .scrollIntoView element duration => acknowledge (.scrollIntoView element duration)
  | .addStyles => acknowledge .addStyles
  | .wait milliseconds => acknowledge (.wait milliseconds)
  | .properties => return .ok (← get).properties
  | .location => return (← get).location

def hold {α : Type} (bridge : Bridge α) (state : State) (browser : ScriptedBrowser) :
    (Except Fault α × State) × ScriptedBrowser :=
  (Dialogue.holdWith answer (StateT.run (ExceptT.run bridge) state)).run browser

end ScriptedBrowser

end Walkthrough.Rehearsal
