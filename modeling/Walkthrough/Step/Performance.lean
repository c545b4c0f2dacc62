import Walkthrough.Page.Buttons
/-!
Carrying out one action against the page, either showing where it would act or acting. What came
of it is a performance; an action that finds nothing to act on fails.
-/

namespace Walkthrough

structure Performance where
  action : Action
  mode : Mode
  target : String
  count : Nat
  details : List (String × Json)

namespace Performance

def report (performance : Performance) : List (String × Json) :=
  [("action", .text performance.action.name), ("mode", .text performance.mode.name),
   ("locator", .text performance.target), ("count", .ofNat performance.count)]
    ++ if performance.details.isEmpty then [] else [("details", .object performance.details)]

end Performance

namespace Command

open Selector

def failed {α : Type} (message : String) (details : List (String × Json)) : Run α :=
  throw (.guide (.action message details))

def found (action : Action) (target : String) : Run (List Element) := do
  let resolution ← resolve target none
  if resolution.elements.isEmpty then
    failed ("No elements found matching selector: " ++ target)
      (("action", .text action.name) :: resolution.report)
  else return resolution.elements

def labelled (target : String) : Run (List Element) := do
  let buttons ← buttonsLabelled target
  if buttons.isEmpty then
    failed ("No buttons found containing text: \"" ++ target ++ "\"")
      [("locator", .text target)]
  else return buttons

def preview (element : Element) : Run Unit := do
  let config ← Run.settings
  Run.page (.highlight element config.highlightDuration)

def touch (mode : Mode) (element : Element) : Run Unit :=
  match mode with
  | .preview => preview element
  | .commit => Run.page (.click element)

def touchAll (mode : Mode) : List Element → Run Unit
  | [] => pure ()
  | element :: rest => do
      touch mode element
      touchAll mode rest

/-- The first of the elements is filled, and gets the events of its tag. -/
def fill (mode : Mode) (target value : String) : Run Performance := do
  let elements ← found .formfill target
  match elements with
  | [] => return ⟨.formfill, mode, target, 0, []⟩
  | element :: _ =>
      match mode with
      | .preview =>
          preview element
          return ⟨.formfill, mode, target, 1, []⟩
      | .commit =>
          let tag ← Run.page (.setValue element value)
          let events ← Run.page (.formEvents element tag)
          return ⟨.formfill, mode, target, 1, [("tag", .text tag), ("events", .texts events)]⟩

def externalSchemes : List String :=
  ["http://", "https://"]

/-- Addresses with a scheme are opened outside, anything else is a route of the page. Nothing is
shown beforehand. -/
def navigate (mode : Mode) (target : String) : Run Performance := do
  match mode with
  | .preview => return ⟨.navigate, mode, target, 0, []⟩
  | .commit =>
      if externalSchemes.any fun scheme => Text.startsWith scheme target then
        Run.page (.openExternal target)
        return ⟨.navigate, mode, target, 1, [("via", .text "external")]⟩
      else
        Run.page (.pushRoute target)
        return ⟨.navigate, mode, target, 1, [("via", .text "router")]⟩

/-- What the command does; containers and multi-steps are no single actions. -/
def carryOut (command : Command) : Run Performance := do
  match command.action with
  | .highlight =>
      let elements ← found .highlight command.target
      touchAll command.mode elements
      return ⟨.highlight, command.mode, command.target, elements.length, []⟩
  | .button =>
      let buttons ← labelled command.target
      touchAll command.mode buttons
      return ⟨.button, command.mode, command.target, buttons.length, []⟩
  | .formfill => fill command.mode command.target (command.value.getD "")
  | .navigate => navigate command.mode command.target
  | .sequence | .multistep =>
      failed ("Unsupported action " ++ command.action.name) [("locator", .text command.target)]

/-- The command is announced before anything is asked of the page. -/
def perform (command : Command) : Run Performance := do
  Run.ask (.announce command)
  command.carryOut

end Command

end Walkthrough
