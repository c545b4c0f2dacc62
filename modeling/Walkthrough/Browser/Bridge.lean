import Walkthrough.Amount
import Walkthrough.Browser.Script
import Walkthrough.Decimal.Reader
import Walkthrough.Dialogue
import Walkthrough.Facts
import Walkthrough.Json.Given
import Walkthrough.Text.Digit
import Walkthrough.Text.Lines
import Walkthrough.Text.Lowercase
/-!
A page in a browser, reached by running scripts in it. Failures of the page while it is acted on
are failures of the action; failures while it is looked at are passed on, except that the page's
refusal of a selector is told apart. A handle of an element may turn out to be nothing, which shows
when something is asked of it.
-/

namespace Walkthrough.Browser

open Text

inductive Call where
  | evaluate (target : Option Element) (script : Script)
  | evaluateHandle (script : Script)
  | properties
  | dispose
  | textContent (element : Element)
  | scrollIntoView (element : Element) (duration : Json)
  | addStyles
  | wait (milliseconds : Json)
  | location
deriving DecidableEq, Repr

@[reducible] def Call.Answer : Call → Type
  | evaluate .. | textContent _ => Except Fault Json
  | evaluateHandle _ | dispose | scrollIntoView .. | addStyles | wait _ => Except Fault Unit
  | properties => Except Fault (List (String × Option Element))
  | location => String

/-- The styles of highlights are added to a page once. -/
structure State where
  styled : Bool
deriving DecidableEq, Repr

abbrev Bridge (α : Type) := ExceptT Fault (StateT State (Dialogue Call.Answer)) α

namespace Bridge

def ask (call : Call) : Bridge call.Answer :=
  ExceptT.lift (StateT.lift (Dialogue.question call))

def ofOutcome {α : Type} (outcome : Except Fault α) : Bridge α :=
  match outcome with
  | .ok value => pure value
  | .error fault => throw fault

def present (handle : Option Element) (member : String) : Bridge Element :=
  match handle with
  | some element => pure element
  | none => throw (.misuse (.noMember Json.null.kindName member))

def evaluate (script : Script) : Bridge Json := do
  ofOutcome (← ask (.evaluate none script))

def evaluateOn (handle : Option Element) (script : Script) : Bridge Json := do
  let element ← present handle "evaluate"
  ofOutcome (← ask (.evaluate (some element) script))

def acting {α : Type} (what : String) (details : List (String × Json)) (act : Bridge α) :
    Bridge α :=
  tryCatch act fun fault =>
    match fault with
    | .page message => throw (.guide (.action (what ++ " failed: " ++ message) details))
    | fault => throw fault

def syntaxMarks : List String :=
  ["syntaxerror", "is not a valid selector", "not a valid selector"]

def isSyntaxMessage (message : String) : Bool :=
  syntaxMarks.any fun mark => includes mark (lower message)

/-- The elements among the entries of an array, in order of position. Entries are the properties
named by a numeral. -/
def elementsOf (properties : List (String × Option Element)) : Except Misuse (List Element) := do
  let entries ← (properties.filter fun property => isNumeral property.1).mapM fun entry => do
    return (← (Decimal.readInteger entry.1).mapError (Misuse.ofInteger entry.1), entry.2)
  return (entries.mergeSort fun left right => decide (left.1 ≤ right.1)).filterMap Prod.snd

def query (selector : String) (root : Option Element) : Bridge (List Element) := do
  match ← ask (.evaluateHandle (.nativeQuery root selector)) with
  | .error (.page message) =>
      if isSyntaxMessage message then
        throw (.guide (.selectorSyntax selector (firstLine message)))
      else throw (.page message)
  | .error fault => throw fault
  | .ok _ =>
      let properties ← ofOutcome (← ask .properties)
      let elements ← ofOutcome ((elementsOf properties).mapError .misuse)
      ofOutcome (← ask .dispose)
      return elements

def text (handle : Option Element) : Bridge Json := do
  let element ← present handle "text_content"
  return (← ofOutcome (← ask (.textContent element))).orElse (.text "")

def directText (handle : Option Element) : Bridge Json := evaluateOn handle .directText

def renderedText (handle : Option Element) : Bridge Json := evaluateOn handle .renderedText

def attributes (handle : Option Element) : Bridge Json := evaluateOn handle .attributes

def contains (container element : Option Element) : Bridge Bool := do
  return (← evaluateOn container (.contains element)).truthy

def click (handle : Option Element) : Bridge Unit :=
  acting "Click" [] (discard (evaluateOn handle .click))

def ensureStyles : Bridge Unit := do
  if !(← get).styled then
    ofOutcome (← ask .addStyles)
    set ({ styled := true } : State)

/-- An element that cannot be scrolled into view is highlighted where it is. -/
def scroll (element : Element) (duration : Json) : Bridge Unit := do
  match ← ask (.scrollIntoView element duration) with
  | .error (.page _) => return ()
  | outcome => ofOutcome outcome

def highlight (handle : Option Element) (duration : Json) : Bridge Unit := do
  ensureStyles
  scroll (← present handle "scroll_into_view_if_needed") duration
  acting "Highlight" [] (discard (evaluateOn handle (.highlight duration)))

def setValue (handle : Option Element) (value : Json) : Bridge Json :=
  acting "Setting value" [] (evaluateOn handle (.setValue value))

/-- The events for a tag; what cannot be among the tags of controls is no tag at all. -/
def eventsFor (tag : Json) : Bridge (List String) :=
  ofOutcome ((tag.asName.map formEventSequence).mapError Fault.misuse)

def formEvents (handle : Option Element) (tag : Json) : Bridge Json :=
  acting "Dispatching form events" [] do
    let element ← present handle "evaluate"
    evaluateOn (some element) (.formEvents (← eventsFor tag))

def location : Bridge String := do
  match Url.locationPath (← ask .location) with
  | .ok path => return path
  | .error defect => throw (.misuse (.badUrl defect))

def pushRoute (path : Json) : Bridge Unit :=
  acting ("Navigation to " ++ path.display) [("path", path)]
    (discard (evaluate (.pushRoute path)))

def openExternal (address : Json) : Bridge Unit :=
  acting ("Opening " ++ address.display) [("url", address)]
    (discard (evaluate (.openWindow address)))

def markCompleted (handles : List (Option Element)) : Bridge Unit :=
  discard (evaluate (.markCompleted handles))

def clearCompleted (handles : List (Option Element)) : Bridge Unit :=
  discard (evaluate (.clearCompleted handles))

def completionEvent (handle : Option Element) (state : Json) : Bridge Unit :=
  discard (evaluate (.dispatchCompletion handle state))

/-! Letting the page come to rest. -/

def restTimeout : Int := 1000

def restThreshold : Int := 100

/-- Whether the page came to rest. If it cannot be asked, some time is let pass instead. -/
def waitIdle (timeout threshold : Json) : Bridge Bool := do
  match ← ask (.evaluate none (.domIdle timeout threshold)) with
  | .ok reply => return reply.truthy
  | .error _ =>
      ofOutcome (← ask (.wait threshold))
      return false

/-- The next frame, and then rest. A page that cannot tell about its frames is not waited for. -/
def settle (threshold : Json) : Bridge Unit := do
  discard (ask (.evaluate none .nextFrame))
  let amount := Amount.ofJson threshold
  if ← ofOutcome (amount.isPositive.mapError Fault.misuse) then
    discard (waitIdle (amount.timesAtLeast 5 restTimeout) threshold)

/-! Answering the calls of a page. -/

def asText (value : Json) : Bridge String :=
  match value with
  | .text content => pure content
  | value => throw (.misuse (.noMember value.kindName "lower"))

def asPairs (value : Json) : Bridge (List (String × String)) :=
  match value with
  | .object fields => pure (fields.map fun field => (field.1, field.2.display))
  | value => throw (.misuse (.noMember value.kindName "get"))

def asTexts (value : Json) : Bridge (List String) :=
  match value with
  | .list items => pure (items.map Json.display)
  | value => throw (.misuse (.notIterable value.kindName))

/-- The page call carried out in the browser; `threshold` is how long the page has to rest. -/
def answer (threshold : Json) (call : PageCall) : Bridge call.Answer :=
  match call with
  | .query selector root => query selector root
  | .text element => do asText (← text (some element))
  | .directText element => do asText (← directText (some element))
  | .renderedText element => do asText (← renderedText (some element))
  | .attributes element => do asPairs (← attributes (some element))
  | .contains container element => contains (some container) (some element)
  | .location => location
  | .click element => click (some element)
  | .highlight element duration => highlight (some element) duration
  | .setValue element value => do asText (← setValue (some element) (.text value))
  | .formEvents element tag => do asTexts (← formEvents (some element) (.text tag))
  | .pushRoute path => pushRoute (.text path)
  | .openExternal address => openExternal (.text address)
  | .markCompleted elements => markCompleted (elements.map some)
  | .clearCompleted elements => clearCompleted (elements.map some)
  | .completionEvent element state => completionEvent (some element) (.text state)
  | .settle => settle threshold

end Bridge

end Walkthrough.Browser
