import Walkthrough.Guide.Trigger
import Walkthrough.Step.Registry
import Walkthrough.Store.Report
import Walkthrough.Service.Call
/-!
Responses of the service. Requests that cannot be understood are answered as such; whatever else
goes wrong is answered as a failure of the service, under the number of the incident.
-/

namespace Walkthrough.Service

open Text

structure Response where
  status : Nat
  body : Json

def respondWith (status : Nat) (fields : List (String × Json)) : Response :=
  ⟨status, .object fields⟩

def given (body : List (String × Json)) (name : String) (otherwise : String) : String :=
  (((Fields.lookup body name).getD .null).orElse (.text otherwise)).display

def refused (error : GuideError) : Response :=
  respondWith 404 [("error", .text error.message), ("code", .text error.code)]

def invalidStep (fault : Fault) : Response :=
  respondWith 400 [("error", .text ("invalid step: " ++ fault.words))]

def failure (incident : String) (fault : Fault) : Response :=
  respondWith 500 ([("error", .text fault.words), ("correlation_id", .text incident)]
    ++ match fault with
      | .guide error =>
          ("code", .text error.code) ::
            if error.details.isEmpty then [] else [("details", .object error.details)]
      | _ => [])

/-- Values that are no step, and names of actions that do not exist, are the caller's fault. -/
def isInvalidStep : Fault → Bool
  | .invalid _ => true
  | .misuse cause => cause.family = .key || cause.family = .kind
  | _ => false

def stepOf (id : String) (body : List (String × Json)) : Run Step := do
  match Fields.lookup body "step" with
  | some (.object fields) =>
      match Registry.standard.read (.object fields) with
      | .ok step => return step
      | .error fault => throw fault
  | _ => Guide.findStep id

def trigger (id : String) (body : List (String × Json)) : Run Response := do
  let name := lower (trim (given body "button_type" Mode.commit.name))
  match Mode.ofName? name with
  | none => return respondWith 400 [("error", .text s!"unknown button_type '{name}'")]
  | some mode =>
      match ← Run.outcome (stepOf id body) with
      | .ok step => return respondWith 200 (← Guide.trigger step mode).report
      | .error (.guide error) => return refused error
      | .error fault => if isInvalidStep fault then return invalidStep fault else throw fault

def reset (id : String) : Run Response := do
  match ← Run.outcome (Guide.keyOf id) with
  | .ok key =>
      let state ← Guide.reset key
      return respondWith 200
        ([("step_id", .text id), ("unique_id", .text key)] ++ state.fields)
  | .error (.guide error) => return refused error
  | .error (.invalid failure) => return invalidStep (.invalid failure)
  | .error fault => throw fault

def states : Run Response := do
  let store ← Run.ask .states
  return respondWith 200 [("steps", .object (store.map fun entry =>
    (entry.1, entry.2.report)))]

/-- The body read as a multi-step; it need not say that it is one. Issues that a rule of the model
raised cannot be told to the caller. -/
def runMultistep (body : List (String × Json)) : Run Response := do
  let fields := body.foldl (fun fields field => Fields.assign fields field.1 field.2)
    [("target_action", .text Action.multistep.name)]
  match Step.read .multi (.object fields) with
  | .ok step => return respondWith 200 (← Guide.trigger step .commit).report
  | .error failure =>
      if failure.issues.any fun issue => issue.defect.isRule then throw (.misuse .notSerializable)
      else
        return respondWith 400 [("error", .text "invalid multi-step"),
          ("details", .list (failure.issues.map Validation.Issue.report))]

/-- An expression is a text; nothing at all is an empty one. -/
def expressionOf (value : Json) : Except Fault String :=
  match value with
  | .text content => .ok content
  | value =>
      if value.truthy then .error (.misuse (.noMember value.kindName "split")) else .ok ""

def checkRequirements (body : List (String × Json)) : Run Response := do
  let subject : Subject :=
    ⟨given body "target_action" Action.button.name, given body "ref_target" ""⟩
  match expressionOf ((Fields.lookup body "requirements").getD .null) with
  | .ok expression =>
      let assessment ← Requirement.evaluate (some expression) subject
      return ⟨200, assessment.payload⟩
  | .error fault => throw fault

def resolveSelector (body : List (String × Json)) : Run Response := do
  let selector := trim (given body "selector" "")
  if selector = "" then return respondWith 400 [("error", .text "selector empty")]
  else return respondWith 200 (← Selector.resolve selector none).report

def handle (route : Route) (body : List (String × Json)) : Run Response :=
  match route with
  | .trigger id => trigger id body
  | .reset id => reset id
  | .states => states
  | .runMultistep => runMultistep body
  | .checkRequirements => checkRequirements body
  | .resolveSelector => resolveSelector body
  | .health => pure ⟨200, .text "ok"⟩
  | .asset _ => pure ⟨404, .null⟩

def Response.withoutBody (response : Response) (method : String) : Response :=
  if method = "HEAD" then { response with body := .null } else response

def respondAt (incident : String) (route : Route) (call : Call) : Run Response := do
  match ← Run.outcome (handle route call.body) with
  | .ok response => return response.withoutBody call.method
  | .error fault => return (failure incident fault).withoutBody call.method

/-- The response to a call. Paths and methods that do not exist give no body, and a path with
doubled slashes is sent on to the plain one. Methods are known in any letter case. -/
def respond (incident : String) (call : Call) : Run Response := do
  let method := String.ofList (call.method.toList.map Char.toUpper)
  match bare call.path with
  | .error defect => throw (.misuse (.badUrl defect))
  | .ok path =>
      match destination path with
      | .nowhere => return ⟨404, .null⟩
      | .moved route => return ⟨if route.allows method then 308 else 405, .null⟩
      | .here route =>
          if !route.allows method then return ⟨405, .null⟩
          else if method = "OPTIONS" then return ⟨200, .text ""⟩
          else respondAt incident route call

end Walkthrough.Service
