import Walkthrough.Step
import Walkthrough.Validation.Fields
import Walkthrough.Text.Quoted
/-!
Reading steps and inner actions from objects. A field may be spelled in snake case, in camel case
or, for a few, in lower case.
-/

namespace Walkthrough

open Validation

namespace Spellings

def action : Spelling := ⟨"target_action", ["targetAction", "targetaction"]⟩
def target : Spelling := ⟨"ref_target", ["refTarget", "reftarget"]⟩
def value : Spelling := ⟨"target_value", ["targetValue", "targetvalue"]⟩
def requirements : Spelling := ⟨"requirements", []⟩
def objectives : Spelling := ⟨"objectives", []⟩
def hints : Spelling := ⟨"hints", []⟩
def stepId : Spelling := ⟨"step_id", ["stepId"]⟩
def sectionId : Spelling := ⟨"section_id", ["sectionId"]⟩
def custom : Spelling := ⟨"custom_data", ["customData"]⟩
def actions : Spelling := ⟨"internal_actions", ["internalActions"]⟩
def delay : Spelling := ⟨"step_delay_ms", ["stepDelay"]⟩

def inner : List Spelling := [action, target, value, requirements]

def plain : List Spelling :=
  [action, target, value, requirements, objectives, hints, stepId, sectionId, custom]

def multi : List Spelling := plain ++ [actions, delay]

end Spellings

def readAction : Json → Except Defect Action :=
  readChoice (Action.all.map Action.name) Action.ofName?

def readElementAction (value : Json) : Except Defect Action :=
  match readAction value with
  | .ok action =>
      if action.isElement then .ok action
      else .error (.rule s!"internal actions cannot use '{action.name}'")
  | .error defect => .error defect

def optionalText (spelling : Spelling) : List (String × Json) → Checked (Option String) :=
  optional spelling none (scalar blankAsNone)

def InnerAction.modelName : String := "InternalAction"

def InnerAction.readFields (fields : List (String × Json)) : Checked InnerAction :=
  let build : Checked (Action → String → Option String → Option String → Unit → InnerAction) :=
    .ok fun action target value requirements _ => ⟨action, target, value, requirements⟩
  also (also (also (also (also build
    (required Spellings.action (scalar readElementAction) fields))
    (optional Spellings.target "" (scalar readText) fields))
    (optionalText Spellings.value fields))
    (optionalText Spellings.requirements fields))
    (unknownKeys Spellings.inner fields)

def InnerAction.read : Json → Checked InnerAction
  | .object fields => InnerAction.readFields fields
  | value => .error [⟨[], .notModel InnerAction.modelName, value⟩]

def readActions (key : String) (value : Json) : Checked (List InnerAction) :=
  match value with
  | .list given =>
      match items InnerAction.read 0 given with
      | .ok [] =>
          .error [⟨[.field key], .rule "a multi-step needs at least one internal action", value⟩]
      | .ok actions => .ok actions
      | .error issues => .error (issues.map (Issue.inside (.field key)))
  | _ => .error [⟨[.field key], .notList, value⟩]

def readDelay : Json → Except Defect (Option Nat)
  | .null => .ok none
  | value => (readNatural value).map some

def readBody (model : Step.Model) (fields : List (String × Json)) : Checked StepBody :=
  match model with
  | .plain => .ok .single
  | .multi =>
      also (also (.ok StepBody.multiple) (required Spellings.actions readActions fields))
        (optional Spellings.delay none (scalar readDelay) fields)

structure Step.Draft where
  action : Action
  target : String
  value : Option String
  requirements : Option String
  objectives : Option String
  hints : Option String
  stepId : Option String
  sectionId : Option String
  custom : List (String × String)
  body : StepBody

def Step.Model.spellings : Step.Model → List Spelling
  | .plain => Spellings.plain
  | .multi => Spellings.multi

def Step.Draft.readFields (model : Step.Model) (fields : List (String × Json)) :
    Checked Step.Draft :=
  let build : Checked (Action → String → Option String → Option String → Option String →
      Option String → Option String → Option String → List (String × String) → StepBody → Unit →
      Step.Draft) :=
    .ok fun action target value requirements objectives hints stepId sectionId custom body _ =>
      ⟨action, target, value, requirements, objectives, hints, stepId, sectionId, custom, body⟩
  also (also (also (also (also (also (also (also (also (also (also build
    (required Spellings.action (scalar readAction) fields))
    (optional Spellings.target "" (scalar readText) fields))
    (optionalText Spellings.value fields))
    (optionalText Spellings.requirements fields))
    (optionalText Spellings.objectives fields))
    (optionalText Spellings.hints fields))
    (optionalText Spellings.stepId fields))
    (optionalText Spellings.sectionId fields))
    (optional Spellings.custom [] textMapping fields))
    (readBody model fields))
    (unknownKeys model.spellings fields)

def Step.Draft.identity (draft : Step.Draft) : Except String Identity :=
  match draft.stepId, draft.sectionId with
  | some id, none => .ok (.ofStep id)
  | none, some id => .ok (.ofSection id)
  | some _, some _ => .error "a step carries exactly one of step_id or section_id"
  | none, none =>
      .error ("interactive step is missing its unique identifier " ++
        s!"(reftarget={Text.quoted draft.target}, targetaction={draft.action.name})")

def Step.Draft.finish (draft : Step.Draft) (model : Step.Model) : Except String Step :=
  if model.accepts draft.action then
    draft.identity.map fun identity =>
      ⟨draft.action, draft.target, draft.value, draft.requirements, draft.objectives, draft.hints,
        identity, draft.custom, draft.body⟩
  else .error s!"{model.name} does not accept target action '{draft.action.name}'"

def Step.readChecked (model : Step.Model) (value : Json) : Checked Step :=
  match value with
  | .object fields =>
      match Step.Draft.readFields model fields with
      | .ok draft =>
          match draft.finish model with
          | .ok step => .ok step
          | .error words => .error [⟨[], .rule words, value⟩]
      | .error issues => .error issues
  | _ => .error [⟨[], .notModel model.name, value⟩]

def Step.read (model : Step.Model) (value : Json) : Except Failure Step :=
  match Step.readChecked model value with
  | .ok step => .ok step
  | .error issues => .error ⟨model.name, issues⟩

def InnerAction.readModel (value : Json) : Except Failure InnerAction :=
  match InnerAction.read value with
  | .ok inner => .ok inner
  | .error issues => .error ⟨InnerAction.modelName, issues⟩

end Walkthrough
