import Walkthrough.Rehearsal.Stage
import Walkthrough.Service.Response
/-!
What can be done in a rehearsal: runs of the guide and of its parts, looks at the stage, and
changes of it. Every operation has a result that can be told.
-/

namespace Walkthrough.Rehearsal

inductive Operation where
  | query (selector : String) (root : Option Element)
  | resolve (selector : String) (root : Option Element)
  | first (selector : String) (root : Option Element)
  | buttons (label : Json)
  | execute (action : Json) (target : String) (value : Option String) (mode : Json)
  | evaluate (expression : Option String) (subject : Subject)
  | trigger (step mode : Json)
  | runMultistep (step : Json)
  | runStep (step mode : Json)
  | runSequence (step : Json) (showOnly : Bool)
  | check (step : Json)
  | reset (key : String)
  | state (key : String)
  | transition (key : String) (status : Json) (error : Option String) (index : Option Int)
  | snapshot
  | activate (selector : String)
  | groups
  | mark (key : Option String)
  | clear (key : String)
  | contentRoot
  | findStep (id : String)
  | keyOf (id : String)
  | node (element : Element)
  | page
  | append (parent : Element) (child : Markup)
  | remove (element : Element)
  | setAttribute (element : Element) (name : String) (value : Option String)
  | setLocation (location : String)
  | setFacts (fields : List (String × Json))
  | setConfig (fields : List (String × Json))
  | eventLog
  | serve (call : Service.Call)
  | fail (fault : Fault)

def numbers (elements : List Element) : Json :=
  .list (elements.map Json.ofNat)

def numberOrNull (element : Option Element) : Json :=
  (element.map Json.ofNat).getD .null

def choice {α : Type} (ofName? : String → Option α) (choices : String) (name : Json) :
    Except Fault α :=
  let refused := Except.error (Fault.misuse (.notChoice name choices))
  match name with
  | .text content =>
      match ofName? content with
      | some value => .ok value
      | none => refused
  | _ => refused

def modeNamed (name : Json) : Except Fault Mode :=
  choice Mode.ofName? "ActionMode" name

def nodeReport (document : Document) (element : Element) : Json :=
  match document.node? element with
  | none => .null
  | some node =>
      .object [("tag", .text node.tag), ("attrs", .pairs node.attributes),
        ("value", .text node.value), ("checked", .bool node.checked),
        ("clicks", .ofNat node.clicks), ("events", .texts node.events),
        ("text", .text (document.text element)), ("direct", .text (document.directText element)),
        ("rendered", .text (document.renderedText element))]

def treeUpTo (document : Document) : Nat → Element → Json
  | 0, _ => .null
  | depth + 1, element =>
      match document.node? element with
      | none => .null
      | some node =>
          .list [.text node.tag, .ofNat element, .pairs node.attributes,
            .list (node.content.map fun content =>
              match content with
              | .text content => .text content
              | .element child => treeUpTo document depth child)]

def pageReport (document : Document) : Json :=
  .object [("tree", treeUpTo document document.nodes.length 0), ("url", .text document.location),
    ("settles", .ofNat document.settled),
    ("completion_events", .list (document.completions.map fun completion =>
      .list [.ofNat completion.1, .text completion.2]))]

def snapshotReport (stage : Stage) : Json :=
  .object [("states", stage.store.report),
    ("active", .texts (stage.active.mergeSort fun left right => decide (left ≤ right)))]

def responseReport (response : Service.Response) : Json :=
  .object [("status", .ofNat response.status), ("body", response.body)]

/-- One fact, failure or delay replaced for each field. -/
def Arranged.replace (arranged : Arranged) (field : String × Json) : Arranged :=
  match field.1, field.2 with
  | "fail", .object failures =>
      { arranged with failures := failures.map fun failure => (failure.1, failure.2.display) }
  | "delay_ms", .object delays =>
      { arranged with delays := delays.filterMap fun delay =>
          match (Amount.ofJson delay.2).thousandth with
          | .ok seconds => some (delay.1, seconds)
          | .error _ => none }
  | name, value => { arranged with facts := arranged.facts.replace name value }

def replaceFacts (fields : List (String × Json)) (source : Source) : Source :=
  match source with
  | .arranged arranged => .arranged (fields.foldl Arranged.replace arranged)
  | .remote remote => .remote remote

def replaceSettings : List (String × Json) → StateM Stage (Except Fault Json)
  | [] => return .ok .null
  | (name, value) :: rest => do
      if Config.isSetting name then
        modify fun stage => { stage with tuning := stage.tuning.replace name value }
        replaceSettings rest
      else return .error (.misuse (.noMember "GuideConfig" name))

namespace Operation

def incident : String := "*"

open Stage

def looking (look : Stage → Json) : StateM Stage (Except Fault Json) :=
  return .ok (look (← get))

def changing (change : Stage → Stage) : StateM Stage (Except Fault Json) := do
  modify change
  return .ok .null

def running {α : Type} (interrupt : Interrupt) (run : Run α) (report : α → Json) :
    StateM Stage (Except Fault Json) := do
  return (← hold interrupt run).map report

def stepOf (step : Json) : Run Step :=
  match Registry.standard.read step with
  | .ok step => pure step
  | .error fault => throw fault

def modeOf (name : Json) : Run Mode :=
  match modeNamed name with
  | .ok mode => pure mode
  | .error fault => throw fault

/-- The command is traced as it was given, before anything is made of it. -/
def executing (interrupt : Interrupt) (action : Json) (target : String) (value : Option String)
    (mode : Json) : StateM Stage (Except Fault Json) := do
  note (.execute action target value mode)
  match choice Action.ofName? "TargetAction" action, modeNamed mode with
  | .ok action, .ok mode =>
      running interrupt (Command.carryOut ⟨action, target, value, mode⟩) fun performance =>
        .object performance.report
  | .error fault, _ => return .error fault
  | _, .error fault => return .error fault

def resolving (interrupt : Interrupt) (selector : String) (root : Option Element) :
    StateM Stage (Except Fault Json) := do
  let before := (← get).queries.length
  let outcome ← hold interrupt (Selector.resolve selector root)
  let queries := (← get).queries.drop before
  return outcome.map fun resolution =>
    .object (resolution.report ++
      [("nodes", numbers resolution.elements), ("queries", .texts queries)])

def moving (key : String) (status : Json) (error : Option String) (index : Option Int) :
    StateM Stage (Except Fault Json) := do
  match Status.ofJson status with
  | .error fault => return .error fault
  | .ok status =>
      match ← Stage.move ⟨key, status, error, index⟩ with
      | .ok reached => return .ok reached.report
      | .error error => return .error (.guide error)

def appending (parent : Element) (child : Markup) : StateM Stage (Except Fault Json) := do
  let stage ← get
  let (document, element) := stage.document.append parent child
  set { stage with document := document }
  return .ok (numberOrNull element)

def changingDocument (change : Document → Document) : StateM Stage (Except Fault Json) :=
  changing fun stage => { stage with document := change stage.document }

def attributeChange (name : String) (value : Option String) (node : Node) : Node :=
  match value with
  | some content => node.withAttribute name content
  | none => node.withoutAttribute name

def assessmentReport (assessment : Assessment) : Json :=
  .object [("payload", assessment.payload), ("explanation", .text assessment.explanation),
    ("contexts", .list (assessment.verdicts.map Verdict.context))]

def labelled (label : Json) : Run (List Element) :=
  match label with
  | .text content => buttonsLabelled content
  | _ => pure []

def perform (interrupt : Interrupt) : Operation → StateM Stage (Except Fault Json)
  | query selector root => running interrupt (Selector.query selector root) numbers
  | resolve selector root => resolving interrupt selector root
  | first selector root =>
      running interrupt (Selector.resolve selector root) fun resolution =>
        numberOrNull resolution.first
  | buttons label => running interrupt (labelled label) numbers
  | execute action target value mode => executing interrupt action target value mode
  | evaluate expression subject =>
      running interrupt (Requirement.evaluate expression subject) assessmentReport
  | trigger step mode =>
      running interrupt (do Guide.trigger (← stepOf step) (← modeOf mode)) fun outcome =>
        .object outcome.report
  | runMultistep step =>
      running interrupt (do Guide.runMultistep (← stepOf step)) fun outcome =>
        .object outcome.report
  | runStep step mode =>
      running interrupt (do Guide.runStep (← stepOf step) (← modeOf mode)) fun _ => .null
  | runSequence step showOnly =>
      running interrupt (do Guide.runSequence (← stepOf step) showOnly) Json.text
  | check step => running interrupt (do Guide.check (← stepOf step)) Assessment.payload
  | reset key => running interrupt (Guide.reset key) StepState.report
  | state key => looking fun stage => (stage.store.get key).report
  | transition key status error index => moving key status error index
  | snapshot => looking snapshotReport
  | activate selector => do
      enter selector
      return .ok .null
  | groups =>
      running interrupt Control.groups fun groups =>
        .list (groups.map fun group => .list [.text group.1, numbers group.2])
  | mark key => running interrupt (Control.markCompleted key) numbers
  | clear key => running interrupt (Control.clearCompleted key) numbers
  | contentRoot => running interrupt Control.contentRoot numberOrNull
  | findStep id =>
      running interrupt (Guide.findStep id) fun step =>
        .object [("payload", .object step.payload), ("unique_id", .text step.key)]
  | keyOf id => running interrupt (Guide.keyOf id) Json.text
  | node element => looking fun stage => nodeReport stage.document element
  | page => looking fun stage => pageReport stage.document
  | append parent child => appending parent child
  | remove element => changingDocument fun document => document.remove element
  | setAttribute element name value =>
      changingDocument fun document => document.update (attributeChange name value) element
  | setLocation location => changingDocument fun document => { document with location := location }
  | setFacts fields => changing fun stage =>
      { stage with source := replaceFacts fields stage.source }
  | setConfig fields => replaceSettings fields
  | eventLog => looking fun stage =>
      match stage.log with
      | some log => log.report
      | none => .null
  | serve call => running interrupt (Service.respond incident call) responseReport
  | fail fault => return .error fault

end Operation

end Walkthrough.Rehearsal
