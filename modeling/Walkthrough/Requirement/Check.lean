import Walkthrough.Page.Buttons
import Walkthrough.Requirement.Version
import Walkthrough.Requirement.Role
import Walkthrough.Requirement.Verdict
/-!
How each kind of requirement is checked: against the page directly, or by judging one fact about
the user or the server.
-/

namespace Walkthrough

/-- What the requirements are about: the action of a step and its target. -/
structure Subject where
  action : String
  target : String
deriving DecidableEq, Repr

/-- Without a step, requirements are about a button without a label. -/
def Subject.unnamed : Subject :=
  ⟨Action.button.name, ""⟩

inductive Check where
  | direct (run : Run Verdict)
  | fact (asked : Lookup) (judge : Json → Except Fault Verdict)

namespace Requirement

open Text

def verdictOf (raw : String) (holds : Bool) (reason : String) : Verdict :=
  if holds then Verdict.ok raw .null else Verdict.failed raw reason .null

/-! Checks of the page. -/

def targetExists (raw : String) (subject : Subject) : Run Verdict := do
  if subject.action = Action.button.name then
    let buttons ← buttonsLabelled subject.target
    return verdictOf raw (!buttons.isEmpty)
      ("No buttons found containing text: \"" ++ subject.target ++ "\"")
  else
    let resolution ← Selector.resolve subject.target none
    let context := Json.object resolution.report
    return if resolution.elements.isEmpty then Verdict.failed raw "Element not found" context
      else Verdict.ok raw context

def menuIsOpen (raw : String) : Run Verdict := do
  let menus ← Selector.queryGiven (← Run.settings).menuSelector none
  return verdictOf raw (!menus.isEmpty) "Navmenu is not open"

def isOnPage (raw wanted : String) : Run Verdict := do
  let current ← Run.page .location
  return verdictOf raw (includes wanted current)
    s!"Current page '{current}' does not match required path '{wanted}'"

def unknownCheck (raw : String) : Run Verdict := do
  let config ← Run.settings
  return ⟨raw, config.unknownRequirementsPass, some "Unknown requirement", .null⟩

/-! Judgements of facts. -/

def judgeAdmin (raw : String) (user : Json) : Except Fault Verdict := do
  match user with
  | .null => return Verdict.failed raw "Unable to determine user admin status" .null
  | user =>
      if (← user.member "isGrafanaAdmin").truthy then return Verdict.ok raw user
      else return Verdict.failed raw "User is not an admin" user

def judgeRole (raw wanted : String) (user : Json) : Except Fault Verdict := do
  match user with
  | .null => return Verdict.failed raw "User information not available" .null
  | user =>
      let required := lower wanted
      if ← roleSatisfies user required then return Verdict.ok raw .null
      else
        let role := (← user.member "orgRole").orElse (.text "none")
        return Verdict.failed raw
          s!"User role '{role.display}' does not meet requirement '{required}'" .null

def judgeSources (raw : String) (sources : Json) : Except Fault Verdict :=
  .ok (if sources.truthy then Verdict.ok raw sources
    else Verdict.failed raw "No data sources found" sources)

def findItem (check : Json → Except Fault Bool) : List Json → Except Fault (Option Json)
  | [] => .ok none
  | item :: rest => do
      if ← check item then return some item
      else findItem check rest

def isSourceNamed (wanted : String) (source : Json) : Except Fault Bool := do
  let names := [← source.member "name", ← source.member "uid", ← source.member "type"]
  return names.any fun name =>
    match name with
    | .null => false
    | value => lower value.display == wanted

def judgeSource (raw argument : String) (sources : Json) : Except Fault Verdict := do
  let wanted := lower argument
  match ← findItem (isSourceNamed wanted) (← sources.elements) with
  | some source => return Verdict.ok raw source
  | none =>
      return Verdict.failed raw s!"No data source found with name/uid/type: {wanted}" .null

def isPlugin (id : String) (plugin : Json) : Except Fault Bool := do
  match ← plugin.member "id" with
  | .text known => return known == id
  | _ => return false

def judgePlugin (raw id : String) (plugins : Json) : Except Fault Verdict := do
  let found ← findItem (isPlugin id) (← plugins.elements)
  return verdictOf raw found.isSome s!"Plugin '{id}' is not installed or enabled"

def titleOf : Json → Except Fault String
  | .object fields => .ok (lower ((Fields.lookup fields "title").getD (.text "")).display)
  | value => .error (.misuse (.noMember value.kindName "get"))

def judgeDashboards (raw title : String) (dashboards : Json) : Except Fault Verdict := do
  let check := fun dashboard => do return (← titleOf dashboard) == lower title
  let found ← findItem check (← dashboards.elements)
  return verdictOf raw found.isSome s!"Dashboard named '{title}' not found"

def judgePermission (raw permission : String) (permissions : Json) : Except Fault Verdict :=
  .ok (verdictOf raw (Facts.named? permissions permission).isSome
    s!"Missing permission: {permission}")

def judgeFeature (raw feature : String) (settings : Json) : Except Fault Verdict := do
  return verdictOf raw (← (Facts.featureToggles settings).member feature).truthy
    s!"Feature toggle '{feature}' is not enabled"

def judgeEnvironment (raw argument : String) (settings : Json) : Except Fault Verdict := do
  let wanted := lower argument
  let given := (← (Facts.buildInfo settings).member "env").orElse (.text "unknown")
  let current := lower given.display
  return verdictOf raw (current == wanted)
    s!"Current environment '{current}' does not match required '{wanted}'"

def versionOf (text : String) : Except Fault Version :=
  match Version.parse text with
  | .ok version => .ok version
  | .error cause => .error (.misuse cause)

def judgeVersion (raw required : String) (settings : Json) : Except Fault Verdict := do
  let given := (← (Facts.buildInfo settings).member "version").orElse (.text "0.0.0")
  let current := given.display
  return verdictOf raw ((← versionOf current).atLeast (← versionOf required))
    s!"Current version '{current}' does not meet minimum requirement '{required}'"

def check (requirement : Requirement) (subject : Subject) : Check :=
  let raw := requirement.raw
  let argument := requirement.argument
  match requirement.kind with
  | .existsTarget => .direct (targetExists raw subject)
  | .menuOpen => .direct (menuIsOpen raw)
  | .onPage => .direct (isOnPage raw argument)
  | .unknown => .direct (unknownCheck raw)
  | .isAdmin => .fact .user (judgeAdmin raw)
  | .hasRole => .fact .user (judgeRole raw argument)
  | .hasDataSources => .fact .dataSources (judgeSources raw)
  | .hasDataSource => .fact .dataSources (judgeSource raw argument)
  | .hasPlugin => .fact .plugins (judgePlugin raw argument)
  | .hasDashboard => .fact (.dashboards (.text argument)) (judgeDashboards raw argument)
  | .hasPermission => .fact .permissions (judgePermission raw argument)
  | .hasFeature => .fact .frontendSettings (judgeFeature raw argument)
  | .inEnvironment => .fact .frontendSettings (judgeEnvironment raw argument)
  | .minVersion => .fact .frontendSettings (judgeVersion raw argument)

end Requirement

end Walkthrough
