import Walkthrough.Setting
/-!
The settings of a walkthrough, each with its default.
-/

namespace Walkthrough

structure Config where
  highlightDuration : Int
  settle : Int
  retryMax : Int
  retryDelay : Int
  showOnlyStepDelay : Int
  previewSettle : Int
  actionDelay : Int
  stateChangeDelay : Int
  multistepShowDelay : Int
  multistepStepDelay : Int
  requirementTimeout : Int
  unknownRequirementsPass : Bool
  menuSelector : String
  contentRootSelector : String
  serverUrl : String
  serverToken : String
  httpTimeout : Float
  cacheTtl : Float
  logRoot : String

namespace Config

def standard : Config where
  highlightDuration := 2000
  settle := 100
  retryMax := 3
  retryDelay := 2000
  showOnlyStepDelay := 1300
  previewSettle := 1300
  actionDelay := 800
  stateChangeDelay := 1500
  multistepShowDelay := 600
  multistepStepDelay := 1200
  requirementTimeout := 5000
  unknownRequirementsPass := true
  menuSelector := "ul[aria-label=\"Navigation\"]"
  contentRootSelector := ""
  serverUrl := "http://localhost:3000"
  serverToken := ""
  httpTimeout := 5.0
  cacheTtl := 30.0
  logRoot := "runs"

open Text

/-! The settings by name. -/

def setting (given : List (String × Setting)) (name : String) (default : Json) : Setting :=
  (Fields.lookup given name).getD (.value default)

def ofSettings (given : List (String × Setting)) : Except Misuse Config := do
  let integer := fun (name : String) (default : Int) =>
    (setting given name (.int default)).toInteger
  let text := fun (name default : String) => (setting given name (.text default)).toText
  let highlightDuration ← integer "highlight_duration_ms" standard.highlightDuration
  let settle ← integer "settle_ms" standard.settle
  let retryMax ← integer "retry_max" standard.retryMax
  let retryDelay ← integer "retry_delay_ms" standard.retryDelay
  let showOnlyStepDelay ← integer "show_only_step_delay_ms" standard.showOnlyStepDelay
  let previewSettle ← integer "preview_settle_ms" standard.previewSettle
  let actionDelay ← integer "action_delay_ms" standard.actionDelay
  let stateChangeDelay ← integer "state_change_delay_ms" standard.stateChangeDelay
  let multistepShowDelay ← integer "multistep_show_delay_ms" standard.multistepShowDelay
  let multistepStepDelay ← integer "multistep_step_delay_ms" standard.multistepStepDelay
  let requirementTimeout ← integer "requirement_timeout_ms" standard.requirementTimeout
  let unknownRequirementsPass ← (setting given "unknown_requirements_pass"
    (.bool standard.unknownRequirementsPass)).toTruth
  let menuSelector ← text "navmenu_selector" standard.menuSelector
  let contentRootSelector ← text "content_root_selector" standard.contentRootSelector
  let serverUrl ← text "grafana_url" standard.serverUrl
  let serverToken ← text "grafana_token" standard.serverToken
  let httpTimeout ← (setting given "http_timeout_s" (.float standard.httpTimeout)).toReal
  let cacheTtl ← (setting given "cache_ttl_seconds" (.float standard.cacheTtl)).toReal
  let logRoot ← (setting given "log_root" (.text standard.logRoot)).toPath
  return {
    highlightDuration, settle, retryDelay, showOnlyStepDelay, previewSettle, actionDelay
    stateChangeDelay, multistepShowDelay, multistepStepDelay, requirementTimeout
    unknownRequirementsPass, menuSelector, contentRootSelector, serverToken
    httpTimeout, cacheTtl, logRoot
    retryMax := max 1 retryMax
    serverUrl := trimRightOf (· = '/') serverUrl }

def ofMapping (given : List (String × Json)) : Except Misuse Config :=
  ofSettings (given.map fun field => (field.1, .value field.2))

def payload (config : Config) : List (String × Json) :=
  [("highlight_duration_ms", .int config.highlightDuration), ("settle_ms", .int config.settle),
   ("retry_max", .int config.retryMax), ("retry_delay_ms", .int config.retryDelay),
   ("show_only_step_delay_ms", .int config.showOnlyStepDelay),
   ("preview_settle_ms", .int config.previewSettle),
   ("action_delay_ms", .int config.actionDelay),
   ("state_change_delay_ms", .int config.stateChangeDelay),
   ("multistep_show_delay_ms", .int config.multistepShowDelay),
   ("multistep_step_delay_ms", .int config.multistepStepDelay),
   ("requirement_timeout_ms", .int config.requirementTimeout),
   ("unknown_requirements_pass", .bool config.unknownRequirementsPass),
   ("navmenu_selector", .text config.menuSelector),
   ("content_root_selector", .text config.contentRootSelector),
   ("grafana_url", .text config.serverUrl), ("grafana_token", .text config.serverToken),
   ("http_timeout_s", .float config.httpTimeout), ("cache_ttl_seconds", .float config.cacheTtl),
   ("log_root", .text config.logRoot)]

def isSetting (name : String) : Bool :=
  standard.payload.any fun field => field.1 == name

def checkNames (given : List (String × Json)) : Except Misuse Unit :=
  match given.find? fun field => !isSetting field.1 with
  | some field => .error (.noSetting field.1)
  | none => .ok ()

end Config

end Walkthrough
