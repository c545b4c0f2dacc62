import Walkthrough.Amount
import Walkthrough.Config
/-!
How a run is tuned: the delays and limits it works with, and what it looks for on the page. The
settings that are loaded are numbers and texts; a tuning may also hold values that were never
converted.
-/

namespace Walkthrough

structure Tuning where
  highlightDuration : Json
  retryMax : Amount
  retryDelay : Amount
  showOnlyStepDelay : Amount
  previewSettle : Amount
  actionDelay : Amount
  stateChangeDelay : Amount
  multistepShowDelay : Amount
  multistepStepDelay : Amount
  requirementTimeout : Amount
  unknownRequirementsPass : Bool
  menuSelector : Json
  contentRootSelector : Json

namespace Tuning

def ofConfig (config : Config) : Tuning where
  highlightDuration := .int config.highlightDuration
  retryMax := .whole config.retryMax
  retryDelay := .whole config.retryDelay
  showOnlyStepDelay := .whole config.showOnlyStepDelay
  previewSettle := .whole config.previewSettle
  actionDelay := .whole config.actionDelay
  stateChangeDelay := .whole config.stateChangeDelay
  multistepShowDelay := .whole config.multistepShowDelay
  multistepStepDelay := .whole config.multistepStepDelay
  requirementTimeout := .whole config.requirementTimeout
  unknownRequirementsPass := config.unknownRequirementsPass
  menuSelector := .text config.menuSelector
  contentRootSelector := .text config.contentRootSelector

def standard : Tuning := ofConfig Config.standard

/-- One setting replaced as it is given; settings that tune no run are passed over. -/
def replace (tuning : Tuning) (name : String) (value : Json) : Tuning :=
  match name with
  | "highlight_duration_ms" => { tuning with highlightDuration := value }
  | "retry_max" => { tuning with retryMax := .ofJson value }
  | "retry_delay_ms" => { tuning with retryDelay := .ofJson value }
  | "show_only_step_delay_ms" => { tuning with showOnlyStepDelay := .ofJson value }
  | "preview_settle_ms" => { tuning with previewSettle := .ofJson value }
  | "action_delay_ms" => { tuning with actionDelay := .ofJson value }
  | "state_change_delay_ms" => { tuning with stateChangeDelay := .ofJson value }
  | "multistep_show_delay_ms" => { tuning with multistepShowDelay := .ofJson value }
  | "multistep_step_delay_ms" => { tuning with multistepStepDelay := .ofJson value }
  | "requirement_timeout_ms" => { tuning with requirementTimeout := .ofJson value }
  | "unknown_requirements_pass" => { tuning with unknownRequirementsPass := value.truthy }
  | "navmenu_selector" => { tuning with menuSelector := value }
  | "content_root_selector" => { tuning with contentRootSelector := value }
  | _ => tuning

end Tuning

end Walkthrough
