import Walkthrough.Facts
import Walkthrough.Text.Lowercase
/-!
Facts that are given once, for runs without a server.
-/

namespace Walkthrough.Facts

open Text

structure Fixed where
  user : Json
  dataSources : Json
  plugins : Json
  dashboards : Json
  permissions : Json
  frontendSettings : Json

namespace Fixed

def ofFields (fields : List (String × Json)) : Fixed :=
  let given := fun (name : String) => (Fields.lookup fields name).getD .null
  { user := given "user"
    dataSources := (given "data_sources").orElse (.list [])
    plugins := (given "plugins").orElse (.list [])
    dashboards := (given "dashboards").orElse (.list [])
    permissions := (given "permissions").orElse (.object [])
    frontendSettings := (given "frontend_settings").orElse (.object []) }

def replace (fixed : Fixed) (name : String) (value : Json) : Fixed :=
  match name with
  | "user" => { fixed with user := value }
  | "data_sources" => { fixed with dataSources := value }
  | "plugins" => { fixed with plugins := value }
  | "dashboards" => { fixed with dashboards := value }
  | "permissions" => { fixed with permissions := value }
  | "frontend_settings" => { fixed with frontendSettings := value }
  | _ => fixed

def titleText : Json → Except Fault String
  | .object fields => .ok ((Fields.lookup fields "title").getD (.text "")).display
  | value => .error (.misuse (.noMember value.kindName "get"))

def isTitled (needle : String) (dashboard : Json) : Except Fault Bool :=
  (titleText dashboard).map fun title => includes needle (lower title)

def filterItems (check : Json → Except Fault Bool) : List Json → Except Fault (List Json)
  | [] => .ok []
  | item :: rest => do
      let holds ← check item
      let kept ← filterItems check rest
      return if holds then item :: kept else kept

def lookup (fixed : Fixed) : Lookup → Except Fault Json
  | .user => .ok fixed.user
  | .dataSources => fixed.dataSources.elements.map Json.list
  | .plugins => fixed.plugins.elements.map Json.list
  | .dashboards (.text title) => do
      return .list (← filterItems (isTitled (lower title)) (← fixed.dashboards.elements))
  | .dashboards title => .error (.misuse (.noMember title.kindName "lower"))
  | .permissions => mapping fixed.permissions
  | .frontendSettings => mapping fixed.frontendSettings

end Fixed

end Walkthrough.Facts
