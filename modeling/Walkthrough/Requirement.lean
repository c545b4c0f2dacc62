import Walkthrough.Text.Pieces
/-!
Requirement expressions: checks separated by commas. A check is a bare name, or a name with an
argument after a colon; anything else is kept as an unknown check.
-/

namespace Walkthrough

namespace Requirement

inductive Kind where
  | existsTarget
  | menuOpen
  | isAdmin
  | hasDataSources
  | hasDataSource
  | hasPlugin
  | hasDashboard
  | hasPermission
  | hasRole
  | onPage
  | hasFeature
  | inEnvironment
  | minVersion
  | unknown
deriving DecidableEq, Repr

def Kind.name : Kind → String
  | existsTarget => "exists-reftarget"
  | menuOpen => "navmenu-open"
  | isAdmin => "is-admin"
  | hasDataSources => "has-datasources"
  | hasDataSource => "has-datasource"
  | hasPlugin => "has-plugin"
  | hasDashboard => "has-dashboard-named"
  | hasPermission => "has-permission"
  | hasRole => "has-role"
  | onPage => "on-page"
  | hasFeature => "has-feature"
  | inEnvironment => "in-environment"
  | minVersion => "min-version"
  | unknown => "unknown"

def Kind.bare : List Kind :=
  [existsTarget, menuOpen, isAdmin, hasDataSources]

def Kind.withArgument : List Kind :=
  [hasDataSource, hasPlugin, hasDashboard, hasPermission, hasRole, onPage, hasFeature,
   inEnvironment, minVersion]

def Kind.takesArgument (kind : Kind) : Bool :=
  Kind.withArgument.contains kind

def Kind.mark (kind : Kind) : List Char :=
  kind.name.toList ++ [':']

end Requirement

structure Requirement where
  kind : Requirement.Kind
  raw : String
  argument : String
deriving DecidableEq, Repr

namespace Requirement

open Text

def parseChars (raw : List Char) : Requirement :=
  match Kind.bare.find? fun kind => kind.name.toList == raw with
  | some kind => ⟨kind, String.ofList raw, ""⟩
  | none =>
      match Kind.withArgument.find? fun kind => kind.mark.isPrefixOf raw with
      | some kind =>
          ⟨kind, String.ofList raw, String.ofList (trimChars (raw.drop kind.mark.length))⟩
      | none => ⟨.unknown, String.ofList raw, ""⟩

def parse (text : String) : Requirement :=
  parseChars (trimChars text.toList)

/-- The checks of an expression in order, blank items dropped. -/
def parseAll (expression : String) : List Requirement :=
  ((cut (· == ',') expression.toList).filter fun item => !item.all isBlank).map
    fun item => parseChars (trimChars item)

end Requirement

end Walkthrough
