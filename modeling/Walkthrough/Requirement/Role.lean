import Walkthrough.Text.Lowercase
import Walkthrough.Facts
/-!
Roles of a user. Server administrators and the role in the organisation are two sources of rights;
a role that is neither of the known ones has to be the user's own.
-/

namespace Walkthrough

open Text

def Json.lowered (value : Json) : Except Fault String :=
  match value with
  | .text content => .ok (lower content)
  | _ => .error (.misuse (.noMember value.kindName "lower"))

def Json.isOneOf (value : Json) (names : List String) : Except Fault Bool :=
  match value with
  | .text content => .ok (names.contains content)
  | .list _ | .object _ => .error (.misuse (.unhashable value.kindName))
  | _ => .ok false

def roleSatisfies (user : Json) (required : String) : Except Fault Bool := do
  let wanted := lower required
  let role := (← user.member "orgRole").orElse (.text "")
  let admin := (← user.member "isGrafanaAdmin").truthy
  if wanted = "admin" || wanted = "grafana-admin" then return admin
  if wanted = "editor" then return (← role.isOneOf ["Editor", "Admin"]) || admin
  if wanted = "viewer" then return role.truthy
  return (← role.lowered) == wanted

end Walkthrough
