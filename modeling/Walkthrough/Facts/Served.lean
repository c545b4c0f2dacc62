import Walkthrough.Facts.Reply
import Walkthrough.Facts
import Walkthrough.Cache
import Walkthrough.Dialogue
import Walkthrough.Json.Same
/-!
Facts that a server tells. Every reply that can be read is kept for a while, so that the server is
not asked again for it; a reply that fails is not kept.
-/

namespace Walkthrough.Facts

inductive Errand where
  | clock
  | fetch (fetch : Fetch)

@[reducible] def Errand.Answer (time : Type) : Errand → Type
  | clock => time
  | fetch _ => Answered

/-- A lookup that may run errands and uses the kept replies. -/
abbrev Served (time α : Type) :=
  ExceptT Fault (StateT (Cache time) (Dialogue (Errand.Answer time))) α

namespace Served

variable {time : Type}

def errand (errand : Errand) : Served time (errand.Answer time) :=
  ExceptT.lift (StateT.lift (Dialogue.question errand))

variable [Sub time] [LE time] [LT time] [OfNat time 0] [DecidableLE time] [DecidableLT time]

def kept (key : String) : Served time Json := do
  let now ← errand .clock
  let cache ← get
  let (value, rest) := cache.get now key
  set rest
  return value

def keep (key : String) (value : Json) : Served time Unit := do
  let now ← errand .clock
  modify fun cache => cache.set now key value

/-- The value that the server tells, asked for at most once while it is kept. -/
def value (fetch : Fetch) : Served time Json := do
  match ← kept fetch.key with
  | .null =>
      match ← errand (.fetch fetch) with
      | .error fault => throw fault
      | .ok reply =>
          match reply.read with
          | .ok content =>
              keep fetch.key content
              return content
          | .error fault => throw fault
  | content => return content

def valueOrNull (fetch : Fetch) : Served time (Option Json) :=
  tryCatch (some <$> value fetch) fun fault =>
    match fault with
    | .exchange _ => pure none
    | fault => throw fault

/-- The role in the organisation of that id, or in the first one if there is no id. -/
def roleIn (id : Json) : List Json → Except Fault Json
  | [] => .ok .null
  | organisation :: rest =>
      match id with
      | .null => organisation.member "role"
      | id => do
          if (← organisation.member "orgId").same id then organisation.member "role"
          else roleIn id rest

def ofExcept {α : Type} (result : Except Fault α) : Served time α :=
  match result with
  | .ok value => pure value
  | .error fault => throw fault

def organisationRole (id : Json) : Served time Json := do
  match ← valueOrNull ⟨"/api/user/orgs", []⟩ with
  | none => return .null
  | some organisations =>
      ofExcept do roleIn id (← (organisations.orElse (.list [])).elements)

def user : Served time Json := do
  match ← valueOrNull ⟨"/api/user", []⟩ with
  | some (.object fields) =>
      if (Fields.lookup fields "orgRole").isSome then return .object fields
      else
        let role ← organisationRole ((Fields.lookup fields "orgId").getD .null)
        return .object (fields ++ [("orgRole", role)])
  | _ => return .null

def lookup : Lookup → Served time Json
  | .user => user
  | .dataSources => do ofExcept (asList (← value ⟨"/api/datasources", []⟩))
  | .plugins => do ofExcept (asList (← value ⟨"/api/plugins", [("enabled", .int 1)]⟩))
  | .dashboards title => do
      let parameters := [("type", .text "dash-db"), ("query", title)]
      ofExcept (asList (← value ⟨"/api/search", parameters⟩))
  | .permissions => do ofExcept (asMapping (← value ⟨"/api/access-control/user/permissions", []⟩))
  | .frontendSettings => do ofExcept (asMapping (← value ⟨"/api/frontend/settings", []⟩))

end Served

end Walkthrough.Facts
