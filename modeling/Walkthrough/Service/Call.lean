import Walkthrough.Text.Lowercase
import Walkthrough.Url
import Walkthrough.Url.Percent
import Walkthrough.Json.Wire
/-!
Calls of the service: a method, the segments of a path, and the fields of a body. Only an object
sent as JSON counts as a body.
-/

namespace Walkthrough.Service

open Text

structure Call where
  method : String
  path : String
  body : List (String × Json)

inductive Route where
  | trigger (id : String)
  | reset (id : String)
  | states
  | runMultistep
  | checkRequirements
  | resolveSelector
  | health
  | asset (name : String)
deriving DecidableEq, Repr

/-- The decoded path of an address, which may name a server, behind a single slash. What is left of
the address once its server is known is read as an address again. -/
def bare (address : String) : Except Url.Defect (List Char) := do
  let outer ← Url.split address
  outer.checkPort
  let query := if outer.query.isEmpty then [] else '?' :: outer.query
  let inner ← Url.splitChars (outer.path ++ query)
  return '/' :: (Url.decodePercent inner.path).dropWhile (· = '/')

/-- An asset has a name that does not start with a slash, and goes on within one line. -/
def assetName? (parts : List String) : Option String :=
  let name := "/".intercalate parts
  if name = "" || name.toList.head? = some '/' || (name.toList.drop 1).contains '\n' then none
  else some name

def Route.ofPath? (path : List Char) : Option Route :=
  match (cut (· == '/') path).map String.ofList with
  | ["", "steps", "state"] => some .states
  | ["", "steps", id, "trigger"] => if id = "" then none else some (.trigger id)
  | ["", "steps", id, "reset"] => if id = "" then none else some (.reset id)
  | ["", "multisteps", "run"] => some .runMultistep
  | ["", "requirements", "check"] => some .checkRequirements
  | ["", "selectors", "resolve"] => some .resolveSelector
  | ["", "healthz"] => some .health
  | "" :: "static" :: name => (assetName? name).map Route.asset
  | _ => none

/-- Reading routes are asked with `GET`, all others with `POST`. -/
def Route.method : Route → String
  | states | health | asset _ => "GET"
  | _ => "POST"

/-- Every route tells its options, and reading routes can be asked for the head alone. -/
def Route.allows (route : Route) (method : String) : Bool :=
  method == route.method || method == "OPTIONS" || (method == "HEAD" && route.method == "GET")

def mergeSlashes : List Char → List Char
  | '/' :: '/' :: rest => '/' :: mergeSlashes rest
  | letter :: rest => letter :: mergeSlashes rest
  | [] => []

inductive Destination where
  | here (route : Route)
  | moved (route : Route)
  | nowhere
deriving DecidableEq, Repr

def destination (path : List Char) : Destination :=
  match Route.ofPath? path, Route.ofPath? (mergeSlashes path) with
  | some route, _ => .here route
  | none, some route => .moved route
  | none, none => .nowhere

def jsonType : String := "application/json"

def isJsonType (contentType : String) : Bool :=
  let media := lowerChars (trimChars (contentType.toList.takeWhile (· != ';')))
  media == jsonType.toList
    || ("application/".toList.isPrefixOf media && "+json".toList.isSuffixOf media)

def fieldsOf : Json → List (String × Json)
  | .object fields => fields
  | _ => []

def readBody (contentType content : String) : List (String × Json) :=
  if isJsonType contentType then
    match Json.readWire content with
    | .ok value => fieldsOf value
    | .error _ => []
  else []

end Walkthrough.Service
