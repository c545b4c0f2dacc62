import Walkthrough.Url
import Walkthrough.Text.Lowercase
/-!
Where a shared browser may be listening, and the address at which it tells its version.
-/

namespace Walkthrough.Endpoint

open Text

def knownSchemes : List String :=
  ["http://", "https://", "ws://", "wss://"]

def withoutSlashes (text : String) : String :=
  trimRightOf (· = '/') text

/-- Without blanks around it and slashes behind it, and with a scheme if it names a port. -/
def normalize (candidate : String) : String :=
  let trimmed := trim candidate
  if trimmed = "" then ""
  else if knownSchemes.any fun scheme => startsWith scheme (lower trimmed) then
    withoutSlashes trimmed
  else if includes ":" trimmed then withoutSlashes ("http://" ++ trimmed)
  else trimmed

def variableNames : List String :=
  ["GUIDE_CDP_URL", "CDP_URL"]

def defaults : List String :=
  ["http://127.0.0.1:9222", "http://localhost:9222"]

def distinct (candidates : List String) : List String :=
  candidates.foldl
    (fun known candidate =>
      if candidate = "" || known.contains candidate then known else known ++ [candidate]) []

def candidates (environment : List (String × String)) : List String :=
  let given := variableNames.map fun name =>
    ((environment.find? fun entry => entry.1 == name).map Prod.snd).getD ""
  distinct ((given ++ defaults).map normalize)

def versionUrl (endpoint : String) : Except Url.Defect String :=
  let trimmed := trim endpoint
  if trimmed = "" then .ok ""
  else
    let full := if includes "://" trimmed then trimmed else "http://" ++ trimmed
    match Url.split full with
    | .ok url =>
        let scheme := if url.scheme.isEmpty then "http".toList else url.scheme
        .ok (Url.join ⟨scheme, url.authority, "/json/version".toList, [], []⟩)
    | .error defect => .error defect

end Walkthrough.Endpoint
