import Walkthrough.Fault
import Walkthrough.Json.Same
/-!
Dynamic values where a text is expected: what is no text fails at the first thing that is asked of
it.
-/

namespace Walkthrough.Json

def textFor (value : Json) (asked : String) : Except Misuse String :=
  match value with
  | .text content => .ok content
  | value => .error (.noMember value.kindName asked)

def textOrEmptyFor (value : Json) (asked : String) : Except Misuse String :=
  if value.truthy then value.textFor asked else .ok ""

def holds (value : Json) (needle : String) : Except Misuse Bool :=
  match value with
  | .text content => .ok (Text.includes needle content)
  | .list items => .ok (items.any fun item => item.same (.text needle))
  | .object fields => .ok (Fields.lookup fields needle).isSome
  | value => .error (.notContainer value.kindName)

def holdsAny (value : Json) : List String → Except Misuse Bool
  | [] => .ok false
  | needle :: rest => do
      if ← value.holds needle then return true else value.holdsAny rest

def asName (value : Json) : Except Misuse String :=
  match value with
  | .text content => .ok content
  | .list _ | .object _ => .error (.unhashable value.kindName)
  | _ => .ok ""

end Walkthrough.Json
