import Walkthrough.Fault
import Walkthrough.Json.Same
/-!
Facts about the user and the server, as dynamic values: what can be asked, and how an answer is
taken as a list or as a mapping.
-/

namespace Walkthrough

inductive Lookup where
  | user
  | dataSources
  | plugins
  | dashboards (title : Json)
  | permissions
  | frontendSettings
deriving DecidableEq, Repr

inductive Prompt where
  | now (answer : Except Fault Json)
  | after (seconds : Float)

namespace Json

/-- A field of a dynamic value that has to be an object; null where it has no such field. -/
def member (value : Json) (name : String) : Except Fault Json :=
  match value with
  | .object fields => .ok ((Fields.lookup fields name).getD .null)
  | _ => .error (.misuse (.noMember value.kindName "get"))

def orElse (value other : Json) : Json :=
  if value.truthy then value else other

/-- What a value is made of: items, names of fields, or characters. -/
def elements? : Json → Option (List Json)
  | .list items => some items
  | .object fields => some (fields.map fun field => .text field.1)
  | .text content => some (content.toList.map fun letter => .text (String.ofList [letter]))
  | _ => none

def elements (value : Json) : Except Fault (List Json) :=
  match value.elements? with
  | some items => .ok items
  | none => .error (.misuse (.notIterable value.kindName))

def isName : Json → Bool
  | .list _ | .object _ => false
  | _ => true

/-- Two names are one name if they are equal; what is no number counts as equal to itself. -/
def sameName (left right : Json) : Bool :=
  same left right ||
    match left, right with
    | .float first, .float second => first.isNaN && second.isNaN
    | _, _ => false

def pairAt (position : Nat) (value : Json) : Except Fault (Json × Json) :=
  match value.elements? with
  | none => .error (.misuse (.notSequence position))
  | some [name, content] =>
      if name.isName then .ok (name, content)
      else .error (.misuse (.unhashable name.kindName))
  | some items => .error (.misuse (.notPair position items.length))

def assignPair (pairs : List (Json × Json)) (name value : Json) : List (Json × Json) :=
  match pairs with
  | [] => [(name, value)]
  | pair :: rest =>
      if sameName pair.1 name then (pair.1, value) :: rest
      else pair :: assignPair rest name value

def pairsFrom (pairs : List (Json × Json)) (position : Nat) :
    List Json → Except Fault (List (Json × Json))
  | [] => .ok pairs
  | item :: rest =>
      match pairAt position item with
      | .ok (name, value) => pairsFrom (assignPair pairs name value) (position + 1) rest
      | .error fault => .error fault

def asPairs (value : Json) : Except Fault (List (Json × Json)) :=
  match value with
  | .object fields => .ok (fields.map fun field => (.text field.1, field.2))
  | value =>
      match value.elements with
      | .ok items => pairsFrom [] 0 items
      | .error fault => .error fault

def nameText : Json → String
  | .text content => content
  | .bool truth => if truth then "true" else "false"
  | .null => "null"
  | .float number =>
      if number.isNaN then "NaN"
      else if number.isInf then (if number > 0 then "Infinity" else "-Infinity")
      else Decimal.floatText number
  | value => value.display

end Json

namespace Facts

def asList (value : Json) : Except Fault Json :=
  (value.orElse (.list [])).elements.map Json.list

/-- A mapping is a list of pairs, each of a name, which need not be a text, and a value. -/
def mapping (value : Json) : Except Fault Json :=
  value.asPairs.map fun pairs => .list (pairs.map fun pair => .list [pair.1, pair.2])

def asMapping (value : Json) : Except Fault Json :=
  mapping (value.orElse (.object []))

def named? (mapping : Json) (name : String) : Option Json :=
  match mapping with
  | .list pairs => pairs.findSome? fun pair =>
      match pair with
      | .list [.text known, value] => if known = name then some value else none
      | _ => none
  | _ => none

def mappingReport (mapping : Json) : Json :=
  match mapping with
  | .list pairs => .object (pairs.filterMap fun pair =>
      match pair with
      | .list [name, value] => some (name.nameText, value)
      | _ => none)
  | value => value

def part (settings : Json) (name : String) : Json :=
  ((named? settings name).getD .null).orElse (.object [])

def featureToggles (settings : Json) : Json :=
  part settings "featureToggles"

def buildInfo (settings : Json) : Json :=
  part settings "buildInfo"

end Facts

end Walkthrough
