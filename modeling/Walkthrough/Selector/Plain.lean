import Walkthrough.Text.Pieces
/-!
Selectors that a page knows by itself: tags, ids, classes, attribute tests, negations, descendants
and alternatives.
-/

namespace Walkthrough.Selector

open Text

inductive Test where
  | tag (name : String)
  | id (name : String)
  | ofClass (name : String)
  | hasAttribute (name : String)
  | attribute (name value : String)
  | negation (tests : List Test)

structure Facade where
  tag : String
  attributes : List (String × String)
deriving DecidableEq, Repr

namespace Facade

def attribute? (facade : Facade) (name : String) : Option String :=
  (facade.attributes.find? fun entry => entry.1 == name).map Prod.snd

def classes (facade : Facade) : List String :=
  words ((facade.attribute? "class").getD "")

end Facade

mutual

def Test.holds (facade : Facade) : Test → Bool
  | .tag name => facade.tag == name
  | .id name => facade.attribute? "id" == some name
  | .ofClass name => facade.classes.contains name
  | .hasAttribute name => (facade.attribute? name).isSome
  | .attribute name value => facade.attribute? name == some value
  | .negation tests => !Test.allHold facade tests

def Test.allHold (facade : Facade) : List Test → Bool
  | [] => true
  | test :: rest => test.holds facade && Test.allHold facade rest

end

abbrev Descent := List (List Test)

/-- The ancestors, nearest first, hold the compounds, innermost first. -/
def ancestorsMatch : List Facade → List (List Test) → Bool
  | _, [] => true
  | [], _ :: _ => false
  | ancestor :: rest, compound :: outer =>
      if Test.allHold ancestor compound then ancestorsMatch rest outer
      else ancestorsMatch rest (compound :: outer)

def Descent.matches (descent : Descent) (facade : Facade) (ancestors : List Facade) : Bool :=
  match descent.reverse with
  | [] => false
  | compound :: outer => Test.allHold facade compound && ancestorsMatch ancestors outer

abbrev Plain := List Descent

def Plain.matches (plain : Plain) (facade : Facade) (ancestors : List Facade) : Bool :=
  plain.any fun descent => descent.matches facade ancestors

end Walkthrough.Selector
