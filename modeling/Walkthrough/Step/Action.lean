/-!
What a step does to the page, and whether it only shows it or really does it.
-/

namespace Walkthrough

inductive Action where
  | highlight
  | button
  | formfill
  | navigate
  | sequence
  | multistep
deriving DecidableEq, Repr

namespace Action

def all : List Action :=
  [highlight, button, formfill, navigate, sequence, multistep]

def name : Action → String
  | highlight => "highlight"
  | button => "button"
  | formfill => "formfill"
  | navigate => "navigate"
  | sequence => "sequence"
  | multistep => "multistep"

def ofName? (name : String) : Option Action :=
  all.find? fun action => action.name == name

def isElement : Action → Bool
  | highlight | button | formfill | navigate => true
  | sequence | multistep => false

theorem ofName?_name (action : Action) : ofName? action.name = some action := by
  cases action <;> decide

theorem name_of_ofName? {name : String} {action : Action} (found : ofName? name = some action) :
    action.name = name := by
  simpa using List.find?_some found

end Action

inductive Mode where
  | preview
  | commit
deriving DecidableEq, Repr

namespace Mode

def name : Mode → String
  | preview => "show"
  | commit => "do"

def ofName? (name : String) : Option Mode :=
  [preview, commit].find? fun mode => mode.name == name

end Mode

end Walkthrough
