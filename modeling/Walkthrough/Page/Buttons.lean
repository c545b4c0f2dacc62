import Walkthrough.Selector.Resolution
/-!
Buttons by what is written on them.
-/

namespace Walkthrough

open Text Selector

def isLabelled (needle : String) (button : Element) : Run Bool :=
  return includes needle (lower (← Run.page (.renderedText button)))

/-- The buttons of the page whose text holds the label, letter case and blanks around the label
aside. No label, no buttons. -/
def buttonsLabelled (label : String) : Run (List Element) := do
  if label = "" then return []
  else filterRun (isLabelled (trim (lower label))) (← query "button" none)

end Walkthrough
