import Walkthrough.Step.Reader
import Walkthrough.Text.Pieces
/-!
Steps from the attributes of a rendered control. Attributes that start with `data-` either fill a
field or are kept as custom data, or both. A page has texts as attributes; what is given by hand
may hold any value.
-/

namespace Walkthrough

def attributeValue (attributes : List (String × String)) (name : String) : Option String :=
  (attributes.find? fun entry => entry.1 == name).map Prod.snd

/-- Fields filled from an attribute, and whether the attribute is custom data too. -/
def attributeFields : List (String × String × Bool) :=
  [("data-reftarget", "ref_target", false), ("data-targetaction", "target_action", false),
   ("data-targetvalue", "target_value", false), ("data-requirements", "requirements", false),
   ("data-objectives", "objectives", true), ("data-step-id", "step_id", true),
   ("data-section-id", "section_id", true), ("data-hints", "hints", true)]

def fieldOfAttribute (name : String) : Option (String × Bool) :=
  (attributeFields.find? fun entry => entry.1 == name).map Prod.snd

def dataMark : List Char := "data-".toList

def isDataAttribute (entry : String × Json) : Bool :=
  dataMark.isPrefixOf entry.1.toList

def customName (name : String) : String :=
  String.ofList (name.toList.drop dataMark.length)

def fieldsOfAttributes (attributes : List (String × Json)) : List (String × Json) :=
  (attributes.filter isDataAttribute).filterMap fun entry =>
    (fieldOfAttribute entry.1).map fun field => (field.1, entry.2)

def customOfAttributes (attributes : List (String × Json)) : List (String × Json) :=
  (attributes.filter isDataAttribute).filterMap fun entry =>
    match fieldOfAttribute entry.1 with
    | some (_, false) => none
    | _ => some (customName entry.1, entry.2)

def Step.ofFields (attributes : List (String × Json)) : Except Validation.Failure Step :=
  Step.read .plain (.object (fieldsOfAttributes attributes ++
    [("custom_data", .object (customOfAttributes attributes))]))

def textFields (attributes : List (String × String)) : List (String × Json) :=
  attributes.map fun entry => (entry.1, .text entry.2)

def Step.ofAttributes (attributes : List (String × String)) :
    Except Validation.Failure Step :=
  Step.ofFields (textFields attributes)

end Walkthrough
