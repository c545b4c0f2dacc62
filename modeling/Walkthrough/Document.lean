import Walkthrough.Page
import Walkthrough.Fault
import Walkthrough.Text.Lowercase
import Walkthrough.Selector.Plain.Reader
/-!
A page held in memory, which answers every call of a page. Elements are numbered in the order in
which they came into the page, so that a child has a greater number than its parent.
-/

namespace Walkthrough

open Text

inductive Parent where
  | document
  | element (number : Element)
  | nowhere
deriving DecidableEq, Repr

inductive Content where
  | text (content : String)
  | element (number : Element)
deriving DecidableEq, Repr

structure Node where
  tag : String
  attributes : List (String × String)
  parent : Parent
  content : List Content
  value : String
  checked : Bool
  clicks : Nat
  events : List String
deriving DecidableEq, Repr

inductive Markup where
  | text (content : String)
  | element (tag : String) (attributes : List (String × String)) (children : List Markup)
deriving Inhabited

namespace Node

def facade (node : Node) : Selector.Facade :=
  ⟨node.tag, node.attributes⟩

def fresh (tag : String) (attributes : List (String × String)) (parent : Parent) : Node :=
  ⟨lower tag, attributes, parent, [],
    ((attributes.find? fun entry => entry.1 == "value").map Prod.snd).getD "", false, 0, []⟩

def assign (attributes : List (String × String)) (name value : String) :
    List (String × String) :=
  match attributes with
  | [] => [(name, value)]
  | entry :: rest =>
      if entry.1 = name then (name, value) :: rest else entry :: assign rest name value

def withAttribute (node : Node) (name value : String) : Node :=
  { node with attributes := assign node.attributes name value }

def withoutAttribute (node : Node) (name : String) : Node :=
  { node with attributes := node.attributes.filter fun entry => entry.1 != name }

def withClasses (node : Node) (classes : List String) : Node :=
  node.withAttribute "class" (" ".intercalate classes)

def addClass (node : Node) (name : String) : Node :=
  let classes := node.facade.classes
  if classes.contains name then node else node.withClasses (classes ++ [name])

def removeClass (node : Node) (name : String) : Node :=
  node.withClasses (node.facade.classes.filter (· != name))

def markCompleted (node : Node) : Node :=
  (node.addClass completedClass).withAttribute "data-completed" "true"

def clearCompleted (node : Node) : Node :=
  (node.removeClass completedClass).withoutAttribute "data-completed"

def isToggle (node : Node) : Bool :=
  node.tag == "input" &&
    ["checkbox", "radio"].contains (lower ((node.facade.attribute? "type").getD ""))

/-- Toggles are checked unless the value says no, controls take the value, and anything else takes
it as its text. -/
def fill (node : Node) (value : String) : Node :=
  if node.isToggle then { node with checked := !(["false", "0", ""].contains value) }
  else if formControlTags.contains node.tag then { node with value := value }
  else { node with content := [.text value] }

end Node

/-- The nodes by number, what hangs directly in the document, and where the page is. -/
structure Document where
  nodes : List Node
  top : List Element
  location : String
  settled : Nat
  completions : List (Element × String)
deriving DecidableEq, Repr

namespace Document

def node? (document : Document) (element : Element) : Option Node :=
  document.nodes[element]?

def update (document : Document) (change : Node → Node) (element : Element) : Document :=
  { document with nodes := document.nodes.modify element change }

def updateAll (document : Document) (change : Node → Node) (elements : List Element) : Document :=
  elements.foldl (fun changed element => changed.update change element) document

/-! Building. -/

mutual

def insert (document : Document) (parent : Parent) : Markup → Document × Content
  | .text content => (document, .text content)
  | .element tag attributes children =>
      let number := document.nodes.length
      let opened := { document with nodes := document.nodes ++ [Node.fresh tag attributes parent] }
      let filled := insertAll opened number children
      (filled.1.update (fun node => { node with content := filled.2 }) number, .element number)

def insertAll (document : Document) (parent : Element) : List Markup → Document × List Content
  | [] => (document, [])
  | child :: rest =>
      let first := insert document (.element parent) child
      let others := insertAll first.1 parent rest
      (others.1, first.2 :: others.2)

end

def elementOf? : Content → Option Element
  | .element number => some number
  | .text _ => none

def ofMarkup (markup : Markup) (location : String) : Document :=
  let empty : Document := ⟨[], [], location, 0, []⟩
  let built := insert empty .document markup
  { built.1 with top := (elementOf? built.2).toList }

def append (document : Document) (parent : Element) (child : Markup) :
    Document × Option Element :=
  let inserted := document.insert (.element parent) child
  (inserted.1.update (fun node => { node with content := node.content ++ [inserted.2] }) parent,
    elementOf? inserted.2)

/-- Takes an element out of the page. It keeps its number and what is in it. -/
def remove (document : Document) (element : Element) : Document :=
  let detached := document.update (fun node => { node with parent := .nowhere }) element
  match (document.node? element).map Node.parent with
  | some (.element parent) =>
      detached.update
        (fun node => { node with content := node.content.filter (· != .element element) }) parent
  | some .document => { detached with top := document.top.filter (· != element) }
  | _ => document

/-! Looking. -/

def ancestorsUpTo (document : Document) : Nat → Element → List Element
  | 0, _ => []
  | depth + 1, element =>
      match (document.node? element).map Node.parent with
      | some (.element parent) => parent :: document.ancestorsUpTo depth parent
      | _ => []

def ancestors (document : Document) (element : Element) : List Element :=
  document.ancestorsUpTo document.nodes.length element

def rootFacade : Selector.Facade := ⟨"html", []⟩

/-- What a selector sees around an element; the document comes last if the element is in it. -/
def surroundings (document : Document) (element : Element) : List Selector.Facade :=
  let around := document.ancestors element
  let outermost := around.getLast?.getD element
  around.filterMap (fun ancestor => (document.node? ancestor).map Node.facade)
    ++ if (document.node? outermost).map Node.parent = some .document then [rootFacade] else []

def childElements (document : Document) (element : Element) : List Element :=
  match document.node? element with
  | some node => node.content.filterMap elementOf?
  | none => []

def descendantsUpTo (document : Document) : Nat → Element → List Element
  | 0, _ => []
  | depth + 1, element =>
      (document.childElements element).flatMap fun child =>
        child :: document.descendantsUpTo depth child

def descendants (document : Document) (root : Option Element) : List Element :=
  let depth := document.nodes.length
  match root with
  | some element => document.descendantsUpTo depth element
  | none => document.top.flatMap fun element => element :: document.descendantsUpTo depth element

def contains (document : Document) (container element : Element) : Bool :=
  container == element || (document.ancestors element).contains container

def isMatch (document : Document) (plain : Selector.Plain) (element : Element) : Bool :=
  match document.node? element with
  | some node => plain.matches node.facade (document.surroundings element)
  | none => false

def query (document : Document) (selector : String) (root : Option Element) :
    Except GuideError (List Element) :=
  match Selector.Plain.read selector with
  | .ok plain => .ok ((document.descendants root).filter (document.isMatch plain))
  | .error refusal => .error (.selectorSyntax selector refusal.reason)

def textUpTo (document : Document) : Nat → Element → String
  | 0, _ => ""
  | depth + 1, element =>
      match document.node? element with
      | some node =>
          "".intercalate (node.content.map fun content =>
            match content with
            | .text content => content
            | .element child => document.textUpTo depth child)
      | none => ""

def text (document : Document) (element : Element) : String :=
  document.textUpTo document.nodes.length element

def directText (document : Document) (element : Element) : String :=
  match document.node? element with
  | some node =>
      trim ("".intercalate (node.content.filterMap fun content =>
        match content with
        | .text content => some content
        | .element _ => none))
  | none => ""

def renderedUpTo (document : Document) : Nat → Element → String
  | 0, _ => ""
  | depth + 1, element =>
      match document.node? element with
      | some node =>
          trim ("".intercalate (node.content.map fun content =>
            match content with
            | .text content => trim content ++ " "
            | .element child => document.renderedUpTo depth child ++ " "))
      | none => ""

def renderedText (document : Document) (element : Element) : String :=
  document.renderedUpTo document.nodes.length element

/-! Answering calls. -/

def badLocation (defect : Url.Defect) : Fault :=
  .misuse (.badUrl defect)

def answer (document : Document) (call : PageCall) : Document × Except Fault call.Answer :=
  match call with
  | .query selector root =>
      (document, match document.query selector root with
        | .ok found => .ok found
        | .error error => .error (.guide error))
  | .text element => (document, .ok (document.text element))
  | .directText element => (document, .ok (document.directText element))
  | .renderedText element => (document, .ok (document.renderedText element))
  | .attributes element =>
      (document, .ok (((document.node? element).map Node.attributes).getD []))
  | .contains container element => (document, .ok (document.contains container element))
  | .location =>
      (document, match Url.locationPath document.location with
        | .ok path => .ok path
        | .error defect => .error (badLocation defect))
  | .click element =>
      (document.update (fun node => { node with clicks := node.clicks + 1 }) element, .ok ())
  | .highlight .. => (document, .ok ())
  | .setValue element value =>
      (document.update (Node.fill · value) element,
        .ok (((document.node? element).map Node.tag).getD ""))
  | .formEvents element tag =>
      let names := formEventSequence tag
      (document.update (fun node => { node with events := node.events ++ names }) element,
        .ok names)
  | .pushRoute path =>
      match Url.routed document.location path with
      | .ok location => ({ document with location := location }, .ok ())
      | .error defect => (document, .error (badLocation defect))
  | .openExternal _ => (document, .ok ())
  | .markCompleted elements => (document.updateAll Node.markCompleted elements, .ok ())
  | .clearCompleted elements => (document.updateAll Node.clearCompleted elements, .ok ())
  | .completionEvent element state =>
      ({ document with completions := document.completions ++ [(element, state)] }, .ok ())
  | .settle => ({ document with settled := document.settled + 1 }, .ok ())

end Document

end Walkthrough
