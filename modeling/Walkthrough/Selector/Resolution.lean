import Walkthrough.Request
import Walkthrough.Selector.Has
import Walkthrough.Selector.Custom
import Walkthrough.Text.Lowercase
/-!
Finding the elements that a selector names. The page is asked first. Only if it refuses the
selector, or finds nothing for one that uses a custom pseudo-class, the selector is taken apart and
its parts are matched one by one. Whatever goes wrong, there is a resolution.
-/

namespace Walkthrough

/-- The elements found, and what was matched in place of the selector if it was not taken as it
stands. -/
structure Resolution where
  selector : String
  elements : List Element
  usedFallback : Bool
  effective : Option String
deriving DecidableEq, Repr

namespace Resolution

def native (selector : String) (elements : List Element) : Resolution :=
  ⟨selector, elements, false, none⟩

def fallback (selector : String) (elements : List Element) (effective : String) : Resolution :=
  ⟨selector, elements, true, some effective⟩

inductive Mark where
  | invalidContains
  | invalidHas
  | invalidText
  | invalidNth
  | invalidIndex
  | errorInContains
  | errorInHas
  | errorInText
  | errorInNth
  | unsupported
  | error
deriving DecidableEq, Repr

def Mark.name : Mark → String
  | invalidContains => "INVALID_CONTAINS_SYNTAX"
  | invalidHas => "INVALID_HAS_SYNTAX"
  | invalidText => "INVALID_TEXT_SYNTAX"
  | invalidNth => "INVALID_NTH_MATCH_SYNTAX"
  | invalidIndex => "INVALID_NTH_MATCH_INDEX"
  | errorInContains => "ERROR_IN_CONTAINS"
  | errorInHas => "ERROR_IN_HAS"
  | errorInText => "ERROR_IN_TEXT"
  | errorInNth => "ERROR_IN_NTH_MATCH"
  | unsupported => "UNSUPPORTED"
  | error => "ERROR"

def nothing (selector : String) (mark : Mark) : Resolution :=
  fallback selector [] mark.name

def count (resolution : Resolution) : Nat :=
  resolution.elements.length

def first (resolution : Resolution) : Option Element :=
  resolution.elements.head?

def report (resolution : Resolution) : List (String × Json) :=
  [("selector", .text resolution.selector), ("count", .ofNat resolution.count),
   ("used_fallback", .bool resolution.usedFallback),
   ("effective_selector", .ofOption resolution.effective)]

end Resolution

namespace Selector

open Text Resolution

def filterRun (check : Element → Run Bool) : List Element → Run (List Element)
  | [] => pure []
  | element :: rest => do
      let holds ← check element
      let kept ← filterRun check rest
      return if holds then element :: kept else kept

def anyRun (check : Element → Run Bool) : List Element → Run Bool
  | [] => pure false
  | element :: rest => do
      if ← check element then return true
      else anyRun check rest

def query (selector : String) (root : Option Element) : Run (List Element) :=
  Run.page (.query selector root)

/-- What a setting has as a selector need not be a text. -/
def queryGiven (given : Json) (root : Option Element) : Run (List Element) := do
  match given with
  | .text selector => query selector root
  | value =>
      if value.truthy then throw (.misuse (.noMember value.kindName "strip"))
      else throw (.guide (.selectorSyntax value.display "empty selector"))

def textIncludes (needle : String) (element : Element) : Run Bool :=
  return includesFolded needle (← Run.page (.text element))

def directTextIncludes (needle : String) (element : Element) : Run Bool :=
  return includesFolded needle (← Run.page (.directText element))

def guarded (selector : String) (mark : Mark) (attempt : Run Resolution) : Run Resolution :=
  tryCatch attempt fun _ => pure (nothing selector mark)

/-- A page's refusal of a selector is answered by `otherwise`; other failures go on. -/
def unlessRefused {α : Type} (attempt otherwise : Run α) : Run α :=
  tryCatch attempt fun fault => if fault.isSelectorSyntax then otherwise else throw fault

def resolveContains (selector : String) (root : Option Element) : Run Resolution :=
  match splitContains selector with
  | none => pure (nothing selector .invalidContains)
  | some parts =>
      guarded selector .errorInContains do
        let found ← filterRun (textIncludes parts.needle) (← query parts.base root)
        return fallback selector found (parts.base ++ " (text contains \"" ++ parts.needle ++ "\")")

def resolveText (selector : String) (root : Option Element) : Run Resolution :=
  match splitText selector with
  | none => pure (nothing selector .invalidText)
  | some parts =>
      guarded selector .errorInText do
        let found ← filterRun (directTextIncludes parts.needle) (← query parts.base root)
        return fallback selector found
          (parts.base ++ " (direct text contains \"" ++ parts.needle ++ "\")")

def hasDescendant (inner : String) (container : Element) : Run Bool := do
  if includes ":contains(" inner then
    match splitInnerContains inner with
    | some parts => anyRun (textIncludes parts.needle) (← query parts.base (some container))
    | none =>
        let found ← resolveContains inner none
        anyRun (fun element => Run.page (.contains container element)) found.elements
  else return !(← query inner (some container)).isEmpty

/-- What one container contributes: itself, or what matches the trailing part inside it. A refused
inner selector disqualifies the container, a refused trailing part is passed over. -/
def qualified (parts : HasParts) (container : Element) : Run (List Element) := do
  if ← unlessRefused (hasDescendant parts.inner container) (pure false) then
    if parts.after = "" then return [container]
    else unlessRefused (query parts.after (some container)) (pure [container])
  else return []

def collectRun (contribution : Element → Run (List Element)) : List Element → Run (List Element)
  | [] => pure []
  | element :: rest => do
      let first ← contribution element
      return first ++ (← collectRun contribution rest)

def resolveHas (selector : String) (root : Option Element) : Run Resolution :=
  match splitHas selector with
  | none => pure (nothing selector .invalidHas)
  | some parts =>
      guarded selector .errorInHas do
        let found ← collectRun (qualified parts) (← query parts.base root)
        return fallback selector found (parts.base ++ " (has descendant: " ++ parts.inner ++ ")")

def indexOf (digits : List Nat) : Option Nat :=
  if digits.length > Decimal.digitLimit then none else some (ofDigits digits)

def nthRefusal (selector : String) : Mark :=
  match anyIndex selector.toList with
  | none => .invalidNth
  | some (negative, digits) =>
      match indexOf digits with
      | none => .error
      | some size => if negative || size = 0 then .invalidIndex else .invalidNth

/-- The `index`-th of the matches, or what matches the trailing part inside it. A refused trailing
part is passed over. -/
def pickNth (selector base after : String) (index : Nat) (found : List Element)
    : Run Resolution := do
  let position := base ++ " (" ++ toString index ++ "th match)"
  match found[index - 1]? with
  | none =>
      return fallback selector [] (base ++ s!" (wanted {index}, found {found.length})")
  | some target =>
      let itself := fallback selector [target] position
      let trailing := trim after
      if trailing = "" then return itself
      else
        unlessRefused
          (return fallback selector (← query trailing (some target)) (position ++ " " ++ trailing))
          (pure itself)

theorem firstAfterStart_length {α : Type} {mark : List Char} {read : List Char → Option α}
    {text before : List Char} {found : α}
    (split : firstAfterStart mark read text = some (before, found)) :
    before.length < text.length ∨ mark = [] := by
  induction text generalizing before found with
  | nil => simp [firstAfterStart] at split
  | cons letter rest ih =>
      unfold firstAfterStart at split
      split at split
      · next here =>
          split at here
          · next starts =>
              obtain ⟨tail, same⟩ := List.isPrefixOf_iff_prefix.1 starts
              cases mark with
              | nil => exact .inr rfl
              | cons first marks =>
                  simp only [Option.some.injEq, Prod.mk.injEq] at split
                  left
                  rw [← split.1, ← same]
                  simp
          · simp at here
      · obtain ⟨⟨inner, value⟩, later, same⟩ := Option.map_eq_some_iff.1 split
        simp only [Prod.mk.injEq] at same
        obtain ⟨rfl, rfl⟩ := same
        rcases ih later with shorter | empty
        · exact .inl (by simpa using shorter)
        · exact .inr empty

theorem splitNth_base_length {selector : String} {parts : NthParts}
    (split : splitNth selector = some parts) : parts.base.length < selector.length := by
  obtain ⟨⟨before, found⟩, inner, same⟩ := Option.map_eq_some_iff.1 split
  subst same
  rcases firstAfterStart_length inner with shorter | empty
  · simpa [← String.length_toList] using shorter
  · exact absurd empty (by decide)

/-- The resolution of a selector. An indexed match resolves its base first, which is shorter. -/
def resolve (selector : String) (root : Option Element) : Run Resolution :=
  tryCatch
    (do
      let found ← unlessRefused (some <$> query selector root) (pure none)
      match found with
      | some (first :: rest) => return native selector (first :: rest)
      | some [] => if hasCustomMark selector then fallbackFor selector root
                   else return native selector []
      | none => fallbackFor selector root)
    fun _ => pure (nothing selector .error)
termination_by (selector.length, 1)
where
  fallbackFor (selector : String) (root : Option Element) : Run Resolution :=
    if includes ":nth-match(" selector then
      match _split : splitNth selector with
      | none => pure (nothing selector (nthRefusal selector))
      | some parts =>
          match indexOf parts.digits with
          | none => pure (nothing selector .error)
          | some 0 => pure (nothing selector .invalidIndex)
          | some (index + 1) =>
              guarded selector .errorInNth do
                let matched ← resolve parts.base root
                pickNth selector parts.base parts.after (index + 1) matched.elements
    else if usesMark ":has(" selector then resolveHas selector root
    else if usesMark ":contains(" selector && !includes ":has(" selector then
      resolveContains selector root
    else if includes ":text(" selector then resolveText selector root
    else pure (nothing selector .unsupported)
  termination_by (selector.length, 0)
  decreasing_by
    exact Prod.Lex.left _ _ (splitNth_base_length ‹_›)

end Selector

end Walkthrough
