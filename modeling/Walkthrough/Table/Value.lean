import Walkthrough.Table.Text
import Walkthrough.Table.Scalar
/-!
Names and values in a settings file. A name may have several parts with points between them; it
leads through tables, which are made where they are missing.
-/

namespace Walkthrough.Table

abbrev Name := List String

abbrev Entries := List (String × Setting)

def orMalformed {α : Type} : Option α → Except Defect α
  | some found => .ok found
  | none => .error .malformed

/-! Names. -/

def isNameLetter (letter : Char) : Bool :=
  (letter.toNat < 128 && letter.isAlphanum) || letter = '_' || letter = '-'

def readPart (text : List Char) : Option (String × List Char) :=
  match readLineText? text with
  | some outcome => outcome.map fun found => (String.ofList found.1, found.2)
  | none =>
      let name := text.takeWhile isNameLetter
      if name.isEmpty then none else some (String.ofList name, text.drop name.length)

def readName : Nat → List Char → Option (Name × List Char)
  | 0, _ => none
  | fuel + 1, text => do
      let (part, afterPart) ← readPart text
      match skipGap afterPart with
      | '.' :: rest =>
          let (parts, last) ← readName fuel (skipGap rest)
          return (part :: parts, last)
      | rest => return ([part], rest)

def readAssigned (text : List Char) : Option (Name × List Char) := do
  let (name, rest) ← readName (text.length + 1) text
  match rest with
  | '=' :: tail => return (name, skipGap tail)
  | _ => none

/-! Tables inside tables. -/

/-- The table to which a name leads, changed. Where a list is on the way, its last item is entered,
if `entersLists`. -/
def changeAt (entersLists : Bool) (change : Entries → Option Entries) :
    Name → Entries → Option Entries
  | [], fields => change fields
  | part :: rest, fields =>
      match Fields.lookup fields part with
      | none => do return fields ++ [(part, .table (← changeAt entersLists change rest []))]
      | some (.table inner) => do
          return Fields.assign fields part (.table (← changeAt entersLists change rest inner))
      | some (.list items) =>
          match entersLists, items.getLast? with
          | true, some (.table inner) => do
              let last ← changeAt entersLists change rest inner
              return Fields.assign fields part (.list (items.dropLast ++ [.table last]))
          | _, _ => none
      | some _ => none

def addField (name : String) (given : Setting) (fields : Entries) : Option Entries :=
  if (Fields.lookup fields name).isSome then none else some (fields ++ [(name, given)])

def addAt (entersLists : Bool) (name : Name) (given : Setting) (fields : Entries) :
    Option Entries :=
  match name.getLast? with
  | some last => changeAt entersLists (addField last given) name.dropLast fields
  | none => none

def isComposite : Setting → Bool
  | .list _ | .table _ => true
  | _ => false

def leadsInto (closed : List Name) (name : Name) : Bool :=
  closed.any fun known => known.isPrefixOf name

/-! Values. -/

/-- A comment runs to the end of the line, or to a character that may not stand in it. -/
def skipComment (text : List Char) : List Char :=
  match text with
  | '#' :: rest => rest.dropWhile fun letter => !isForbidden letter
  | _ => text

def skipBetween : Nat → List Char → List Char
  | 0, text => text
  | fuel + 1, text =>
      match text with
      | letter :: rest =>
          if isGap letter || letter = '\n' then skipBetween fuel rest
          else if letter = '#' then skipBetween fuel (skipComment text)
          else text
      | [] => []

mutual

def readValue : Nat → List Char → Except Defect (Setting × List Char)
  | 0, _ => .error .malformed
  | fuel + 1, text =>
      match readText? text with
      | some outcome => do
          let (content, rest) ← orMalformed outcome
          return (.value (.text (String.ofList content)), rest)
      | none =>
          match text with
          | '[' :: rest => do
              let (items, last) ← readItems fuel (skipBetween rest.length rest)
              return (.list items, last)
          | '\x7b' :: rest =>
              match skipGap rest with
              | '\x7d' :: last => .ok (.table [], last)
              | body => do
                  let (fields, last) ← readEntries fuel [] [] body
                  return (.table fields, last)
          | _ => readScalar text

def readItems : Nat → List Char → Except Defect (List Setting × List Char)
  | 0, _ => .error .malformed
  | fuel + 1, text =>
      match text with
      | ']' :: rest => .ok ([], rest)
      | _ => do
          let (item, afterItem) ← readValue fuel text
          match skipBetween afterItem.length afterItem with
          | ']' :: rest => return ([item], rest)
          | ',' :: rest =>
              let (items, last) ← readItems fuel (skipBetween rest.length rest)
              return (item :: items, last)
          | _ => throw .malformed

/-- Entries of a table on one line, up to the closing brace; `closed` are the names of the complete
values among them. -/
def readEntries : Nat → List Name → Entries → List Char → Except Defect (Entries × List Char)
  | 0, _, _, _ => .error .malformed
  | fuel + 1, closed, fields, text => do
      let (name, valueText) ← orMalformed (readAssigned text)
      let (given, afterValue) ← readValue fuel valueText
      if leadsInto closed name then throw .malformed
      let fields ← orMalformed (addAt false name given fields)
      match skipGap afterValue with
      | '\x7d' :: rest => return (fields, rest)
      | ',' :: rest =>
          let closed := if isComposite given then name :: closed else closed
          readEntries fuel closed fields (skipGap rest)
      | _ => throw .malformed

end

end Walkthrough.Table
