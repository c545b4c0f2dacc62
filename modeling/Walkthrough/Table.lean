import Walkthrough.Table.Value
/-!
Settings files: lines `name = value`, under headings `[name]` of tables or `[[name]]` of lists of
tables. A table has one heading, a name has one value, and what is written as a value is complete.
-/

namespace Walkthrough.Table

/-- What is read so far: the fields of the file, the heading that lines stand under, and the names
that are settled. -/
structure Reading where
  fields : Entries
  heading : Name
  /-- Tables that have had their heading. -/
  headed : List Name
  /-- Tables that were made by names of lines since the last heading, and may have no other. -/
  made : List Name
  /-- Lists and tables that were written as values. -/
  closed : List Name

namespace Reading

def start : Reading := ⟨[], [], [], [], []⟩

/-- What lines made counts as headed from the next heading on. -/
def settle (reading : Reading) : Reading :=
  { reading with headed := reading.made ++ reading.headed, made := [] }

/-- Lines go to a table that has no heading yet. -/
def openTable (name : Name) (reading : Reading) : Option Reading := do
  if reading.headed.contains name || leadsInto reading.closed name then none
  else
    let fields ← changeAt true some name reading.fields
    return { reading with fields := fields, heading := name, headed := name :: reading.headed }

def addTable (name : String) (fields : Entries) : Option Entries :=
  match Fields.lookup fields name with
  | none => some (fields ++ [(name, .list [.table []])])
  | some (.list items) => some (Fields.assign fields name (.list (items ++ [.table []])))
  | some _ => none

/-- Lines go to a further table of a list, in which nothing is settled yet. -/
def openItem (name : Name) (reading : Reading) : Option Reading := do
  if leadsInto reading.closed name then none
  else
    let fields ← changeAt true (addTable (← name.getLast?)) name.dropLast reading.fields
    let apart := fun (known : Name) => !name.isPrefixOf known
    return { reading with
      fields := fields, heading := name
      headed := name :: reading.headed.filter apart
      closed := reading.closed.filter apart }

def passed (heading name : Name) : List Name :=
  (List.range name.length).tail.map fun count => heading ++ name.take count

def addValue (name : Name) (given : Setting) (reading : Reading) : Option Reading := do
  let through := passed reading.heading name
  let full := reading.heading ++ name
  if through.any reading.headed.contains || leadsInto reading.closed full.dropLast then none
  else
    let fields ← addAt true full given reading.fields
    return { reading with
      fields := fields, made := through ++ reading.made
      closed := if isComposite given then full :: reading.closed else reading.closed }

end Reading

def endLine (text : List Char) : Option (List Char) :=
  match skipComment (skipGap text) with
  | [] => some []
  | '\n' :: rest => some rest
  | _ => none

def readHeading (closing text : List Char) : Option (Name × List Char) := do
  let (name, rest) ← readName (text.length + 1) (skipGap text)
  if closing.isPrefixOf rest then some (name, rest.drop closing.length) else none

def readStatement (reading : Reading) (text : List Char) :
    Except Defect (Reading × List Char) :=
  match text with
  | '[' :: '[' :: rest => orMalformed do
      let (name, last) ← readHeading [']', ']'] rest
      return (← reading.settle.openItem name, last)
  | '[' :: rest => orMalformed do
      let (name, last) ← readHeading [']'] rest
      return (← reading.settle.openTable name, last)
  | _ => do
      let (name, valueText) ← orMalformed (readAssigned text)
      let (given, last) ← readValue (2 * valueText.length + 2) valueText
      return (← orMalformed (reading.addValue name given), last)

def readLine (reading : Reading) (text : List Char) : Except Defect (Reading × List Char) :=
  match endLine text with
  | some rest => .ok (reading, rest)
  | none => do
      let (next, rest) ← readStatement reading (skipGap text)
      return (next, ← orMalformed (endLine rest))

def readLines : Nat → Reading → List Char → Except Defect Reading
  | _, reading, [] => .ok reading
  | 0, _, _ => .error .malformed
  | fuel + 1, reading, text => do
      let (next, rest) ← readLine reading text
      readLines fuel next rest

def withPlainEnds : List Char → List Char
  | '\r' :: '\n' :: rest => '\n' :: withPlainEnds rest
  | letter :: rest => letter :: withPlainEnds rest
  | [] => []

def read (text : String) : Except Defect Entries :=
  let letters := withPlainEnds text.toList
  (readLines (letters.length + 1) .start letters).map Reading.fields

end Walkthrough.Table
