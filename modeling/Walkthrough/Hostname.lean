import Walkthrough.Hostname.Label
import Walkthrough.Text.Pieces
/-!
Names of hosts in plain letters, label by label.
-/

namespace Walkthrough.Hostname

open Text

def isPoint (letter : Char) : Bool :=
  [0x2E, 0x3002, 0xFF0E, 0xFF61].contains letter.toNat

def nameLimit : Nat := 253

/-- A name of a host in plain letters, if all its labels can stand in one. A point may end it. -/
def plainName? (name : List Char) : Option (List Char) := do
  let labels := cut isPoint name
  let (inner, ending) :=
    if labels.getLast? = some [] then (labels.dropLast, ['.']) else (labels, [])
  let plain := ['.'].intercalate (← inner.mapM plainLabel?)
  if inner.isEmpty || plain.length > nameLimit then none else some (plain ++ ending)

end Walkthrough.Hostname
