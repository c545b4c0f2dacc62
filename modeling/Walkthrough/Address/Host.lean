import Walkthrough.Address.Defect
import Walkthrough.Hostname
import Walkthrough.Text.Lowercase
import Walkthrough.Url.Host
import Walkthrough.Url.Percent
/-!
The host of an address: an address of the internet protocol, of version four or in brackets of
version six, or a name.
-/

namespace Walkthrough.Address

open Text

/-- Four groups of digits are looked for, with one character of any kind between two of them: how
many of these are still to come, and whether a group has begun. -/
abbrev GroupState := Nat × Bool

def GroupState.next (letter : Char) (state : GroupState) : List GroupState :=
  (if Json.isAsciiDigit letter then [(state.1, true)] else [])
    ++ if state.2 && 0 < state.1 then [(state.1 - 1, false)] else []

def groupsFrom (states : List GroupState) : List Char → Bool
  | [] => states.contains (0, true)
  | letter :: rest => groupsFrom ((states.flatMap (GroupState.next letter)).eraseDups) rest

def isNumbered (host : List Char) : Bool :=
  groupsFrom [(3, false)] host

def isBracketed (host : List Char) : Bool :=
  2 ≤ host.length && host.head? = some '[' && host.getLast? = some ']'

def bracketed (host : List Char) : List Char :=
  (host.drop 1).dropLast

def nameSigns : List Char :=
  "-._~!$&'()*+,;=\"\x60\x7b\x7d%|\\".toList

def isNameSign (letter : Char) : Bool :=
  letter.toNat < 128 && (letter.isAlphanum || nameSigns.contains letter)

def plainHost (host : List Char) : Except Defect (List Char) :=
  let text := String.ofList host
  if host.isEmpty then .ok []
  else if isNumbered host then
    if Url.isVersionFour host then .ok host else .error (.badVersionFour text)
  else if isBracketed host then
    if Url.isVersionSix (bracketed host) then .ok (bracketed host)
    else .error (.badVersionSix text)
  else if host.all fun letter => letter.toNat < 128 then
    .ok (Url.escapeUnless isNameSign (host.map Char.toLower))
  else match Hostname.plainName? (lowerChars host) with
    | some name => .ok name
    | none => .error (.badName text)

end Walkthrough.Address
