import Walkthrough.Text.Pieces
import Walkthrough.Json.Reader
/-!
Addresses in brackets: version six of the internet protocol, or a future version.
-/

namespace Walkthrough.Url

open Text

def isOctet (part : List Char) : Bool :=
  !part.isEmpty && part.all Json.isAsciiDigit && part.length ≤ 3
    && (part = ['0'] || part.head? != some '0') && ofDigits (Json.digitValues part) ≤ 255

def isVersionFour (address : List Char) : Bool :=
  let parts := cut (· = '.') address
  parts.length = 4 && parts.all isOctet

def isGroup (part : List Char) : Bool :=
  !part.isEmpty && part.length ≤ 4 && part.all fun letter => (Json.hexValue? letter).isSome

/-- A trailing address of version four stands for two groups. -/
def expandTail (parts : List (List Char)) : Option (List (List Char)) :=
  match parts.getLast? with
  | some last =>
      if last.contains '.' then
        if isVersionFour last then some (parts.dropLast ++ [['0'], ['0']]) else none
      else some parts
  | none => some parts

def gaps (parts : List (List Char)) : List Nat :=
  (List.range parts.length).filter fun place =>
    0 < place && place + 1 < parts.length && (parts.getD place []).isEmpty

def groupsFit (parts : List (List Char)) : Bool :=
  match gaps parts with
  | [] => parts.length = 8 && parts.all isGroup
  | [gap] =>
      let high := parts.take gap
      let low := parts.drop (gap + 1)
      let highGroups := if high.head?.any (·.isEmpty) then high.drop 1 else high
      let lowGroups := if low.getLast?.any (·.isEmpty) then low.dropLast else low
      (highGroups.length = high.length || highGroups.isEmpty)
        && (lowGroups.length = low.length || lowGroups.isEmpty)
        && highGroups.length + lowGroups.length < 8
        && highGroups.all isGroup && lowGroups.all isGroup
  | _ => false

/-- An optional zone after a percent sign, not empty and without another such sign. -/
def withoutZone (address : List Char) : Option (List Char) :=
  match breakAt ['%'] address with
  | none => some address
  | some (plain, zone) => if zone.isEmpty || zone.contains '%' then none else some plain

def isVersionSix (address : List Char) : Bool :=
  !address.contains '/' &&
    match withoutZone address with
    | none => false
    | some plain =>
        let parts := cut (· = ':') plain
        parts.length ≥ 3 &&
          match expandTail parts with
          | some expanded => expanded.length ≤ 9 && groupsFit expanded
          | none => false

/-- `v`, hexadecimal digits, a point and anything on the same line. -/
def isFuture (address : List Char) : Bool :=
  match address with
  | 'v' :: rest =>
      let digits := rest.takeWhile fun letter => (Json.hexValue? letter).isSome
      match rest.drop digits.length with
      | '.' :: tail => !digits.isEmpty && !tail.isEmpty && !tail.contains '\n'
      | _ => false
  | _ => false

end Walkthrough.Url
