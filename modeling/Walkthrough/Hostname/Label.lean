import Walkthrough.Hostname.LetterTable
import Walkthrough.Hostname.JoiningTable
import Walkthrough.Hostname.Punycode
import Walkthrough.Text.Composition
import Walkthrough.Text.Span
/-!
Labels, the parts of a host's name between its points: which characters may stand in one, next to
which others, and in which directions they may be written.
-/

namespace Walkthrough.Hostname

open Text

/-! Characters. -/

inductive Direction where
  | left
  | right
  | number
  | arabicNumber
  | mark
  | neutral
deriving DecidableEq, Repr

def isArabicFigure (code : Nat) : Bool := 0x660 ≤ code && code ≤ 0x669
def isPersianFigure (code : Nat) : Bool := 0x6F0 ≤ code && code ≤ 0x6F9

def plainDirection? (code : Nat) : Option Direction :=
  if 97 ≤ code && code ≤ 122 then some .left
  else if 48 ≤ code && code ≤ 57 then some .number
  else if code = 45 then some .neutral
  else none

/-- Characters that may stand in a label only next to certain others. -/
def contextualDirection? (code : Nat) : Option Direction :=
  if [0xB7, 0x375, 0x200C, 0x200D, 0x30FB].contains code then some .neutral
  else if code = 0x5F3 || code = 0x5F4 then some .right
  else if isArabicFigure code then some .arabicNumber
  else if isPersianFigure code then some .number
  else none

def direction? (code : Nat) : Option Direction :=
  if code < 128 then plainDirection? code
  else if inRuns leftRuns code then some .left
  else if inRuns markRuns code then some .mark
  else if inRuns rightRuns code then some .right
  else if inRuns arabicNumberRuns code then some .arabicNumber
  else if inRuns neutralRuns code then some .neutral
  else contextualDirection? code

def directedMarks : List Nat := [0xCBF, 0xCC6, 0x11A07, 0x11A08, 0x11C3F]

def isMark (code : Nat) : Bool :=
  inRuns markRuns code || inRuns spacingMarkRuns code || directedMarks.contains code

/-! Neighbours. -/

def vowelKillerClass : Nat := 9

/-- Letters that joining passes over: marks that take up no space, one of them left out, and one
letter more. -/
def isTransparent (code : Nat) : Bool :=
  (inRuns markRuns code && code != 0x1171E) || directedMarks.contains code || code = 0x1E94B

def joinsLatter (code : Nat) : Bool :=
  inRuns joiningBothRuns code || inRuns joiningLatterRuns code

def joinsFormer (code : Nat) : Bool :=
  inRuns joiningBothRuns code || inRuns joiningFormerRuns code

def faces (holds : Nat → Bool) (nearestFirst : List Nat) : Bool :=
  (nearestFirst.dropWhile isTransparent).head?.any holds

def fitsBetween (before : List Nat) (code : Nat) (after : List Nat) : Bool :=
  let afterKiller := before.head?.any fun former => markClass former = vowelKillerClass
  if code = 0x200C then afterKiller || (faces joinsLatter before && faces joinsFormer after)
  else if code = 0x200D then afterKiller
  else if code = 0xB7 then before.head? = some 0x6C && after.head? = some 0x6C
  else if code = 0x375 then after.head?.any (inRuns greekRuns)
  else if code = 0x5F3 || code = 0x5F4 then before.head?.any (inRuns hebrewRuns)
  else if code = 0x30FB then
    (before ++ after).any fun other => inRuns kanaRuns other || inRuns hanRuns other
  else if isArabicFigure code then !(before ++ after).any isPersianFigure
  else if isPersianFigure code then !(before ++ after).any isArabicFigure
  else true

def fitFrom (before : List Nat) : List Nat → Bool
  | [] => true
  | code :: after => fitsBetween before code after && fitFrom (code :: before) after

/-! Directions. -/

/-- A label with anything written from right to left is so as a whole: it starts with such a letter,
has none of the other direction, ends with a letter or a figure, marks aside, and has figures of one
kind only. -/
def isDirected (directions : List Direction) : Bool :=
  let mixed := directions.any fun direction => direction = .right || direction = .arabicNumber
  !mixed ||
    (directions.head? = some .right
      && !directions.contains .left
      && (directions.reverse.dropWhile (· = .mark)).head? != some .neutral
      && !(directions.contains .number && directions.contains .arabicNumber))

/-! Labels. -/

/-- No hyphen at an end, and no two of them in the third and fourth place. -/
def isHyphenated (codes : List Nat) : Bool :=
  codes.head? != some 45 && codes.getLast? != some 45 && (codes.drop 2).take 2 != [45, 45]

def isLabel (codes : List Nat) : Bool :=
  match codes.mapM direction? with
  | none => false
  | some directions =>
      !codes.isEmpty && isHyphenated codes && !codes.head?.any isMark && fitFrom [] codes
        && isDirected directions && isComposed codes

def plainMark : List Char := ['x', 'n', '-', '-']

def isPlainLabel (letters : List Char) : Bool :=
  if plainMark.isPrefixOf letters then
    let body := letters.drop plainMark.length
    !body.isEmpty && body.getLast? != some '-' && (readPunycode body).any isLabel
  else isLabel (letters.map Char.toNat)

def labelLimit : Nat := 63

def plainLabel? (letters : List Char) : Option (List Char) :=
  let codes := letters.map Char.toNat
  if codes.all isPlainCode then
    if isPlainLabel letters && letters.length ≤ labelLimit then some letters else none
  else if isLabel codes then
    let plain := plainMark ++ punycode codes
    if plain.length ≤ labelLimit then some plain else none
  else none

end Walkthrough.Hostname
