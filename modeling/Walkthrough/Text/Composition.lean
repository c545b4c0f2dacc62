import Walkthrough.Text.CompositionTable
/-!
The composed form of a text: marks in the order of their classes, and every letter and mark written
as one where there is such a letter. Texts that look the same are composed to the same text.
-/

namespace Walkthrough.Text

def markClass (code : Nat) : Nat :=
  ((markClasses.find? fun (first, last, stride, _) =>
    first ≤ code && code ≤ last && (code - first) % stride = 0).map
      fun (_, _, _, order) => order).getD 0

/-! Taking letters apart. -/

def parts? (code : Nat) : Option (Nat × Nat) :=
  (builtLetters.find? fun built => built.1 == code).map Prod.snd

/-- What a letter is built from, in no more than so many steps. -/
def takenApart : Nat → Nat → List Nat
  | 0, code => [code]
  | steps + 1, code =>
      match parts? code with
      | some (base, mark) => takenApart steps base ++ [mark]
      | none => [code]

def mostMarks : Nat := 3

/-! Ordering marks. -/

/-- A mark goes behind those of lower classes that follow it, but not past a letter. -/
def placeMark (code : Nat) : List Nat → List Nat
  | [] => [code]
  | next :: rest =>
      if markClass next != 0 && markClass next < markClass code then next :: placeMark code rest
      else code :: next :: rest

def inOrder (codes : List Nat) : List Nat :=
  codes.foldr placeMark []

/-! Putting letters together. -/

def built? (base mark : Nat) : Option Nat :=
  (builtLetters.find? fun entry => entry.2 == (base, mark)).map Prod.fst

/-- What follows a letter: a mark is built into it unless a mark of the same class or a higher one
stands between them. `between` are the marks that were not built in, the last one first. -/
def composeOnto (base : Nat) (between : List Nat) : List Nat → List Nat
  | [] => base :: between.reverse
  | code :: rest =>
      let reaches := between.all fun mark => markClass mark < markClass code
      match if reaches then built? base code else none with
      | some letter => composeOnto letter between rest
      | none =>
          if markClass code = 0 then base :: between.reverse ++ composeOnto code [] rest
          else composeOnto base (code :: between) rest

def compose : List Nat → List Nat
  | [] => []
  | code :: rest =>
      if markClass code = 0 then composeOnto code [] rest else code :: compose rest

def composed (codes : List Nat) : List Nat :=
  compose (inOrder (codes.flatMap (takenApart mostMarks)))

def isComposed (codes : List Nat) : Bool :=
  composed codes == codes

end Walkthrough.Text
