import Walkthrough.Text.Blank
/-!
Cutting a text at separators, and looking for one text inside another.
-/

namespace Walkthrough.Text

/-- Every separator ends a piece; an empty text is one empty piece. -/
def cut (separates : Char → Bool) : List Char → List (List Char)
  | [] => [[]]
  | letter :: rest =>
      if separates letter then [] :: cut separates rest
      else match cut separates rest with
        | [] => [[letter]]
        | piece :: pieces => (letter :: piece) :: pieces

theorem cut_ne_nil (separates : Char → Bool) (text : List Char) : cut separates text ≠ [] := by
  cases text with
  | nil => simp [cut]
  | cons letter rest =>
      unfold cut
      split
      · simp
      · split <;> simp

def split (separator : Char) (text : String) : List String :=
  (cut (· == separator) text.toList).map String.ofList

def words (text : String) : List String :=
  ((cut isBlank text.toList).filter fun piece => !piece.isEmpty).map String.ofList

def breakAt (pattern : List Char) : List Char → Option (List Char × List Char)
  | [] => if pattern.isEmpty then some ([], []) else none
  | letter :: rest =>
      if pattern.isPrefixOf (letter :: rest) then
        some ([], (letter :: rest).drop pattern.length)
      else
        (breakAt pattern rest).map fun found => (letter :: found.1, found.2)

theorem breakAt_sound {pattern text before after : List Char}
    (found : breakAt pattern text = some (before, after)) :
    text = before ++ pattern ++ after := by
  induction text generalizing before after with
  | nil =>
      simp only [breakAt] at found
      split at found <;> simp_all
  | cons letter rest ih =>
      simp only [breakAt] at found
      split at found
      · next starts =>
          obtain ⟨tail, same⟩ := List.isPrefixOf_iff_prefix.1 starts
          simp only [Option.some.injEq, Prod.mk.injEq] at found
          obtain ⟨rfl, rfl⟩ := found
          simp [← same]
      · obtain ⟨⟨first, last⟩, inner, same⟩ := Option.map_eq_some_iff.1 found
        simp only [Prod.mk.injEq] at same
        obtain ⟨rfl, rfl⟩ := same
        simp [ih inner]

def includesChars (pattern text : List Char) : Bool :=
  (breakAt pattern text).isSome

def includes (pattern text : String) : Bool :=
  includesChars pattern.toList text.toList

def startsWith (pattern text : String) : Bool :=
  pattern.toList.isPrefixOf text.toList

end Walkthrough.Text
