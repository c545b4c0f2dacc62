import Walkthrough.Text.Span
/-!
White space and trimming. A character is blank if Unicode gives it the property
White_Space or it is one of the four information separators.
-/

namespace Walkthrough.Text

def blankSpans : List (Nat × Nat) :=
  [(9, 13), (28, 32), (133, 133), (160, 160), (5760, 5760), (8192, 8202), (8232, 8233),
   (8239, 8239), (8287, 8287), (12288, 12288)]

def isBlank (letter : Char) : Bool :=
  inSpans blankSpans letter.toNat

def trimLeft (text : List Char) : List Char :=
  text.dropWhile isBlank

def trimRight (text : List Char) : List Char :=
  (text.reverse.dropWhile isBlank).reverse

def trimChars (text : List Char) : List Char :=
  trimRight (trimLeft text)

def trim (text : String) : String :=
  String.ofList (trimChars text.toList)

/-- Blanks that may stand around a number. The information separators are not among them. -/
def isPadding (letter : Char) : Bool :=
  isBlank letter && !(28 ≤ letter.toNat && letter.toNat ≤ 31)

def withoutPadding (text : List Char) : List Char :=
  ((text.dropWhile isPadding).reverse.dropWhile isPadding).reverse

def allBlank (text : String) : Bool :=
  text.toList.all isBlank

def trimRightOf (unwanted : Char → Bool) (text : String) : String :=
  String.ofList (text.toList.reverse.dropWhile unwanted).reverse

end Walkthrough.Text
