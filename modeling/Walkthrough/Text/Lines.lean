/-!
The first line of a text.
-/

namespace Walkthrough.Text

/-- Line feed, vertical tab, form feed, carriage return, the three information separators above
the unit, next line, and the line and paragraph separators end a line. -/
def endsLine (letter : Char) : Bool :=
  [10, 11, 12, 13, 28, 29, 30, 0x85, 0x2028, 0x2029].contains letter.toNat

def firstLine (text : String) : String :=
  String.ofList (text.toList.takeWhile fun letter => !endsLine letter)

end Walkthrough.Text
