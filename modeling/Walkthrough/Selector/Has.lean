import Walkthrough.Text.Pieces
/-!
Splitting a selector at its first `:has(`. The part in parentheses may hold balanced parentheses of
its own.
-/

namespace Walkthrough.Selector

open Text

/-- A selector in three parts: `base:has(inner)after`. -/
structure HasParts where
  base : String
  inner : String
  after : String
deriving DecidableEq, Repr

def hasMark : List Char := ":has(".toList

/-- The text up to the parenthesis that closes `depth + 1` open ones, and what follows it. -/
def closing (depth : Nat) : List Char → Option (List Char × List Char)
  | [] => none
  | letter :: rest =>
      if letter = '(' then
        (closing (depth + 1) rest).map fun found => (letter :: found.1, found.2)
      else if letter = ')' then
        match depth with
        | 0 => some ([], rest)
        | outer + 1 => (closing outer rest).map fun found => (letter :: found.1, found.2)
      else (closing depth rest).map fun found => (letter :: found.1, found.2)

def splitHasChars (selector : List Char) : Option (List Char × List Char × List Char) :=
  (breakAt hasMark selector).bind fun found =>
    (closing 0 found.2).map fun inner => (found.1, inner.1, trimChars inner.2)

def splitHas (selector : String) : Option HasParts :=
  (splitHasChars selector.toList).map fun parts =>
    ⟨String.ofList parts.1, String.ofList parts.2.1, String.ofList parts.2.2⟩

end Walkthrough.Selector
