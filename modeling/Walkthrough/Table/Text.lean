import Walkthrough.Json.Reader
/-!
Texts in a settings file: in double quotes, where a backslash escapes, or in single ones, where
nothing does. Three quotes open a text that may run over several lines.
-/

namespace Walkthrough.Table

def isGap (letter : Char) : Bool :=
  letter = ' ' || letter = '\t'

def skipGap (text : List Char) : List Char :=
  text.dropWhile isGap

def isForbidden (letter : Char) : Bool :=
  (letter.toNat < 32 && letter != '\t') || letter.toNat = 127

def isForbiddenInBlock (letter : Char) : Bool :=
  isForbidden letter && letter != '\n'

def readCode (count : Nat) (text : List Char) : Option (Char × List Char) :=
  let digits := text.take count
  match digits.mapM Json.hexValue? with
  | some values =>
      let code := values.foldl (fun total value => total * 16 + value) 0
      if digits.length = count && (code < 0xD800 || (0xE000 ≤ code && code < 0x110000)) then
        some (Char.ofNat code, text.drop count)
      else none
  | none => none

def readEscape (text : List Char) : Option (Char × List Char) :=
  match text with
  | [] => none
  | mark :: rest =>
      if mark = 'u' then readCode 4 rest
      else if mark = 'U' then readCode 8 rest
      else if mark = '/' then none
      else (Json.simpleEscape? mark).map fun letter => (letter, rest)

def readQuoted : Nat → List Char → Option (List Char × List Char)
  | 0, _ => none
  | _ + 1, [] => none
  | fuel + 1, letter :: rest =>
      if letter = '"' then some ([], rest)
      else if letter = '\\' then do
        let (found, tail) ← readEscape rest
        let (letters, last) ← readQuoted fuel tail
        return (found :: letters, last)
      else if isForbidden letter then none
      else do
        let (letters, last) ← readQuoted fuel rest
        return (letter :: letters, last)

def readLiteral (text : List Char) : Option (List Char × List Char) :=
  let content := text.takeWhile fun letter => letter != '\'' && !isForbidden letter
  match text.drop content.length with
  | '\'' :: rest => some (content, rest)
  | _ => none

/-! Texts over several lines. -/

/-- A backslash at the end of a line takes away the line end and all blanks that follow. -/
def readFold (text : List Char) : Option (List Char) :=
  match skipGap text with
  | '\n' :: rest => some (rest.dropWhile fun letter => isGap letter || letter = '\n')
  | _ => none

def readQuotedBlock : Nat → List Char → Option (List Char × List Char)
  | 0, _ => none
  | _ + 1, [] => none
  | fuel + 1, letter :: rest =>
      if ['"', '"', '"'].isPrefixOf (letter :: rest) then some ([], rest.drop 2)
      else if letter = '\\' then
        if rest.head?.any fun next => isGap next || next = '\n' then do
          readQuotedBlock fuel (← readFold rest)
        else do
          let (found, tail) ← readEscape rest
          let (letters, last) ← readQuotedBlock fuel tail
          return (found :: letters, last)
      else if isForbiddenInBlock letter then none
      else do
        let (letters, last) ← readQuotedBlock fuel rest
        return (letter :: letters, last)

def readLiteralBlock (text : List Char) : Option (List Char × List Char) := do
  let found ← Text.breakAt ['\'', '\'', '\''] text
  if found.1.any isForbiddenInBlock then none else some found

/-- A line end right behind the opening quotes is not part of a text. -/
def withoutFirstEnd : List Char → List Char
  | '\n' :: rest => rest
  | text => text

/-- Up to two quotes before the closing ones belong to the text. -/
def withLateQuotes (quote : Char) (found : List Char × List Char) : List Char × List Char :=
  let late := (found.2.take 2).takeWhile (· = quote)
  (found.1 ++ late, found.2.drop late.length)

/-! Texts of either kind. -/

def readLineText? (text : List Char) : Option (Option (List Char × List Char)) :=
  match text with
  | '"' :: rest => some (readQuoted (rest.length + 1) rest)
  | '\'' :: rest => some (readLiteral rest)
  | _ => none

def readText? (text : List Char) : Option (Option (List Char × List Char)) :=
  match text with
  | '"' :: '"' :: '"' :: rest =>
      let body := withoutFirstEnd rest
      some ((readQuotedBlock (body.length + 1) body).map (withLateQuotes '"'))
  | '\'' :: '\'' :: '\'' :: rest =>
      some ((readLiteralBlock (withoutFirstEnd rest)).map (withLateQuotes '\''))
  | _ => readLineText? text

end Walkthrough.Table
