import Walkthrough.Url
/-!
The parts of an address as they are written. Every text has parts; a part may be empty, and of the
query and the fragment it is known whether they are there at all.
-/

namespace Walkthrough.Address

structure Parts where
  scheme : List Char
  authority : List Char
  path : List Char
  query : Option (List Char)
  fragment : Option (List Char)
deriving DecidableEq, Repr

open Text

def splitScheme (text : List Char) : List Char × List Char :=
  let scheme := text.takeWhile Url.isSchemeLetter
  match text.drop scheme.length with
  | ':' :: rest =>
      if scheme.head?.all fun first => first.isAlpha then (scheme, rest) else ([], text)
  | _ => ([], text)

def splitAuthority (text : List Char) : List Char × List Char :=
  match text with
  | '/' :: '/' :: rest =>
      let authority := rest.takeWhile fun letter => !Url.endsAuthority letter
      (authority, rest.drop authority.length)
  | _ => ([], text)

def splitMarked (mark : Char) (text : List Char) : List Char × Option (List Char) :=
  match breakAt [mark] text with
  | some (before, behind) => (before, some behind)
  | none => (text, none)

def Parts.ofText (text : List Char) : Parts :=
  let (scheme, afterScheme) := splitScheme text
  let (authority, rest) := splitAuthority afterScheme
  let (beforeFragment, fragment) := splitMarked '#' rest
  let (path, query) := splitMarked '?' beforeFragment
  ⟨scheme, authority, path, query, fragment⟩

/-! The parts of an authority. -/

structure Authority where
  userInfo : List Char
  host : List Char
  port : List Char
deriving DecidableEq, Repr

/-- Brackets go up to the last closing one, a plain host up to a colon. -/
def splitHost (text : List Char) : List Char × List Char :=
  let beyond := (text.reverse.takeWhile (· != ']')).length
  let host :=
    if text.head? = some '[' && text.contains ']' then text.take (text.length - beyond)
    else text.takeWhile (· != ':')
  (host, text.drop host.length)

def Authority.ofText (text : List Char) : Authority :=
  let behind := Url.hostAndPort text
  let (host, rest) := splitHost behind
  let port := match rest with
    | ':' :: port => port
    | port => port
  ⟨text.take (text.length - behind.length - 1), host, port⟩

/-! Dots in a path. -/

/-- Segments that are a dot fall away, and two dots take back the segment before them, but not the
root; `kept` are those kept so far, the last one first. -/
def withoutDots (kept : List (List Char)) : List (List Char) → List (List Char)
  | [] => kept.reverse
  | segment :: rest =>
      if segment = ['.'] then withoutDots kept rest
      else if segment = ['.', '.'] then withoutDots (if kept = [[]] then kept else kept.tail) rest
      else withoutDots (segment :: kept) rest

def plainPath (path : List Char) : List Char :=
  ['/'].intercalate (withoutDots [] (cut (· = '/') path))

end Walkthrough.Address
