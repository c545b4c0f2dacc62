import Walkthrough.Url.Host
import Walkthrough.Text.Quoted
/-!
Splitting a URL into scheme, authority, path, query and fragment, and putting it together again.
Control characters and spaces in front are passed over, tabs and line ends are dropped.
-/

namespace Walkthrough

structure Url where
  scheme : List Char
  authority : List Char
  path : List Char
  query : List Char
  fragment : List Char
deriving DecidableEq, Repr

namespace Url

open Text

inductive Defect where
  | unbalancedBrackets
  | notAnAddress (text : String)
  | bracketedVersionFour
  | badFutureAddress
  | compatibilityForm (authority : String)
  | badPort (text : String)
  | portOutOfRange
deriving DecidableEq, Repr

def Defect.message : Defect → String
  | unbalancedBrackets => "Invalid IPv6 URL"
  | notAnAddress text => s!"{quoted text} does not appear to be an IPv4 or IPv6 address"
  | bracketedVersionFour => "An IPv4 address cannot be in brackets"
  | badFutureAddress => "IPvFuture address is invalid"
  | compatibilityForm authority =>
      s!"netloc '{authority}' contains invalid characters under NFKC normalization"
  | badPort text => s!"Port could not be cast to integer value as {quoted text}"
  | portOutOfRange => "Port out of range 0-65535"

def isSchemeLetter (letter : Char) : Bool :=
  letter.toNat < 128 && (letter.isAlphanum || letter = '+' || letter = '-' || letter = '.')

def cleaned (text : List Char) : List Char :=
  (text.dropWhile fun letter => letter.toNat ≤ 32).filter fun letter =>
    letter != '\t' && letter != '\r' && letter != '\n'

def splitScheme (text : List Char) : List Char × List Char :=
  match breakAt [':'] text with
  | some (scheme, rest) =>
      if scheme.head?.any (fun first => first.toNat < 128 && first.isAlpha)
          && scheme.all isSchemeLetter then
        (scheme.map Char.toLower, rest)
      else ([], text)
  | none => ([], text)

def endsAuthority (letter : Char) : Bool :=
  letter = '/' || letter = '?' || letter = '#'

/-- Characters whose compatibility form holds a delimiter. -/
def disguised : List Nat :=
  [0x2047, 0x2048, 0x2049, 0x2100, 0x2101, 0x2105, 0x2106, 0x2a74, 0xfe13, 0xfe16, 0xfe55, 0xfe56,
   0xfe5f, 0xfe6b, 0xff03, 0xff0f, 0xff1a, 0xff1f, 0xff20]

/-- What an authority has between its brackets is an address of version six or later. -/
def checkBracketed (address : List Char) : Except Defect Unit :=
  if address.head? = some 'v' then
    if isFuture address then .ok () else .error .badFutureAddress
  else if isVersionFour address then .error .bracketedVersionFour
  else if isVersionSix address then .ok ()
  else .error (.notAnAddress (String.ofList address))

def hostAndPort (authority : List Char) : List Char :=
  (authority.reverse.takeWhile (· != '@')).reverse

/-- Brackets come in pairs and hold the whole host, with nothing but a port behind them. -/
def checkAuthority (authority : List Char) : Except Defect Unit := do
  let opened := authority.contains '['
  let closed := authority.contains ']'
  if opened != closed then throw .unbalancedBrackets
  if opened then
    match breakAt ['['] (hostAndPort authority) with
    | some (before, inside) =>
        let address := inside.takeWhile (· != ']')
        let port := inside.drop (address.length + 1)
        if !before.isEmpty || (!port.isEmpty && port.head? != some ':') then
          throw .unbalancedBrackets
        checkBracketed address
    | none => checkBracketed ((hostAndPort authority).takeWhile (· != ':'))

def checkForms (authority : List Char) : Except Defect Unit :=
  if authority.any fun letter => disguised.contains letter.toNat then
    .error (.compatibilityForm (String.ofList authority))
  else .ok ()

def splitAtMark (mark : Char) (text : List Char) : List Char × List Char :=
  match breakAt [mark] text with
  | some found => found
  | none => (text, [])

def splitChars (text : List Char) : Except Defect Url := do
  let (scheme, afterScheme) := splitScheme (cleaned text)
  let (authority, rest) := match afterScheme with
    | '/' :: '/' :: tail =>
        let authority := tail.takeWhile fun letter => !endsAuthority letter
        (authority, tail.drop authority.length)
    | _ => ([], afterScheme)
  checkAuthority authority
  let (beforeFragment, fragment) := splitAtMark '#' rest
  let (path, query) := splitAtMark '?' beforeFragment
  checkForms authority
  return ⟨scheme, authority, path, query, fragment⟩

def portText (authority : List Char) : List Char :=
  let host := hostAndPort authority
  let behind := match breakAt ['['] host with
    | some (_, inside) => (inside.dropWhile (· != ']')).drop 1
    | none => host
  (behind.dropWhile (· != ':')).drop 1

/-- A port, where one is given, is a number below 65536. -/
def checkPort (url : Url) : Except Defect Unit :=
  let text := portText url.authority
  if !text.all Json.isAsciiDigit then .error (.badPort (String.ofList text))
  else if ofDigits (Json.digitValues text) ≥ 65536 then .error .portOutOfRange
  else .ok ()

def split (text : String) : Except Defect Url :=
  splitChars text.toList

/-- Schemes whose URLs have an authority even when it is empty. -/
def hierarchical : List String :=
  ["ftp", "http", "gopher", "nntp", "telnet", "imap", "wais", "file", "mms", "https", "shttp",
   "snews", "prospero", "rtsp", "rtspu", "rsync", "svn", "svn+ssh", "sftp", "nfs", "git",
   "git+ssh", "ws", "wss"]

def joinChars (url : Url) : List Char :=
  let rooted :=
    if !url.authority.isEmpty || (hierarchical.contains (String.ofList url.scheme)
        && !(['/', '/'].isPrefixOf url.path)) then
      let path := if !url.path.isEmpty && url.path.head? != some '/' then '/' :: url.path
        else url.path
      '/' :: '/' :: url.authority ++ path
    else url.path
  (if url.scheme.isEmpty then rooted else url.scheme ++ ':' :: rooted)
    ++ (if url.query.isEmpty then [] else '?' :: url.query)
    ++ (if url.fragment.isEmpty then [] else '#' :: url.fragment)

def join (url : Url) : String :=
  String.ofList url.joinChars

def locationPath (location : String) : Except Defect String :=
  match split location with
  | .ok url => .ok (if url.path.isEmpty then "/" else String.ofList url.path)
  | .error defect => .error defect

def routed (location path : String) : Except Defect String :=
  match split location with
  | .ok url => .ok (join ⟨url.scheme, url.authority, path.toList, [], []⟩)
  | .error defect => .error defect

end Url

end Walkthrough
