import Walkthrough.Address.Host
import Walkthrough.Address.Parts
import Walkthrough.Decimal.Reader
import Walkthrough.Text.Base64
import Walkthrough.Url.Form
/-!
Addresses as a client of a server asks for them: the scheme and the host in lower case, the port
only where it is not the usual one, and every character that has no place in a part escaped.
-/

namespace Walkthrough

structure Address where
  scheme : List Char
  userInfo : List Char
  host : List Char
  port : Option Int
  path : List Char
  query : Option (List Char)
  fragment : Option (List Char)
deriving DecidableEq, Repr

namespace Address

open Text

/-! Characters that are escaped, apart from those that are not shown and those beyond the English
ones. -/

def strangeInFragment : List Char := ['"', '<', '>', '\x60']
def strangeInQuery : List Char := ['"', '<', '>', '#']
def strangeInPath : List Char := strangeInQuery ++ ['?', '\x60', '\x7b', '\x7d']
def strangeInUserInfo : List Char := strangeInPath ++ "/;=@[\\]^|".toList

def isPlainIn (strange : List Char) (letter : Char) : Bool :=
  32 < letter.toNat && letter.toNat < 127 && !strange.contains letter

def escaped (strange text : List Char) : List Char :=
  Url.escapeUnless (isPlainIn strange) text

/-! Making an address of its parts. -/

def usualPorts : List (String × Int) :=
  [("ftp", 21), ("http", 80), ("https", 443), ("ws", 80), ("wss", 443)]

def usualPort? (scheme : List Char) : Option Int :=
  (usualPorts.find? fun entry => entry.1.toList == scheme).map Prod.snd

/-- The scheme as it is written tells the usual port. -/
def plainPort (scheme port : List Char) : Except Defect (Option Int) :=
  if port.isEmpty then .ok none
  else match Decimal.readInteger (String.ofList port) with
    | .ok number => .ok (if usualPort? scheme = some number then none else some number)
    | .error _ => .error (.badPort (String.ofList port))

/-- A path behind an authority starts at the root, and a path on its own is none that could be taken
for an authority or a scheme. -/
def checkPath (hasScheme hasAuthority : Bool) (path : List Char) : Except Defect Unit :=
  if hasAuthority then
    if path.isEmpty || path.head? = some '/' then .ok () else .error .unrootedPath
  else if hasScheme then .ok ()
  else if ['/', '/'].isPrefixOf path then .error .doubledRoot
  else if path.head? = some ':' then .error .leadingColon
  else .ok ()

def ofParts (parts : Parts) : Except Defect Address := do
  let authority := Authority.ofText parts.authority
  let userInfo := escaped strangeInUserInfo authority.userInfo
  let host ← plainHost authority.host
  let port ← plainPort parts.scheme authority.port
  let hasScheme := !parts.scheme.isEmpty
  let hasAuthority := !userInfo.isEmpty || !host.isEmpty || port.isSome
  checkPath hasScheme hasAuthority parts.path
  let path := if hasScheme || hasAuthority then plainPath parts.path else parts.path
  return {
    scheme := parts.scheme.map Char.toLower
    userInfo, host, port
    path := escaped strangeInPath path
    query := parts.query.map (escaped strangeInQuery)
    fragment := parts.fragment.map (escaped strangeInFragment) }

/-! Reading an address. -/

def lengthLimit : Nat := 65536

def isControl (letter : Char) : Bool :=
  letter.toNat < 32 || letter.toNat = 127

def readChars (text : List Char) : Except Defect Address :=
  if text.length > lengthLimit then .error .tooLong
  else match text.find? isControl with
    | some letter => .error (.control letter (text.idxOf letter))
    | none => ofParts (Parts.ofText text)

def read (text : String) : Except Defect Address :=
  readChars text.toList

/-! Writing an address. -/

def hostChars (address : Address) : List Char :=
  if address.host.contains ':' then '[' :: address.host ++ [']'] else address.host

def authorityChars (address : Address) : List Char :=
  (if address.userInfo.isEmpty then [] else address.userInfo ++ ['@'])
    ++ address.hostChars
    ++ match address.port with
      | some port => ':' :: (toString port).toList
      | none => []

def parts (address : Address) : Parts where
  scheme := address.scheme
  authority := address.authorityChars
  path := address.path
  query := address.query
  fragment := address.fragment

def marked (mark : Char) : Option (List Char) → List Char
  | some text => mark :: text
  | none => []

def chars (address : Address) : List Char :=
  let authority := address.authorityChars
  (if address.scheme.isEmpty then [] else address.scheme ++ [':'])
    ++ (if authority.isEmpty then [] else '/' :: '/' :: authority)
    ++ address.path ++ marked '?' address.query ++ marked '#' address.fragment

def text (address : Address) : String :=
  String.ofList address.chars

/-! What is asked for. -/

def isRelative (address : Address) : Bool :=
  address.scheme.isEmpty || address.host.isEmpty

def rootedPath (address : Address) : List Char :=
  if address.path.isEmpty then ['/'] else address.path

def target (address : Address) : List Char :=
  address.rootedPath ++ marked '?' address.query

def plainText (address : Address) : String :=
  String.ofList (Url.decodePercent address.rootedPath)

def parameters (address : Address) : List (String × String) :=
  Url.readParameters (address.query.getD [])

def credentials (address : Address) : Option String :=
  let user := Url.decodePercent (address.userInfo.takeWhile (· != ':'))
  let password := Url.decodePercent ((address.userInfo.dropWhile (· != ':')).drop 1)
  if user.isEmpty && password.isEmpty then none
  else some (String.ofList (base64 (Url.textBytes (user ++ ':' :: password))))

/-! Addresses made from others. -/

def checkParts (parts : Parts) : Except Defect Unit :=
  let named := [("scheme", parts.scheme), ("authority", parts.authority), ("path", parts.path),
    ("query", parts.query.getD []), ("fragment", parts.fragment.getD [])]
  match named.find? fun part => part.2.length > lengthLimit with
  | some part => .error (.partTooLong part.1)
  | none => .ok ()

def ofKnownParts (parts : Parts) : Except Defect Address := do
  checkParts parts
  ofParts parts

def withTarget (address : Address) (target : List Char) : Except Defect Address :=
  let (path, query) := splitMarked '?' target
  ofKnownParts { address.parts with path, query }

def withParameters (address : Address) (parameters : List (String × String)) :
    Except Defect Address :=
  let query := if parameters.isEmpty then none else some (Url.encodeParameters parameters).toList
  ofKnownParts { address.parts with query }

/-- An address to which others are relative ends with a slash. -/
def asBase (address : Address) : Except Defect Address :=
  if address.target.getLast? = some '/' then .ok address
  else address.withTarget (address.target ++ ['/'])

/-- An address seen from a base: what is asked for goes behind what the base asks for. -/
def below (base address : Address) : Except Defect Address :=
  if address.isRelative then
    base.withTarget (base.target ++ address.target.dropWhile (· = '/'))
  else .ok address

def nowhere : Address := ⟨[], [], [], none, [], none, none⟩

/-! Kinds of addresses. -/

/-- The kind that an address names in front, up to a colon before any slash. -/
def kind? (text : List Char) : Option (List Char) :=
  let kind := text.takeWhile fun letter => letter != '/' && letter != ':'
  if !kind.isEmpty && (text.drop kind.length).head? = some ':' then some kind else none

def kindless? (address : Address) : Option String :=
  let whole := address.chars
  let whole := if "URL:".toList.isPrefixOf whole then whole.drop 4 else whole
  let tag := (whole.reverse.takeWhile (· != '#')).reverse
  let before := if whole.contains '#' then whole.take (whole.length - tag.length - 1) else whole
  let shown := if whole.contains '#' && tag.isEmpty then before else whole
  if (kind? before).isSome then none else some (String.ofList shown)

end Address

end Walkthrough
