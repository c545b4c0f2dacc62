import Walkthrough.Facts.Reply
import Walkthrough.Config
/-!
The client that asks a server: the address below which it asks, and the header by which it says who
asks.
-/

namespace Walkthrough.Facts

structure Client where
  base : Address
  authorization : Option String

structure Asked where
  path : String
  parameters : List (String × String)
  authorization : Option String
deriving DecidableEq, Repr

namespace Client

def isPlainLetter (letter : Char) : Bool :=
  letter.toNat < 128

def checkHeader (header : String) : Except Misuse Unit :=
  let before := header.toList.takeWhile isPlainLetter
  match header.toList.drop before.length with
  | [] => .ok ()
  | first :: rest =>
      let count := (first :: rest).takeWhile fun letter => !isPlainLetter letter
      .error (.unencodable first before.length count.length)

def bearer (token : Json) : Option String :=
  if token.truthy then some ("Bearer " ++ token.display) else none

/-- A client of its own shows the token, a given one does not; credentials in the address go before
a token. -/
def connect (url token : Json) (given : Bool) : Except Misuse Client := do
  let address ← match url with
    | .text content => (Address.read content).mapError .badAddress
    | value => .error (.notAddress value)
  let base ← address.asBase.mapError .badAddress
  let shown := if given then none else bearer token
  if let some header := shown then checkHeader header
  match base.credentials with
  | some letters => return ⟨base, some ("Basic " ++ letters)⟩
  | none => return ⟨base, shown⟩

def ofConfig (config : Config) (given : Bool) : Except Misuse Client :=
  connect (.text config.serverUrl) (.text config.serverToken) given

def pairsInOrder (parameters : List (String × String)) : List (String × String) :=
  parameters.mergeSort fun left right =>
    decide (left.1 < right.1) || (left.1 == right.1 && decide (left.2 ≤ right.2))

def asked (client : Client) (address : Address) : Asked :=
  ⟨address.plainText, pairsInOrder address.parameters, client.authorization⟩

end Client

end Walkthrough.Facts
