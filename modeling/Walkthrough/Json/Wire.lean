import Walkthrough.Json.Reader
import Walkthrough.Text.Encoding
/-!
JSON texts as they are sent over the wire: a byte order mark in front is passed over, and units of
more than one byte are recognised.
-/

namespace Walkthrough.Json

inductive WireError where
  | unread (error : ReadError)
  | undecodable (defect : Text.Undecodable)

def readWire (content : String) : Except WireError Json :=
  let readUnmarked := fun (letters : List Char) => (readChars letters).mapError .unread
  match content.toList with
  | [] => readUnmarked []
  | first :: rest =>
      if first.toNat = 0xFEFF then readUnmarked rest
      else match Text.reread (first :: rest) with
        | .ok letters => readUnmarked letters
        | .error defect => .error (.undecodable defect)

end Walkthrough.Json
