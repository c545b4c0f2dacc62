import Walkthrough.Text.Quoted
/-!
Why a text is no address that can be asked for.
-/

namespace Walkthrough.Address

open Text

inductive Defect where
  | tooLong
  | partTooLong (part : String)
  | control (letter : Char) (position : Nat)
  | badVersionFour (host : String)
  | badVersionSix (host : String)
  | badName (host : String)
  | badPort (port : String)
  | unrootedPath
  | doubledRoot
  | leadingColon
deriving DecidableEq, Repr

def Defect.message : Defect → String
  | tooLong => "URL too long"
  | partTooLong part => s!"URL component '{part}' too long"
  | control letter position =>
      "Invalid non-printable ASCII character in URL, " ++ quoted (String.ofList [letter])
        ++ s!" at position {position}."
  | badVersionFour host => "Invalid IPv4 address: " ++ quoted host
  | badVersionSix host => "Invalid IPv6 address: " ++ quoted host
  | badName host => "Invalid IDNA hostname: " ++ quoted host
  | badPort port => "Invalid port: " ++ quoted port
  | unrootedPath => "For absolute URLs, path must be empty or begin with '/'"
  | doubledRoot => "Relative URLs cannot have a path starting with '//'"
  | leadingColon => "Relative URLs cannot have a path starting with ':'"

end Walkthrough.Address
