import Walkthrough.Url.Percent
/-!
Texts as bytes: in units of one, two or four bytes, told apart by where the first four bytes are
zero, as a text starts with plain letters.
-/

namespace Walkthrough.Text

/-- Units of two and four bytes may have their highest byte first. -/
inductive Encoding where
  | bytes
  | pairs (highFirst : Bool)
  | quads (highFirst : Bool)
deriving DecidableEq, Repr

structure Undecodable where
  encoding : Encoding
  bytes : List Nat
  position : Nat
  reason : String
deriving DecidableEq, Repr

namespace Encoding

def name : Encoding → String
  | bytes => "utf-8"
  | pairs true => "utf-16-be"
  | pairs false => "utf-16-le"
  | quads true => "utf-32-be"
  | quads false => "utf-32-le"

def ofBytes : List Nat → Encoding
  | [first, second] =>
      if first = 0 then pairs true else if second = 0 then pairs false else bytes
  | first :: second :: third :: fourth :: _ =>
      if first = 0 then (if second = 0 then quads true else pairs true)
      else if second = 0 then
        (if third = 0 && fourth = 0 then quads false else pairs false)
      else bytes
  | _ => bytes

def joined (highFirst : Bool) (bytes : List Nat) : Nat :=
  (if highFirst then bytes else bytes.reverse).foldl (fun total byte => total * 256 + byte) 0

def isHighHalf (unit : Nat) : Bool := 0xD800 ≤ unit && unit < 0xDC00
def isLowHalf (unit : Nat) : Bool := 0xDC00 ≤ unit && unit < 0xE000

/-- Half of a pair on its own is replaced. -/
def letterOf (code : Nat) : Char :=
  if isHighHalf code || isLowHalf code then Url.replacement else Char.ofNat code

def lettersOf : List Nat → List Char
  | high :: low :: rest =>
      if isHighHalf high && isLowHalf low then
        Char.ofNat (0x10000 + (high - 0xD800) * 0x400 + (low - 0xDC00)) :: lettersOf rest
      else letterOf high :: lettersOf (low :: rest)
  | [unit] => [letterOf unit]
  | [] => []

def truncated : String := "truncated data"

def readPairs (highFirst : Bool) (position : Nat) : List Nat → Except Undecodable (List Nat)
  | first :: second :: rest => do
      let units ← readPairs highFirst (position + 2) rest
      return joined highFirst [first, second] :: units
  | [] => .ok []
  | loose => .error ⟨pairs highFirst, loose, position, truncated⟩

def readQuads (highFirst : Bool) (position : Nat) : List Nat → Except Undecodable (List Nat)
  | first :: second :: third :: fourth :: rest =>
      let quad := [first, second, third, fourth]
      let code := joined highFirst quad
      if code ≥ 0x110000 then
        .error ⟨quads highFirst, quad, position, "code point not in range(0x110000)"⟩
      else do
        let codes ← readQuads highFirst (position + 4) rest
        return code :: codes
  | [] => .ok []
  | loose => .error ⟨quads highFirst, loose, position, truncated⟩

end Encoding

def reread (text : List Char) : Except Undecodable (List Char) :=
  let bytes := Url.textBytes text
  match Encoding.ofBytes bytes with
  | .bytes => .ok text
  | .pairs highFirst => (Encoding.readPairs highFirst 0 bytes).map Encoding.lettersOf
  | .quads highFirst => (Encoding.readQuads highFirst 0 bytes).map (List.map Encoding.letterOf)

end Walkthrough.Text
