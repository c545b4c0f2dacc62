/-!
Bytes in sixty-four letters: three bytes are four letters, and equality signs fill up the last four.
-/

namespace Walkthrough.Text

def base64Letter (value : Nat) : Char :=
  if value < 26 then Char.ofNat (65 + value)
  else if value < 52 then Char.ofNat (71 + value)
  else if value < 62 then Char.ofNat (value - 4)
  else if value = 62 then '+'
  else '/'

def sextets (count joined : Nat) : List Char :=
  ([joined / 262144, joined / 4096 % 64, joined / 64 % 64, joined % 64].take count).map base64Letter

def base64 : List Nat → List Char
  | [] => []
  | [first] => sextets 2 (first * 65536) ++ ['=', '=']
  | [first, second] => sextets 3 (first * 65536 + second * 256) ++ ['=']
  | first :: second :: third :: rest =>
      sextets 4 (first * 65536 + second * 256 + third) ++ base64 rest

end Walkthrough.Text
