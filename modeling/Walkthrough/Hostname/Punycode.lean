/-!
Letters beyond the English ones, written with English letters and digits: the plain characters
first, then for each other one its distance from the one before, in digits whose thresholds adapt to
what was written so far.
-/

namespace Walkthrough.Hostname

/-! Digits: twenty-six letters and then ten figures. -/

def digitLetter (value : Nat) : Char :=
  if value < 26 then Char.ofNat (97 + value) else Char.ofNat (22 + value)

def letterDigit? (letter : Char) : Option Nat :=
  let code := letter.toNat
  if 97 ≤ code && code ≤ 122 then some (code - 97)
  else if 65 ≤ code && code ≤ 90 then some (code - 65)
  else if 48 ≤ code && code ≤ 57 then some (code - 22)
  else none

/-! Thresholds. -/

/-- The threshold of a digit; `weight` is 36 for the first digit and grows by 36. -/
def threshold (weight bias : Nat) : Nat :=
  if weight ≤ bias then 1 else min (weight - bias) 26

theorem threshold_pos (weight bias : Nat) : 1 ≤ threshold weight bias := by
  unfold threshold
  split <;> omega

def dampen (distance : Nat) : Nat × Nat :=
  if 455 < distance then
    let rest := dampen (distance / 35)
    (rest.1, rest.2 + 36)
  else (distance, 0)
termination_by distance
decreasing_by exact Nat.div_lt_self (by omega) (by omega)

def adapt (distance written : Nat) (first : Bool) : Nat :=
  let halved := if first then distance / 700 else distance / 2
  let (small, steps) := dampen (halved + halved / written)
  steps + 36 * small / (small + 38)

/-! Writing. -/

def distanceLetters (bias weight distance : Nat) : List Char :=
  let limit := threshold weight bias
  if distance < limit then [digitLetter distance]
  else
    digitLetter (limit + (distance - limit) % (36 - limit))
      :: distanceLetters bias (weight + 36) ((distance - limit) / (36 - limit))
termination_by distance
decreasing_by
  have positive := threshold_pos weight bias
  have := Nat.div_le_self (distance - threshold weight bias) (36 - threshold weight bias)
  omega

/-- What is written so far, the distance from the last character written, and how many characters
of the text are written. -/
structure Writing where
  letters : List Char
  distance : Nat
  bias : Nat
  written : Nat
  first : Bool

def Writing.pass (code : Nat) (writing : Writing) (next : Nat) : Writing :=
  if next < code then { writing with distance := writing.distance + 1 }
  else if next = code then
    { letters := writing.letters ++ distanceLetters writing.bias 36 writing.distance
      distance := 0
      bias := adapt writing.distance (writing.written + 1) writing.first
      written := writing.written + 1
      first := false }
  else writing

def Writing.run (text : List Nat) (lowest : Nat) (writing : Writing) : List Nat → Writing
  | [] => writing
  | code :: rest =>
      let skipped := writing.distance + (code - lowest) * (writing.written + 1)
      let after := text.foldl (pass code) { writing with distance := skipped }
      run text (code + 1) { after with distance := after.distance + 1 } rest

def isPlainCode (code : Nat) : Bool :=
  code < 128

def distinctSorted (codes : List Nat) : List Nat :=
  (codes.mergeSort fun left right => decide (left ≤ right)).eraseDups

def punycode (text : List Nat) : List Char :=
  let plain := (text.filter isPlainCode).map Char.ofNat
  let others := distinctSorted (text.filter fun code => !isPlainCode code)
  let start : Writing := ⟨[], 0, 72, plain.length, true⟩
  (if plain.isEmpty then [] else plain ++ ['-']) ++ (Writing.run text 128 start others).letters

/-! Reading. -/

def readDistance (bias weight factor : Nat) : List Char → Option (Nat × List Char)
  | [] => none
  | letter :: rest => do
      let digit ← letterDigit? letter
      let limit := threshold weight bias
      if digit < limit then some (digit * factor, rest)
      else
        let (more, last) ← readDistance bias (weight + 36) (factor * (36 - limit)) rest
        return (digit * factor + more, last)

/-- The text so far, completed by what the letters say; `place` is where the next character would
be put if its distance were zero. -/
def readOthers (code place bias : Nat) (first : Bool) (text : List Nat) :
    Nat → List Char → Option (List Nat)
  | _, [] => some text
  | 0, _ => none
  | fuel + 1, letters => do
      let (distance, rest) ← readDistance bias 36 1 letters
      let full := place + distance
      let next := code + full / (text.length + 1)
      let position := full % (text.length + 1)
      if next ≥ 0x110000 then none
      else
        let longer := text.take position ++ next :: text.drop position
        readOthers next (position + 1) (adapt distance longer.length first) false longer fuel rest

def readPunycode (letters : List Char) : Option (List Nat) :=
  let others := (letters.reverse.takeWhile (· != '-')).reverse
  let plain := letters.take (letters.length - others.length - 1)
  readOthers 128 0 72 true (plain.map Char.toNat) others.length others

end Walkthrough.Hostname
