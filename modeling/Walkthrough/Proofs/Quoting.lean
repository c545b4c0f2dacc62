import Mathlib.Algebra.Ring.Nat
import Mathlib.Tactic.SplitIfs
import Walkthrough.Text.Quoted
/-!
The quoted form of a text tells the text: it can be read back letter by letter, since no escape is
the beginning of another one.
-/

namespace Walkthrough.Text

/-! Hexadecimal digits. -/

def hexValue (digit : Char) : Nat :=
  if digit.toNat < 58 then digit.toNat - 48 else digit.toNat - 87

def readHex (digits : List Char) : Nat :=
  digits.foldl (fun value digit => value * 16 + hexValue digit) 0

theorem hexValue_hexDigit : ∀ value < 16, hexValue (hexDigit value) = value := by
  decide

theorem length_hexDigits (width code : Nat) : (hexDigits width code).length = width := by
  induction width generalizing code with
  | zero => rfl
  | succ width ih => simp [hexDigits, ih]

theorem readHex_hexDigits (width code : Nat) (fits : code < 16 ^ width) :
    readHex (hexDigits width code) = code := by
  induction width generalizing code with
  | zero =>
      obtain rfl : code = 0 := by simpa using fits
      rfl
  | succ width ih =>
      have higher : code / 16 < 16 ^ width := by
        rw [Nat.div_lt_iff_lt_mul (by decide), ← Nat.pow_succ]
        exact fits
      rw [hexDigits, readHex, List.foldl_append, ← readHex, ih _ higher, List.foldl_cons,
        List.foldl_nil, hexValue_hexDigit _ (Nat.mod_lt _ (by decide))]
      omega

/-! Escapes. -/

def readCode (width : Nat) (text : List Char) : Char × List Char :=
  (Char.ofNat (readHex (text.take width)), text.drop width)

def readEscaped : List Char → Option (Char × List Char)
  | '\\' :: 't' :: rest => some ('\t', rest)
  | '\\' :: 'n' :: rest => some ('\n', rest)
  | '\\' :: 'r' :: rest => some ('\r', rest)
  | '\\' :: 'x' :: rest => some (readCode 2 rest)
  | '\\' :: 'u' :: rest => some (readCode 4 rest)
  | '\\' :: 'U' :: rest => some (readCode 8 rest)
  | '\\' :: letter :: rest => some (letter, rest)
  | letter :: rest => some (letter, rest)
  | [] => none

theorem readCode_hexDigits {letter : Char} {width : Nat} (fits : letter.toNat < 16 ^ width)
    (rest : List Char) :
    readCode width (hexDigits width letter.toNat ++ rest) = (letter, rest) := by
  have length := length_hexDigits width letter.toNat
  rw [readCode, List.take_left' length, List.drop_left' length, readHex_hexDigits _ _ fits,
    Char.ofNat_toNat]

theorem readEscaped_plain {letter : Char} (plain : letter ≠ '\\') (rest : List Char) :
    readEscaped (letter :: rest) = some (letter, rest) := by
  unfold readEscaped
  split <;> simp_all

theorem readEscaped_escaped {quote : Char} (quotes : quote = '\'' ∨ quote = '"') (letter : Char)
    (rest : List Char) : readEscaped (escaped quote letter ++ rest) = some (letter, rest) := by
  unfold escaped
  split
  · next marked =>
      simp only [Bool.or_eq_true, decide_eq_true_eq] at marked
      rcases marked with rfl | rfl
      · rcases quotes with rfl | rfl <;> rfl
      · rfl
  next unmarked =>
  split
  · next tab => rw [tab]; rfl
  split
  · next feed => rw [feed]; rfl
  split
  · next back => rw [back]; rfl
  split
  · exact readEscaped_plain (fun same => unmarked (by simp [same])) rest
  split
  · next narrow => exact congrArg some (readCode_hexDigits narrow rest)
  split
  · next middle => exact congrArg some (readCode_hexDigits middle rest)
  · have wide : letter.toNat < 16 ^ 8 := letter.val.toNat_lt
    exact congrArg some (readCode_hexDigits wide rest)

theorem escaped_ne_nil (quote letter : Char) : escaped quote letter ≠ [] := by
  unfold escaped
  split_ifs <;> simp

theorem flatMap_escaped_injective {quote : Char} (quotes : quote = '\'' ∨ quote = '"') :
    Function.Injective fun letters : List Char => letters.flatMap (escaped quote) := by
  intro first
  induction first with
  | nil =>
      intro second same
      cases second with
      | nil => rfl
      | cons letter rest =>
          have empty := (List.append_eq_nil_iff.1 same.symm).1
          exact absurd empty (escaped_ne_nil quote letter)
  | cons letter rest ih =>
      intro second same
      cases second with
      | nil => exact absurd (List.append_eq_nil_iff.1 same).1 (escaped_ne_nil quote letter)
      | cons other others =>
          -- both begin with the letter that is read back
          have read := congrArg readEscaped same
          simp only [List.flatMap_cons, readEscaped_escaped quotes, Option.some.injEq,
            Prod.mk.injEq] at read
          rw [read.1, ih read.2]

theorem quoteFor_cases (letters : List Char) :
    quoteFor letters = '\'' ∨ quoteFor letters = '"' := by
  unfold quoteFor
  split
  · exact .inr rfl
  · exact .inl rfl

theorem quoted_injective : Function.Injective quoted := by
  intro first second same
  have letters := String.ofList_injective same
  obtain ⟨quotes, rest⟩ := List.cons.inj letters
  rw [← quotes] at rest
  have inside := flatMap_escaped_injective (quoteFor_cases first.toList)
    (List.append_cancel_right rest)
  exact String.toList_injective inside

end Walkthrough.Text
