import Mathlib.Data.List.Basic
import Walkthrough.Step.Attributes
/-!
Selectors of attributes, as style sheets have them: alternatives behind commas, each of tests in
brackets. A test asks for an attribute, or for an attribute of some value; the value stands in
quotes and goes up to the next quote that is not escaped. Selectors of other kinds are not read
here, and neither are attributes that are no data.
-/

namespace Walkthrough.Css

/-- That there is an attribute, or that it has that value. -/
inductive Test where
  | present (name : String)
  | equals (name value : String)
deriving DecidableEq, Repr

/-- Alternatives, each of tests that have to hold all. -/
abbrev Selectors := List (List Test)

def Test.holds (test : Test) (attributes : List (String × String)) : Bool :=
  match test with
  | present name => (attributeValue attributes name).isSome
  | equals name value => attributeValue attributes name == some value

theorem holds_equals (attributes : List (String × String)) (name value : String) :
    (Test.equals name value).holds attributes = (attributeValue attributes name == some value) :=
  rfl

def Selectors.holds (selectors : Selectors) (attributes : List (String × String)) : Bool :=
  selectors.any fun tests => tests.all fun test => test.holds attributes

/-! Letters. -/

def isSpace (letter : Char) : Bool :=
  letter = ' ' || letter = '\t' || letter = '\n'

def hexDigit? (letter : Char) : Option Nat :=
  if '0' ≤ letter && letter ≤ '9' then some (letter.toNat - 48)
  else if 'a' ≤ letter && letter ≤ 'f' then some (letter.toNat - 87)
  else if 'A' ≤ letter && letter ≤ 'F' then some (letter.toNat - 55)
  else none

def letterOf (code : Nat) : Char :=
  if code ≠ 0 ∧ code.isValidChar then Char.ofNat code else '\ufffd'

/-- A letter as it is read: there is one kind of line end, and no letter of code zero. -/
def replaced (letter : Char) : Char :=
  if letter = '\r' ∨ letter = '\x0c' then '\n' else if letter = '\x00' then '\ufffd' else letter

def normal : List Char → List Char
  | '\r' :: '\n' :: rest => '\n' :: normal rest
  | letter :: rest => replaced letter :: normal rest
  | [] => []

/-! Values in quotes. -/

/-- Where in a value the next letter stands: in the plain text, behind a backslash, or behind digits
of an escaped code, of which so many more may come. -/
inductive Place where
  | plain
  | escape
  | code (value left : Nat)
deriving DecidableEq, Repr

def Place.rest : Place → List Char
  | plain | escape => []
  | code value _ => [letterOf value]

/-- What comes of a letter: the value goes on with what it adds, ends, or is broken. -/
inductive Move where
  | goes (added : List Char) (place : Place)
  | ends (added : List Char)
  | breaks

def Move.behind (earlier : List Char) : Move → Move
  | goes added place => goes (earlier ++ added) place
  | ends added => ends (earlier ++ added)
  | breaks => breaks

def movePlain (quote letter : Char) : Move :=
  if letter = quote then .ends []
  else if letter = '\\' then .goes [] .escape
  else if letter = '\n' then .breaks
  else .goes [letter] .plain

/-- A line end behind a backslash is dropped; any other letter but a digit stands for itself. -/
def moveEscape (letter : Char) : Move :=
  match hexDigit? letter with
  | some digit => .goes [] (.code digit 5)
  | none => if letter = '\n' then .goes [] .plain else .goes [letter] .plain

/-- One space behind the digits of a code belongs to them. -/
def moveCode (quote : Char) (value left : Nat) (letter : Char) : Move :=
  match hexDigit? letter, left with
  | some digit, left + 1 => .goes [] (.code (16 * value + digit) left)
  | _, _ =>
      if isSpace letter then .goes [letterOf value] .plain
      else (movePlain quote letter).behind [letterOf value]

def move (quote : Char) : Place → Char → Move
  | .plain, letter => movePlain quote letter
  | .escape, letter => moveEscape letter
  | .code value left, letter => moveCode quote value left letter

/-- How far a value goes: it is broken, it ends before the rest, or it is still open. -/
inductive Scan where
  | broken
  | ended (value rest : List Char)
  | unended (value : List Char) (place : Place)

def Scan.behind (earlier : List Char) : Scan → Scan
  | broken => broken
  | ended value rest => ended (earlier ++ value) rest
  | unended value place => unended (earlier ++ value) place

def scan (quote : Char) (place : Place) : List Char → Scan
  | [] => .unended [] place
  | letter :: rest =>
      match move quote place letter with
      | .goes added next => (scan quote next rest).behind added
      | .ends added => .ended added rest
      | .breaks => .broken

def Scan.close : Scan → Option (List Char × List Char)
  | broken => none
  | ended value rest => some (value, rest)
  | unended value place => some (value ++ place.rest, [])

def readValue (quote : Char) (text : List Char) : Option (List Char × List Char) :=
  (scan quote .plain text).close

/-! Selectors. -/

def skip (text : List Char) : List Char :=
  text.dropWhile isSpace

def isNameLetter (letter : Char) : Bool :=
  ('a' ≤ letter && letter ≤ 'z') || ('0' ≤ letter && letter ≤ '9') || letter = '-' || letter = '_'

def readName (text : List Char) : Option (List Char × List Char) :=
  let letters := text.takeWhile isNameLetter
  if dataMark.isPrefixOf letters then some (letters, text.drop letters.length) else none

def closed (test : Test) (text : List Char) : Option (Test × List Char) :=
  match skip text with
  | [] => some (test, [])
  | ']' :: rest => some (test, rest)
  | _ => none

def readEquals (name : String) (text : List Char) : Option (Test × List Char) :=
  match skip text with
  | quote :: rest =>
      if quote = '"' ∨ quote = '\'' then
        match readValue quote rest with
        | some (value, after) => closed (.equals name (String.ofList value)) after
        | none => none
      else none
  | [] => none

def readTest (text : List Char) : Option (Test × List Char) :=
  match readName (skip text) with
  | none => none
  | some (name, rest) =>
      match skip rest with
      | '=' :: value => readEquals (String.ofList name) value
      | other => closed (.present (String.ofList name)) other

def readBracket (text : List Char) : Option (Test × List Char) :=
  match skip text with
  | '[' :: rest => readTest rest
  | _ => none

/-! How much of the text is left. -/

section Length

variable {quote : Char} {place : Place} {text value rest : List Char} {test : Test}

theorem length_skip (text : List Char) : (skip text).length ≤ text.length :=
  (List.dropWhile_sublist _).length_le

def Move.Fits (size : Nat) : Move → Prop
  | goes added place => added.length + place.rest.length ≤ size + 1
  | ends added => added.length ≤ size
  | breaks => True

def Scan.Fits (size : Nat) : Scan → Prop
  | broken => True
  | ended value rest => value.length + rest.length < size
  | unended value place => value.length + place.rest.length ≤ size

theorem fits_movePlain (quote letter : Char) : (movePlain quote letter).Fits 0 := by
  unfold movePlain
  split
  · simp [Move.Fits]
  · split
    · simp [Move.Fits, Place.rest]
    · split <;> simp [Move.Fits, Place.rest]

theorem fits_moveEscape (letter : Char) : (moveEscape letter).Fits 0 := by
  unfold moveEscape
  split
  · simp [Move.Fits, Place.rest]
  · split <;> simp [Move.Fits, Place.rest]

theorem fits_moveCode (quote : Char) (value left : Nat) (letter : Char) :
    (moveCode quote value left letter).Fits 1 := by
  unfold moveCode
  split
  · simp [Move.Fits, Place.rest]
  · split
    · simp [Move.Fits, Place.rest]
    · have fits := fits_movePlain quote letter
      cases moved : movePlain quote letter with
      | goes | ends =>
          rw [moved] at fits
          simp only [Move.Fits, Move.behind, List.length_append, List.length_singleton] at fits ⊢
          omega
      | breaks => trivial

theorem fits_move (quote : Char) (place : Place) (letter : Char) :
    (move quote place letter).Fits place.rest.length := by
  cases place with
  | plain => exact fits_movePlain quote letter
  | escape => exact fits_moveEscape letter
  | code value left => exact fits_moveCode quote value left letter

theorem fits_scan (quote : Char) (place : Place) (text : List Char) :
    (scan quote place text).Fits (text.length + place.rest.length) := by
  induction text generalizing place with
  | nil => simp [scan, Scan.Fits]
  | cons letter text ih =>
      have fits := fits_move quote place letter
      unfold scan
      split
      · next added next goes =>
          rw [goes] at fits
          have later := ih next
          cases scanned : scan quote next text with
          | broken => trivial
          | ended | unended =>
              rw [scanned] at later
              simp only [Move.Fits, Scan.Fits, Scan.behind, List.length_append,
                List.length_cons] at fits later ⊢
              omega
      · next ends =>
          rw [ends] at fits
          simp only [Move.Fits, Scan.Fits, List.length_cons] at fits ⊢
          omega
      · trivial

theorem length_readValue (read : readValue quote text = some (value, rest)) :
    rest.length ≤ text.length := by
  have fits := fits_scan quote .plain text
  unfold readValue at read
  cases scanned : scan quote .plain text with
  | broken =>
      rw [scanned] at read
      cases read
  | ended =>
      rw [scanned] at read fits
      cases read
      simp only [Scan.Fits, Place.rest, List.length_nil] at fits
      omega
  | unended =>
      rw [scanned] at read
      cases read
      simp

theorem length_closed {other : Test} (read : closed test text = some (other, rest)) :
    rest.length ≤ text.length := by
  have shorter := length_skip text
  unfold closed at read
  split at read
  · cases read
    simp
  · next skipped =>
      cases read
      rw [skipped, List.length_cons] at shorter
      omega
  · cases read

theorem length_readEquals {name : String} (read : readEquals name text = some (test, rest)) :
    rest.length ≤ text.length := by
  have shorter := length_skip text
  unfold readEquals at read
  split at read
  · next skipped =>
      rw [skipped, List.length_cons] at shorter
      split at read
      · split at read
        · next valued =>
            have value := length_readValue valued
            have closing := length_closed read
            omega
        · cases read
      · cases read
  · cases read

theorem length_readTest (read : readTest text = some (test, rest)) :
    rest.length ≤ text.length := by
  unfold readTest at read
  split at read
  · cases read
  · next after named =>
      have name : after.length ≤ text.length := by
        unfold readName at named
        dsimp only at named
        split at named
        · cases named
          have shorter := length_skip text
          rw [List.length_drop]
          omega
        · cases named
      have shorter := length_skip after
      split at read
      · next skipped =>
          rw [skipped, List.length_cons] at shorter
          have value := length_readEquals read
          omega
      · have closing := length_closed read
        omega

theorem length_readBracket (read : readBracket text = some (test, rest)) :
    rest.length < text.length := by
  have shorter := length_skip text
  unfold readBracket at read
  split at read
  · next skipped =>
      rw [skipped, List.length_cons] at shorter
      have inside := length_readTest read
      omega
  · cases read

end Length

def Selectors.join (test : Test) : Selectors → Selectors
  | tests :: others => (test :: tests) :: others
  | [] => [[test]]

def readSelectors (text : List Char) : Option Selectors :=
  match _ : readBracket text with
  | none => none
  | some (test, rest) =>
      if rest.head? = some '[' then (readSelectors rest).map (Selectors.join test)
      else
        match _ : skip rest with
        | [] => some [[test]]
        | ',' :: others => (readSelectors others).map ([test] :: ·)
        | _ => none
termination_by text.length
decreasing_by
  · exact length_readBracket ‹readBracket text = some (test, rest)›
  · have inside := length_readBracket ‹readBracket text = some (test, rest)›
    have shorter := length_skip rest
    rw [‹skip rest = ',' :: others›, List.length_cons] at shorter
    omega

def read? (selector : String) : Option Selectors :=
  readSelectors (normal selector.toList)

/-! Values that stay in their quotes. -/

section Values

variable {quote : Char} {place : Place} {text value rest : List Char}

theorem scan_append (quote : Char) (place : Place) (first second : List Char) :
    scan quote place (first ++ second) =
      match scan quote place first with
      | .broken => .broken
      | .ended value rest => .ended value (rest ++ second)
      | .unended value next => (scan quote next second).behind value := by
  induction first generalizing place with
  | nil => cases scanned : scan quote place second <;> simp [scan, scanned, Scan.behind]
  | cons letter first ih =>
      simp only [List.cons_append, scan]
      cases move quote place letter with
      | goes added next =>
          dsimp only
          rw [ih next]
          cases scan quote next first with
          | broken | ended => rfl
          | unended value last =>
              cases scanned : scan quote last second <;>
                simp [Scan.behind, scanned, List.append_assoc]
      | ends | breaks => rfl

def isPlain (letter : Char) : Bool :=
  !(['"', '\\', '\n'].contains letter)

theorem movePlain_of_isPlain {letter : Char} (plain : isPlain letter = true) :
    movePlain '"' letter = .goes [letter] .plain := by
  simp only [isPlain, List.contains_eq_mem, List.mem_cons, List.not_mem_nil, or_false,
    Bool.not_eq_true', decide_eq_false_iff_not, not_or] at plain
  obtain ⟨unquoted, unescaped, inline⟩ := plain
  rw [movePlain, if_neg unquoted, if_neg unescaped, if_neg inline]

theorem scan_of_isPlain (plain : ∀ letter ∈ text, isPlain letter = true) :
    scan '"' .plain text = .unended text .plain := by
  induction text with
  | nil => rfl
  | cons letter text ih =>
      obtain ⟨first, others⟩ := List.forall_mem_cons.1 plain
      simp only [scan, move, movePlain_of_isPlain first, ih others]
      rfl

/-- Whatever stands for something else makes the value shorter than its letters. -/
theorem plain_of_scan {last : Place} (scanned : scan '"' .plain text = .unended value last)
    (long : text.length ≤ value.length + last.rest.length) :
    (∀ letter ∈ text, isPlain letter = true) ∧ value = text ∧ last = .plain := by
  induction text generalizing value with
  | nil =>
      cases scanned
      simp
  | cons letter text ih =>
      by_cases plain : isPlain letter = true
      · simp only [scan, move, movePlain_of_isPlain plain] at scanned
        cases later : scan '"' .plain text with
        | broken | ended => simp [later, Scan.behind] at scanned
        | unended more place =>
            rw [later] at scanned
            cases scanned
            simp only [List.length_append, List.length_cons, List.length_nil] at long
            obtain ⟨others, rfl, rfl⟩ := ih later (by omega)
            exact ⟨List.forall_mem_cons.2 ⟨plain, others⟩, rfl, rfl⟩
      · simp only [isPlain, List.contains_eq_mem, List.mem_cons, List.not_mem_nil, or_false,
          Bool.not_eq_true', Bool.not_eq_false, decide_eq_true_eq] at plain
        rcases plain with rfl | rfl | rfl
        · cases scanned
        · have fits := fits_scan '"' .escape text
          have opened : scan '"' .plain ('\\' :: text) = (scan '"' .escape text).behind [] := rfl
          rw [opened] at scanned
          cases later : scan '"' .escape text with
          | broken | ended => simp [later, Scan.behind] at scanned
          | unended more place =>
              rw [later] at scanned fits
              cases scanned
              simp only [Scan.Fits, Place.rest, List.length_nil, List.nil_append,
                List.length_cons] at fits long
              omega
        · cases scanned

theorem eq_backslash_of_move {letter : Char} {added : List Char}
    (moved : move quote place letter = .goes added .escape) : letter = '\\' := by
  have plain {added : List Char} (moved : movePlain quote letter = .goes added .escape) :
      letter = '\\' := by
    unfold movePlain at moved
    split at moved
    · cases moved
    · split at moved
      · assumption
      · split at moved <;> cases moved
  cases place with
  | plain => exact plain moved
  | escape =>
      change moveEscape letter = _ at moved
      unfold moveEscape at moved
      split at moved
      · cases moved
      · split at moved <;> cases moved
  | code code left =>
      change moveCode quote code left letter = _ at moved
      unfold moveCode at moved
      split at moved
      · cases moved
      · split at moved
        · cases moved
        · cases next : movePlain quote letter with
          | goes more place =>
              rw [next] at moved
              cases moved
              exact plain next
          | ends | breaks => simp [next, Move.behind] at moved

theorem getLast?_of_escape (scanned : scan quote place text = .unended value .escape) :
    text = [] ∧ place = .escape ∨ text.getLast? = some '\\' := by
  induction text generalizing place value with
  | nil =>
      cases scanned
      exact .inl ⟨rfl, rfl⟩
  | cons letter text ih =>
      right
      unfold scan at scanned
      split at scanned
      · next added next moved =>
          cases later : scan quote next text with
          | broken | ended => simp [later, Scan.behind] at scanned
          | unended more last =>
              rw [later] at scanned
              cases scanned
              rcases ih later with ⟨rfl, rfl⟩ | ends
              · rw [eq_backslash_of_move moved]
                rfl
              · rw [List.getLast?_cons, ends]
                rfl
      · cases scanned
      · cases scanned

end Values

/-! Letters as they are read. -/

section Normal

variable {text first second : List Char}

theorem normal_cons {letter : Char} (other : letter = '\r' → text.head? ≠ some '\n') :
    normal (letter :: text) = replaced letter :: normal text := by
  rw [normal]
  rintro rest rfl rfl
  exact other rfl rfl

theorem normal_append (apart : second.head? ≠ some '\n') :
    normal (first ++ second) = normal first ++ normal second := by
  fun_induction normal first with
  | case1 rest ih => simp [normal, ih]
  | case2 letter rest other ih =>
      rw [List.cons_append, normal_cons, ih, List.cons_append]
      rintro rfl
      cases rest with
      | nil => exact apart
      | cons next rest =>
          intro same
          obtain rfl : next = '\n' := by simpa using same
          exact other rest rfl rfl
  | case3 => rfl

theorem length_normal (text : List Char) : (normal text).length ≤ text.length := by
  fun_induction normal text with
  | case1 rest ih =>
      simp only [List.length_cons]
      omega
  | case2 letter rest _ ih => simpa using ih
  | case3 => simp

theorem getLast?_normal (text : List Char) :
    (normal text).getLast? = text.getLast?.map replaced := by
  fun_induction normal text with
  | case1 rest ih =>
      simp only [List.getLast?_cons, ih]
      cases rest.getLast? <;> rfl
  | case2 letter rest _ ih =>
      simp only [List.getLast?_cons, ih]
      cases rest.getLast? <;> rfl
  | case3 => rfl

theorem eq_backslash_of_replaced {letter : Char} (same : replaced letter = '\\') :
    letter = '\\' := by
  unfold replaced at same
  split at same
  · cases same
  · split at same
    · cases same
    · exact same

def isRead (letter : Char) : Bool :=
  !(['\r', '\x0c', '\x00'].contains letter)

theorem isRead_iff {letter : Char} :
    isRead letter = true ↔ letter ≠ '\r' ∧ letter ≠ '\x0c' ∧ letter ≠ '\x00' := by
  simp [isRead]

theorem normal_of_isRead (read : ∀ letter ∈ text, isRead letter = true) : normal text = text := by
  induction text with
  | nil => rfl
  | cons letter text ih =>
      obtain ⟨first, others⟩ := List.forall_mem_cons.1 read
      obtain ⟨inline, unfed, coded⟩ := isRead_iff.1 first
      rw [normal_cons fun same => absurd same inline, ih others]
      simp [replaced, inline, unfed, coded]

theorem isRead_of_mem_normal (text : List Char) :
    ∀ letter ∈ normal text, isRead letter = true := by
  have every (letter : Char) : isRead (replaced letter) = true := by
    unfold replaced
    split
    · decide
    · next line =>
        split
        · decide
        · next coded => exact isRead_iff.2 ⟨fun same => line (.inl same),
            fun same => line (.inr same), coded⟩
  fun_induction normal text with
  | case1 rest ih => exact List.forall_mem_cons.2 ⟨by decide, ih⟩
  | case2 letter rest _ ih => exact List.forall_mem_cons.2 ⟨every letter, ih⟩
  | case3 => simp

end Normal

/-! Texts between double quotes. -/

def text? (raw : String) : Option String :=
  match scan '"' .plain (normal raw.toList) with
  | .unended value place =>
      if place = .escape then none else some (String.ofList (value ++ place.rest))
  | _ => none

/-- No letter of the text stands for another one, or for the end of the value. -/
def Plain (text : String) : Prop :=
  ∀ letter ∈ text.toList, isPlain letter = true ∧ isRead letter = true

instance (text : String) : Decidable (Plain text) :=
  decidable_of_iff ((text.toList.all fun letter => isPlain letter && isRead letter) = true)
    (by simp [Plain])

section Quoted

variable {raw value : String} {name rest : List Char}

theorem text?_of_plain (plain : Plain raw) : text? raw = some raw := by
  have read : normal raw.toList = raw.toList :=
    normal_of_isRead fun letter member => (plain letter member).2
  have whole : scan '"' .plain raw.toList = .unended raw.toList .plain :=
    scan_of_isPlain fun letter member => (plain letter member).1
  simp [text?, read, whole, Place.rest]

theorem scan_quote {place : Place} (inside : place ≠ .escape) (rest : List Char) :
    scan '"' place ('"' :: rest) = .ended place.rest rest := by
  cases place with
  | plain => rfl
  | escape => exact absurd rfl inside
  | code code left => cases left <;> rfl

theorem scan_escaped_quote {gap : List Char} (plain : ∀ letter ∈ gap, isPlain letter = true)
    (rest : List Char) :
    scan '"' .escape ('"' :: (gap ++ '"' :: rest)) = .ended ('"' :: gap) rest := by
  change (scan '"' .plain (gap ++ '"' :: rest)).behind ['"'] = _
  rw [scan_append, scan_of_isPlain plain]
  dsimp only
  rw [scan_quote (by simp)]
  simp [Scan.behind, Place.rest]

theorem readValue_of_text? (quoted : text? raw = some value) (rest : List Char) :
    readValue '"' (normal raw.toList ++ '"' :: rest) = some (value.toList, rest) := by
  unfold text? at quoted
  rw [readValue, scan_append]
  cases scanned : scan '"' .plain (normal raw.toList) with
  | broken | ended => simp [scanned] at quoted
  | unended letters place =>
      rw [scanned] at quoted
      dsimp only at quoted ⊢
      split at quoted
      · cases quoted
      · next inside =>
          cases quoted
          rw [scan_quote inside]
          simp [Scan.behind, Scan.close]

theorem plain_of_readValue {gap tail : List Char} (plain : ∀ letter ∈ gap, isPlain letter = true)
    (read : readValue '"' (normal raw.toList ++ '"' :: (gap ++ '"' :: tail)) =
      some (raw.toList, rest)) : Plain raw := by
  have fits := fits_scan '"' .plain (normal raw.toList)
  have shorter := length_normal raw.toList
  rw [readValue, scan_append] at read
  cases scanned : scan '"' .plain (normal raw.toList) with
  | broken => simp [scanned, Scan.close] at read
  | ended value after =>
      rw [scanned] at read fits
      obtain ⟨rfl, -⟩ := Prod.mk.inj (Option.some.inj read)
      simp only [Scan.Fits, Place.rest, List.length_nil] at fits
      omega
  | unended value place =>
      rw [scanned] at read
      dsimp only at read
      by_cases escaped : place = .escape
      · -- the first quote belongs to the value, which ends with the gap and not with a backslash
        subst escaped
        rw [scan_escaped_quote plain] at read
        have same : value ++ '"' :: gap = raw.toList := by
          simpa [Scan.behind, Scan.close] using congrArg (Option.map Prod.fst) read
        rcases getLast?_of_escape scanned with ⟨-, ⟨⟩⟩ | last
        rw [getLast?_normal] at last
        obtain ⟨letter, final, backslash⟩ := Option.map_eq_some_iff.1 last
        obtain rfl := eq_backslash_of_replaced backslash
        rw [← same, List.getLast?_append_of_ne_nil _ (List.cons_ne_nil _ _)] at final
        rcases List.mem_cons.1 (List.mem_of_getLast? final) with quote | member
        · exact absurd quote (by decide)
        · exact absurd (plain _ member) (by decide)
      · rw [scan_quote escaped] at read
        have same : value ++ place.rest = raw.toList := by
          simpa [Scan.behind, Scan.close] using congrArg (Option.map Prod.fst) read
        have long : (normal raw.toList).length ≤ value.length + place.rest.length := by
          rw [← List.length_append, same]
          exact shorter
        obtain ⟨letters, rfl, rfl⟩ := plain_of_scan scanned long
        rw [Place.rest, List.append_nil] at same
        intro letter member
        rw [← same] at member
        exact ⟨letters letter member, isRead_of_mem_normal _ letter member⟩

end Quoted

/-! Tests that are written down. -/

def isDataName (name : String) : Bool :=
  dataMark.isPrefixOf name.toList && name.toList.all isNameLetter

theorem normal_of_isDataName {name : String} (named : isDataName name = true) :
    normal name.toList = name.toList := by
  simp only [isDataName, Bool.and_eq_true, List.all_eq_true] at named
  refine normal_of_isRead fun letter member => isRead_iff.2 ⟨?_, ?_, ?_⟩
  all_goals
    rintro rfl
    exact absurd (named.2 _ member) (by decide)

def openBracket (name : String) (rest : List Char) : List Char :=
  '[' :: (name.toList ++ '=' :: '"' :: rest)

theorem normal_openBracket {name : String} (named : isDataName name = true) (rest : List Char) :
    normal (openBracket name rest) = openBracket name (normal rest) := by
  have opened : normal (openBracket name rest) =
      '[' :: normal (name.toList ++ '=' :: '"' :: rest) := rfl
  have valued : normal ('=' :: '"' :: rest) = '=' :: '"' :: normal rest := rfl
  rw [opened, normal_append (by simp), normal_of_isDataName named, valued]
  rfl

def readOthers (text : List Char) : Option Selectors :=
  match skip text with
  | [] => some []
  | ',' :: others => readSelectors others
  | _ => none

section Written

variable {name raw value : String} {text rest : List Char} {test : Test} {selectors : Selectors}

theorem readName_of_isDataName (named : isDataName name = true) (rest : List Char) :
    readName (skip (name.toList ++ '=' :: rest)) = some (name.toList, '=' :: rest) := by
  simp only [isDataName, Bool.and_eq_true, List.all_eq_true] at named
  obtain ⟨marked, letters⟩ := named
  obtain ⟨others, spelled⟩ := List.isPrefixOf_iff_prefix.1 marked
  have unspaced : skip (name.toList ++ '=' :: rest) = name.toList ++ '=' :: rest := by
    rw [← spelled]
    rfl
  have whole : (name.toList ++ '=' :: rest).takeWhile isNameLetter = name.toList := by
    rw [List.takeWhile_append_of_pos letters, List.takeWhile_cons_of_neg (by decide),
      List.append_nil]
  rw [unspaced, readName, whole]
  simp [marked]

theorem readBracket_openBracket (named : isDataName name = true) :
    readBracket (openBracket name text) =
      (readValue '"' text).bind fun read =>
        closed (.equals name (String.ofList read.1)) read.2 := by
  have opened : readBracket (openBracket name text) =
      readTest (name.toList ++ '=' :: '"' :: text) := rfl
  rw [opened, readTest, readName_of_isDataName named]
  have skipped : skip ('=' :: '"' :: text) = '=' :: '"' :: text := rfl
  have quoted : skip ('"' :: text) = '"' :: text := rfl
  simp only [skipped, readEquals, quoted]
  cases readValue '"' text <;> simp

theorem eq_of_closed {other : Test} (read : closed test text = some (other, rest)) :
    other = test := by
  unfold closed at read
  split at read
  · cases read
    rfl
  · cases read
    rfl
  · cases read

theorem readSelectors_eq (text : List Char) :
    readSelectors text = (readBracket text).bind fun read =>
      if read.2.head? = some '[' then (readSelectors read.2).map (Selectors.join read.1)
      else (readOthers read.2).map ([read.1] :: ·) := by
  rw [readSelectors]
  split
  · next none => simp [none]
  · next test rest bracket =>
      rw [bracket, Option.bind_some]
      dsimp only
      split
      · rfl
      · rw [readOthers]
        split
        · next skipped => simp [skipped]
        · next skipped => simp [skipped]
        · next unended other =>
            split
            · next skipped => exact absurd skipped unended
            · next others skipped => exact absurd skipped (other others)
            · rfl

theorem first_of_readSelectors (read : readSelectors text = some selectors) :
    ∃ test rest, readBracket text = some (test, rest) ∧
      (selectors.head?.bind List.head?) = some test := by
  rw [readSelectors_eq] at read
  obtain ⟨⟨test, rest⟩, bracket, read⟩ := Option.bind_eq_some_iff.1 read
  refine ⟨test, rest, bracket, ?_⟩
  split at read
  · obtain ⟨others, -, rfl⟩ := Option.map_eq_some_iff.1 read
    cases others <;> rfl
  · obtain ⟨others, -, rfl⟩ := Option.map_eq_some_iff.1 read
    rfl

theorem readSelectors_openBracket (named : isDataName name = true)
    (quoted : text? raw = some value) (alone : rest.head? ≠ some '[') :
    readSelectors (openBracket name (normal raw.toList ++ '"' :: ']' :: rest)) =
      (readOthers rest).map ([.equals name value] :: ·) := by
  have closing : skip (']' :: rest) = ']' :: rest := rfl
  rw [readSelectors_eq, readBracket_openBracket named, readValue_of_text? quoted]
  simp [closed, closing, alone]

theorem readOthers_comma (text : List Char) :
    readOthers (',' :: ' ' :: '[' :: text) = readSelectors ('[' :: text) := by
  have spaced : readBracket (' ' :: '[' :: text) = readBracket ('[' :: text) := rfl
  change readSelectors (' ' :: '[' :: text) = _
  rw [readSelectors_eq, spaced, ← readSelectors_eq]

end Written

end Walkthrough.Css
