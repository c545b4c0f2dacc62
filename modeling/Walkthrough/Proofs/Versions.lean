import Mathlib.Data.Prod.Lex
import Walkthrough.Proofs.Casing
import Walkthrough.Proofs.Hearing
import Walkthrough.Proofs.Indexing
/-!
How versions are written and compared. Blanks around a version and letters `v` in front of it are
passed over, what follows the digits of its last part is no part of it, be there points in it or
not, and parts that are not written are zero. Versions are compared part by part, as numbers; so a
requirement holds however the digits of both are written.
Main statement: `versions_compared_as_numbers`.
-/

namespace Walkthrough

/-! Numerals in decimal notation. -/

namespace Selector

open Text

theorem digit?_of_isDigit {letter : Char} (digit : letter.isDigit = true) :
    digit? letter = some (letter.toNat - '0'.toNat) := by
  have range : 48 ≤ letter.toNat ∧ letter.toNat ≤ 57 := by
    simpa [Char.isDigit, UInt32.le_iff_toNat_le] using digit
  have first : digitSpans = (48, 57) :: digitSpans.tail := rfl
  have small : (letter.toNat - 48) % 10 = letter.toNat - '0'.toNat := Nat.mod_eq_of_lt (by omega)
  rw [digit?, first, List.find?_cons_of_pos (by simpa using range), Option.map_some, small]

def decimal (zeros number : Nat) : String :=
  String.ofList (List.replicate zeros '0' ++ Nat.toDigits 10 number)

theorem isDigit_of_mem_decimal {zeros number : Nat} :
    ∀ letter ∈ (decimal zeros number).toList, letter.isDigit = true := by
  intro letter member
  rw [decimal, String.toList_ofList] at member
  rcases List.mem_append.1 member with front | behind
  · rw [List.eq_of_mem_replicate front]
    rfl
  · exact Nat.isDigit_of_mem_toDigits (by decide) (by decide) behind

theorem foldl_digits {letters : List Char} (digits : ∀ letter ∈ letters, letter.isDigit = true)
    (start : Nat) :
    (letters.filterMap digit?).foldl (fun total digit => total * 10 + digit) start =
      Nat.ofDigitChars 10 letters start := by
  induction letters generalizing start with
  | nil => rfl
  | cons letter rest ih =>
      obtain ⟨here, later⟩ := List.forall_mem_cons.1 digits
      rw [List.filterMap_cons_some (digit?_of_isDigit here), List.foldl_cons, ih later,
        Nat.mul_comm]
      rfl

theorem ofDigitChars_zeros (zeros : Nat) (letters : List Char) :
    Nat.ofDigitChars 10 (List.replicate zeros '0' ++ letters) 0 =
      Nat.ofDigitChars 10 letters 0 := by
  induction zeros with
  | zero => rfl
  | succ zeros ih => exact ih

theorem numeral_decimal {zeros number : Nat}
    (short : zeros + (Nat.toDigits 10 number).length ≤ Decimal.digitLimit) :
    Numeral (decimal zeros number) number where
  filled := by
    rw [decimal, Ne, ← String.toList_inj]
    simp
  digits letter member := by
    rw [isDigit, digit?_of_isDigit (isDigit_of_mem_decimal letter member)]
    rfl
  short := by
    rw [← String.length_toList]
    simpa [decimal] using short
  value := by
    rw [ofDigits, foldl_digits isDigit_of_mem_decimal, decimal, String.toList_ofList,
      ofDigitChars_zeros]
    exact Nat.ofDigitChars_toDigits (by decide) (by decide)

end Selector

namespace Version

open Text Selector

/-! Versions as they are written. -/

/-- Blanks around a text and letters `v` in front of it. -/
def Clad (body text : String) : Prop :=
  ∃ before marks after, text = before ++ marks ++ body ++ after ∧ allBlank before = true ∧
    (∀ letter ∈ marks.toList, letter = 'v' ∨ letter = 'V') ∧ allBlank after = true

/-- A text that does not go on with a digit of whatever script. -/
def Breaks (suffix : String) : Prop :=
  ∀ letter, suffix.toList.head? = some letter → isDigit letter = false

/-- A version is written in three parts and a suffix, or in two parts or one and without any. -/
inductive Spelled : (text suffix : String) → Version → Prop where
  | full {a b c text suffix : String} {major minor patch : Nat} (first : Numeral a major)
      (second : Numeral b minor) (third : Numeral c patch) (breaks : Breaks suffix)
      (clad : Clad (a ++ "." ++ b ++ "." ++ c ++ suffix) text) :
      Spelled text suffix ⟨major, minor, patch⟩
  | pair {a b text : String} {major minor : Nat} (first : Numeral a major)
      (second : Numeral b minor) (clad : Clad (a ++ "." ++ b) text) :
      Spelled text "" ⟨major, minor, 0⟩
  | single {a text : String} {major : Nat} (first : Numeral a major) (clad : Clad a text) :
      Spelled text "" ⟨major, 0, 0⟩

section Reading

variable {a b c text suffix : String} {number major minor patch : Nat} {letter : Char}
  {tail : List Char}

theorem digit_visible (digit : isDigit letter = true) : isBlank letter = false := by
  have listed : inSpans digitSpans letter.toNat = true := by
    simpa [isDigit, digit?, inSpans, List.find?_isSome] using digit
  exact not_inSpans_of_apart (by decide +kernel) listed

theorem takeWhile_of_breaks (breaks : ∀ letter, tail.head? = some letter → isDigit letter = false) :
    tail.takeWhile isDigit = [] := by
  cases tail with
  | nil => rfl
  | cons letter rest => simp [breaks letter rfl]

theorem part_numeral (numeral : Numeral a number) (stops : tail.takeWhile isDigit = []) :
    part (a.toList ++ tail) = .ok number := by
  have taken : (a.toList ++ tail).takeWhile isDigit = a.toList := by
    rw [List.takeWhile_append_of_pos numeral.digits, stops, List.append_nil]
  have short : ¬(a.toList.filterMap digit?).length > Decimal.digitLimit := by
    rw [length_digits numeral.digits]
    exact Nat.not_lt.2 numeral.short
  rw [part, taken, if_neg short, numeral.value]

theorem part_alone (numeral : Numeral a number) : part a.toList = .ok number := by
  have whole : part (a.toList ++ []) = .ok number := part_numeral numeral rfl
  rwa [List.append_nil] at whole

theorem undivided (numeral : Numeral a number) :
    ∀ letter ∈ a.toList, (letter == '.') = false := by
  intro letter member
  rw [beq_eq_false_iff_ne]
  rintro rfl
  exact absurd (numeral.digits _ member) (by decide)

theorem cut_numeral (numeral : Numeral a number) (rest : List Char) :
    cut (· == '.') (a.toList ++ '.' :: rest) = a.toList :: cut (· == '.') rest := by
  rw [cut_append_cons (by decide), cut_of_plain (undivided numeral)]
  rfl

theorem cut_last (numeral : Numeral a number) (stops : tail.takeWhile isDigit = []) :
    ∃ piece pieces, cut (· == '.') (a.toList ++ tail) = (a.toList ++ piece) :: pieces ∧
      piece.takeWhile isDigit = [] := by
  obtain ⟨piece, pieces, divided, whole⟩ := cut_append_of_plain (undivided numeral) tail
  refine ⟨piece, pieces, whole, ?_⟩
  cases tail with
  | nil =>
      cases divided
      rfl
  | cons letter rest =>
      -- the first piece of what follows is empty, or it begins as what follows does
      have other : isDigit letter = false := by
        apply eq_false_of_ne_true
        intro digit
        rw [List.takeWhile_cons_of_pos digit] at stops
        cases stops
      rw [cut] at divided
      split at divided
      · cases divided
        rfl
      · split at divided
        · cases divided
          exact List.takeWhile_cons_of_neg (by simp [other])
        · cases divided
          exact List.takeWhile_cons_of_neg (by simp [other])

/-- Digits and points, a digit in front. -/
structure Parts (core : List Char) : Prop where
  solid : ∀ letter ∈ core, isDigit letter = true ∨ letter = '.'
  begins : ∃ first others, core = first :: others ∧ isDigit first = true

theorem parts_numeral (numeral : Numeral a number) : Parts a.toList where
  solid letter member := .inl (numeral.digits letter member)
  begins := by
    have filled : a.toList ≠ [] := by simpa using numeral.filled
    obtain ⟨first, others, whole⟩ := List.exists_cons_of_ne_nil filled
    exact ⟨first, others, whole, numeral.digits first (by simp [whole])⟩

theorem Parts.point {core : List Char} (numeral : Numeral a number) (parts : Parts core) :
    Parts (a.toList ++ '.' :: core) where
  solid letter member := by
    rcases List.mem_append.1 member with inside | behind
    · exact .inl (numeral.digits letter inside)
    · rcases List.mem_cons.1 behind with point | later
      · exact .inr point
      · exact parts.solid letter later
  begins := by
    obtain ⟨first, others, whole, digit⟩ := (parts_numeral numeral).begins
    exact ⟨first, others ++ '.' :: core, by rw [whole, List.cons_append], digit⟩

theorem unclad {core : String} (clad : Clad (core ++ suffix) text)
    (parts : Parts core.toList) (breaks : Breaks suffix) :
    ∃ tail, withoutMark (trimChars text.toList) = core.toList ++ tail ∧
      tail.takeWhile isDigit = [] ∧ (suffix = "" → tail = []) := by
  obtain ⟨before, marks, after, rfl, front, marked, behind⟩ := clad
  obtain ⟨first, others, whole, digit⟩ := parts.begins
  have visible : ∀ letter ∈ marks.toList ++ core.toList, isBlank letter = false := by
    intro letter member
    rcases List.mem_append.1 member with mark | inside
    · rcases marked letter mark with rfl | rfl
      · decide
      · decide
    · rcases parts.solid letter inside with digit | rfl
      · exact digit_visible digit
      · decide
  have spelled : (before ++ marks ++ (core ++ suffix) ++ after).toList = before.toList ++
      ((marks.toList ++ core.toList) ++ (suffix.toList ++ after.toList)) := by simp
  have trims := trimChars_around front (by simp [whole]) visible (suffix.toList ++ after.toList)
  have passed : ∀ letter ∈ marks.toList, (letter = 'v' || letter = 'V') = true := by
    simpa using marked
  have stays : ¬(first = 'v' || first = 'V') = true := by
    rw [Bool.or_eq_true, decide_eq_true_eq, decide_eq_true_eq]
    rintro (rfl | rfl)
    · exact absurd digit (by decide)
    · exact absurd digit (by decide)
  refine ⟨trimRight (suffix.toList ++ after.toList), ?_, ?_, ?_⟩
  · rw [spelled, trims, withoutMark, List.append_assoc, List.dropWhile_append_of_pos passed, whole]
    exact List.dropWhile_cons_of_neg stays
  · apply takeWhile_of_breaks
    intro letter head
    obtain ⟨rest, kept⟩ : trimRight (suffix.toList ++ after.toList) <+: _ :=
      List.rdropWhile_prefix isBlank _
    have next : (suffix.toList ++ after.toList).head? = some letter := by
      rw [← kept, List.head?_append, head]
      rfl
    rw [List.head?_append] at next
    cases begun : suffix.toList.head? with
    | some other =>
        rw [begun] at next
        cases next
        exact breaks _ begun
    | none =>
        rw [begun] at next
        have blank := List.all_eq_true.1 behind letter (List.mem_of_head? next)
        apply eq_false_of_ne_true
        intro digit
        rw [digit_visible digit] at blank
        cases blank
  · rintro rfl
    exact List.rdropWhile_eq_nil_iff.2 (List.all_eq_true.1 behind)

theorem unclad_alone {core : String} (clad : Clad core text) (parts : Parts core.toList) :
    withoutMark (trimChars text.toList) = core.toList := by
  have clad : Clad (core ++ "") text := by simpa using clad
  obtain ⟨tail, bare, -, nothing⟩ := unclad clad parts (by rintro _ ⟨⟩)
  rw [bare, nothing rfl, List.append_nil]

theorem parts_cons {piece : List Char} {pieces : List (List Char)} {numbers : List Nat}
    (first : part piece = .ok number) (others : parts pieces = .ok numbers) :
    parts (piece :: pieces) = .ok (number :: numbers) := by
  rw [parts, first, others]
  rfl

theorem parse_of_parts {pieces : List (List Char)} {numbers : List Nat}
    (divided : cut (· == '.') (withoutMark (trimChars text.toList)) = pieces)
    (read : parts (pieces.take 3) = .ok numbers) :
    parse text = .ok ⟨numbers.getD 0 0, numbers.getD 1 0, numbers.getD 2 0⟩ := by
  rw [parse, divided, read]
  rfl

theorem parse_of_spelled {version : Version} (spelled : Spelled text suffix version) :
    parse text = .ok version := by
  cases spelled with
  | @full a b c _ _ major minor patch first second third breaks clad =>
      have spelling : (a ++ "." ++ b ++ "." ++ c).toList =
          a.toList ++ '.' :: (b.toList ++ '.' :: c.toList) := by simp
      have solid : Parts (a ++ "." ++ b ++ "." ++ c).toList := by
        rw [spelling]
        exact .point first (.point second (parts_numeral third))
      obtain ⟨tail, bare, stops, -⟩ := unclad clad solid breaks
      obtain ⟨piece, pieces, last, behind⟩ := cut_last third stops
      have divided : cut (· == '.') (withoutMark (trimChars text.toList)) =
          a.toList :: b.toList :: (c.toList ++ piece) :: pieces := by
        rw [bare, spelling, List.append_assoc, List.cons_append, List.append_assoc,
          List.cons_append, cut_numeral first, cut_numeral second, last]
      -- what is cut off behind the third part is not looked at
      exact parse_of_parts divided (parts_cons (part_alone first)
        (parts_cons (part_alone second) (parts_cons (part_numeral third behind) rfl)))
  | @pair a b _ major minor first second clad =>
      have spelling : (a ++ "." ++ b).toList = a.toList ++ '.' :: b.toList := by simp
      have solid : Parts (a ++ "." ++ b).toList := by
        rw [spelling]
        exact .point first (parts_numeral second)
      have divided : cut (· == '.') (withoutMark (trimChars text.toList)) =
          [a.toList, b.toList] := by
        rw [unclad_alone clad solid, spelling, cut_numeral first, cut_of_plain (undivided second)]
      exact parse_of_parts divided
        (parts_cons (part_alone first) (parts_cons (part_alone second) rfl))
  | @single a _ major first clad =>
      have divided : cut (· == '.') (withoutMark (trimChars text.toList)) = [a.toList] := by
        rw [unclad_alone clad (parts_numeral first), cut_of_plain (undivided first)]
      exact parse_of_parts divided (parts_cons (part_alone first) rfl)

end Reading

theorem parse_trim (text : String) : parse (trim text) = parse text := by
  rw [parse, parse, trim, String.toList_ofList, trimChars_trimChars]

/-! What a version is spelled with. -/

section Letters

variable {a body text suffix : String} {number : Nat} {version : Version}

theorem ne_empty_of_clad (filled : body ≠ "") (clad : Clad body text) : text ≠ "" := by
  obtain ⟨before, marks, after, rfl, -, -, -⟩ := clad
  simp [filled]

theorem ne_empty_of_spelled (spelled : Spelled text suffix version) : text ≠ "" := by
  cases spelled with
  | full first _ _ _ clad => exact ne_empty_of_clad (by simp) clad
  | pair first _ clad => exact ne_empty_of_clad (by simp) clad
  | single first clad => exact ne_empty_of_clad first.filled clad

theorem comma_of_clad (plain : ',' ∉ body.toList) (clad : Clad body text) : ',' ∉ text.toList := by
  obtain ⟨before, marks, after, rfl, front, marked, behind⟩ := clad
  have outside {blanks : String} (blank : allBlank blanks = true) : ',' ∉ blanks.toList :=
    fun member => absurd (List.all_eq_true.1 blank ',' member) (by decide)
  have unmarked : ',' ∉ marks.toList := fun member => absurd (marked ',' member) (by decide)
  simp [outside front, outside behind, unmarked, plain]

theorem comma_of_numeral (numeral : Numeral a number) : ',' ∉ a.toList :=
  fun member => absurd (numeral.digits ',' member) (by decide)

theorem comma_of_spelled (plain : ',' ∉ suffix.toList) (spelled : Spelled text suffix version) :
    ',' ∉ text.toList := by
  cases spelled with
  | full first second third _ clad =>
      apply comma_of_clad _ clad
      simp [comma_of_numeral first, comma_of_numeral second, comma_of_numeral third, plain]
  | pair first second clad =>
      apply comma_of_clad _ clad
      simp [comma_of_numeral first, comma_of_numeral second]
  | single first clad => exact comma_of_clad (comma_of_numeral first) clad

end Letters

/-! Comparing. -/

def rank (version : Version) : ℕ ×ₗ ℕ ×ₗ ℕ :=
  toLex (version.major, toLex (version.minor, version.patch))

theorem atLeast_iff (current required : Version) :
    current.atLeast required = true ↔ required.rank ≤ current.rank := by
  simp only [atLeast, rank, Prod.Lex.toLex_le_toLex, Bool.or_eq_true, Bool.and_eq_true,
    decide_eq_true_eq, beq_iff_eq]
  omega

def ToldBy (settings : Json) (current : String) : Prop :=
  (Facts.buildInfo settings).member "version" = .ok (.text current)

section Checking

variable {settings : Json} {current required suffix other : String} {running wanted : Version}

theorem judgeVersion_of_spelled (raw : String) (told : ToldBy settings current)
    (runs : Spelled current suffix running) (wants : Spelled required other wanted) :
    Requirement.judgeVersion raw (trim required) settings =
      .ok (Requirement.verdictOf raw (running.atLeast wanted)
        s!"Current version '{current}' does not meet minimum requirement '{trim required}'") := by
  have filled := ne_empty_of_spelled runs
  have given : (Json.text current).orElse (.text "0.0.0") = .text current := by
    simp [Json.orElse, Json.truthy, filled]
  have shown : (Json.text current).display = current := rfl
  have reads : Requirement.versionOf current = .ok running := by
    rw [Requirement.versionOf, parse_of_spelled runs]
  have asks : Requirement.versionOf (trim required) = .ok wanted := by
    rw [Requirement.versionOf, parse_trim, parse_of_spelled wants]
  rw [Requirement.judgeVersion, told]
  dsimp only [bind, Except.bind]
  rw [given, shown, reads, asks]
  rfl

end Checking

open Requirement in
/-- Numbers in decimal notation, with or without zeros in front, are numerals; a text that is
spelled with numerals as a version is read as the version of these numbers; and a required version
is met by one that is at least as high, its first numbers deciding before the others, whatever both
are written with. -/
theorem versions_compared_as_numbers {σ : Type}
    {answer : (asked : Request) → StateM σ asked.Answer} {view : σ → Records}
    (faithful : Faithful answer view) :
    (∀ zeros number, zeros + (Nat.toDigits 10 number).length ≤ Decimal.digitLimit →
      Numeral (decimal zeros number) number) ∧
    (∀ text suffix version, Spelled text suffix version → parse text = .ok version) ∧
    ∀ current suffix running required other wanted settings,
      Spelled current suffix running → Spelled required other wanted → ',' ∉ other.toList →
      ToldBy settings current → Informed answer .frontendSettings settings →
      ∀ situation subject, ∃ assessment,
        assess answer situation (some ("min-version:" ++ required)) subject = .ok assessment ∧
          (assessment.passed = true ↔ wanted.rank ≤ running.rank) := by
  refine ⟨fun _ _ => numeral_decimal, fun _ _ _ => parse_of_spelled, ?_⟩
  intro current suffix running required other wanted settings runs wants plain told informed
    situation subject
  have spelling : written .minVersion required = "min-version:" ++ required := by
    rw [written]
    rfl
  have single : parseAll (written .minVersion required) = _ :=
    parseAll_of_written rfl (comma_of_spelled plain wants)
  rw [spelling] at single
  generalize trim ("min-version:" ++ required) = raw at single
  have about : check ⟨.minVersion, raw, trim required⟩ subject =
      .fact .frontendSettings (judgeVersion raw (trim required)) := rfl
  obtain ⟨assessment, result, passed⟩ := assess_of_informed faithful informed about single situation
  refine ⟨assessment, result, ?_⟩
  rw [passed, judgeVersion_of_spelled raw told runs wants, ← atLeast_iff]
  cases running.atLeast wanted with
  | true => simp [Verdict.ofOutcome, verdictOf, Verdict.ok]
  | false => simp [Verdict.ofOutcome, verdictOf, Verdict.failed]

def build : Json :=
  .object [("version", .text " v10.04.1-rc.2")]

def candidate : Facts.Fixed :=
  .ofFields [("frontend_settings", .object [("buildInfo", build)])]

theorem candidate_lookup :
    candidate.lookup .frontendSettings = .ok (.list [.list [.text "buildInfo", build]]) := by
  rfl

theorem numeral_of_eq {zeros number : Nat} {numeral : String}
    (same : decimal zeros number = numeral)
    (short : zeros + (Nat.toDigits 10 number).length ≤ Decimal.digitLimit) :
    Numeral numeral number :=
  same ▸ numeral_decimal short

theorem candidate_spelled : Spelled " v10.04.1-rc.2" "-rc.2" ⟨10, 4, 1⟩ := by
  have major : Numeral "10" 10 :=
    numeral_of_eq (show decimal 0 10 = "10" by decide) (by decide)
  have minor : Numeral "04" 4 :=
    numeral_of_eq (show decimal 1 4 = "04" by decide) (by decide)
  refine .full major minor numeral_one (fun letter head => ?_) ⟨" ", "v", "", rfl, rfl, ?_, rfl⟩
  · cases head
    decide
  · simp

/-- Three parts are compared with three others, and with two. -/
theorem candidate_compared :
    ∃ first second,
      Requirement.assess (roadside.knowing candidate) ⟨[], []⟩
        (some ("min-version:" ++ "\tV010.4.0 ")) .unnamed = .ok first ∧ first.passed = true ∧
      Requirement.assess (roadside.knowing candidate) ⟨[], []⟩
        (some ("min-version:" ++ "10.5")) .unnamed = .ok second ∧ second.passed = false := by
  obtain ⟨-, -, compares⟩ :=
    versions_compared_as_numbers (roadside.faithful_knowing candidate)
  have ten (zeros : Nat) (few : zeros ≤ 1) : Numeral (decimal zeros 10) 10 :=
    numeral_decimal (le_trans (Nat.add_le_add_right few _) (by decide))
  have earlier : Spelled "\tV010.4.0 " "" ⟨10, 4, 0⟩ := by
    have minor : Numeral "4" 4 := numeral_of_eq (show decimal 0 4 = "4" by decide) (by decide)
    have patch : Numeral "0" 0 := numeral_of_eq (show decimal 0 0 = "0" by decide) (by decide)
    refine .full (ten 1 (by decide)) minor patch (by rintro _ ⟨⟩)
      ⟨"\t", "V", " ", by decide, rfl, ?_, rfl⟩
    simp
  have later : Spelled "10.5" "" ⟨10, 5, 0⟩ := by
    have minor : Numeral "5" 5 := numeral_of_eq (show decimal 0 5 = "5" by decide) (by decide)
    exact .pair (ten 0 (by decide)) minor ⟨"", "", "", by decide, rfl, by simp, rfl⟩
  have told : ToldBy (.list [.list [.text "buildInfo", build]]) " v10.04.1-rc.2" := by
    rfl
  have informed := roadside.informed_knowing candidate_lookup
  obtain ⟨first, assessed, passes⟩ := compares _ _ _ _ _ _ _ candidate_spelled earlier (by decide)
    told informed ⟨[], []⟩ .unnamed
  obtain ⟨second, again, fails⟩ := compares _ _ _ _ _ _ _ candidate_spelled later (by decide)
    told informed ⟨[], []⟩ .unnamed
  refine ⟨first, second, assessed, passes.2 ?_, again, eq_false_of_ne_true fun holds => ?_⟩
  · rw [← atLeast_iff]
    rfl
  · exact absurd ((atLeast_iff _ _).2 (fails.1 holds)) (by decide)

end Version

end Walkthrough
