import Walkthrough.Proofs.Occurrences
import Walkthrough.Proofs.Trimming
import Walkthrough.Text.Lowercase
/-!
Lower-casing a text and a part of it. The surroundings of a letter matter for a capital sigma only,
which is written in its final form where a word ends. So a text that holds a needle as it stands
holds it in lower case too, unless there is a capital sigma in the needle of which only the
surroundings tell whether it ends a word. Blanks end a word, so a text can be trimmed before it is
lower-cased or after. Colons and slashes are the lower-case form of nothing else.
-/

namespace Walkthrough.Text

theorem includesFolded_iff {pattern text : String} :
    includesFolded pattern text = true ↔
      lowerChars pattern.toList <:+: lowerChars text.toList := by
  rw [includesFolded, includes_iff, lower, lower, String.toList_ofList, String.toList_ofList]

/-! Letters in their surroundings. -/

section Surroundings

variable {before after inner outer further : List Char} {letter : Char}

theorem facesCased_of_ignorable (passed : inner.all isIgnorable = true) (others : List Char) :
    facesCased (inner ++ others) = facesCased others := by
  unfold facesCased
  rw [List.dropWhile_append_of_pos (List.all_eq_true.1 passed)]

theorem facesCased_append (inner others : List Char) :
    facesCased (inner ++ others) =
      if inner.all isIgnorable then facesCased others else facesCased inner := by
  split
  · next passed => exact facesCased_of_ignorable passed others
  · next stops =>
      unfold facesCased
      rw [List.dropWhile_append, if_neg]
      · cases rest : inner.dropWhile isIgnorable with
        | nil => exact absurd (by simpa using rest) stops
        | cons letter later => rfl
      · simpa using stops

theorem facesCased_eq_false (passed : inner.all isIgnorable = true) :
    facesCased inner = false := by
  have nothing := facesCased_of_ignorable passed []
  rwa [List.append_nil] at nothing

def endsWord (before after : List Char) : Bool :=
  facesCased before && !facesCased after

theorem lowerBetween_sigma (before after : List Char) :
    lowerBetween before 'Σ' after = if endsWord before after then ['ς'] else ['σ'] :=
  rfl

theorem lowerBetween_other (other : letter ≠ 'Σ') (before after outer further : List Char) :
    lowerBetween before letter after = lowerBetween outer letter further := by
  unfold lowerBetween
  rw [if_neg other, if_neg other]

/-- The lower-case form of a text between what is before it, nearest first, and what is behind. -/
def lowerWithin (before : List Char) : List Char → List Char → List Char
  | [], _ => []
  | letter :: rest, after =>
      lowerBetween before letter (rest ++ after) ++ lowerWithin (letter :: before) rest after

theorem lowerFrom_append (before text after : List Char) :
    lowerFrom before (text ++ after) =
      lowerWithin before text after ++ lowerFrom (text.reverse ++ before) after := by
  induction text generalizing before with
  | nil => rfl
  | cons letter rest ih =>
      rw [List.cons_append, lowerFrom, ih, lowerWithin]
      simp

theorem lowerFrom_eq_lowerWithin (before text : List Char) :
    lowerFrom before text = lowerWithin before text [] := by
  simpa [lowerFrom] using lowerFrom_append before text []

theorem lowerWithin_append (before first second after : List Char) :
    lowerWithin before (first ++ second) after =
      lowerWithin before first (second ++ after) ++
        lowerWithin (first.reverse ++ before) second after := by
  induction first generalizing before with
  | nil => rfl
  | cons letter rest ih =>
      rw [List.cons_append, lowerWithin, ih, lowerWithin]
      simp

theorem lowerChars_around (before text after : List Char) :
    lowerWithin before.reverse text after <:+: lowerChars (before ++ text ++ after) := by
  unfold lowerChars
  rw [List.append_assoc, lowerFrom_append, lowerFrom_append]
  simp only [List.append_nil]
  exact ⟨_, _, List.append_assoc ..⟩

theorem facesCased_mono (grows : facesCased before = true → facesCased outer = true)
    (inner : List Char) : facesCased (inner ++ before) = true → facesCased (inner ++ outer) = true := by
  rw [facesCased_append, facesCased_append]
  split
  · exact grows
  · exact id

theorem facesCased_congr (same : facesCased before = facesCased outer) (inner : List Char) :
    facesCased (inner ++ before) = facesCased (inner ++ outer) := by
  rw [facesCased_append, facesCased_append, same]

theorem lowerWithin_congr (start : facesCased before = facesCased outer)
    (ending : facesCased after = facesCased further) (text : List Char) :
    lowerWithin before text after = lowerWithin outer text further := by
  induction text generalizing before outer with
  | nil => rfl
  | cons letter rest ih =>
      have later : lowerWithin (letter :: before) rest after =
          lowerWithin (letter :: outer) rest further := ih (facesCased_congr start [letter])
      rw [lowerWithin, lowerWithin, later]
      by_cases sigma : letter = 'Σ'
      · rw [sigma, lowerBetween_sigma, lowerBetween_sigma, endsWord, endsWord, start,
          facesCased_congr ending rest]
      · rw [lowerBetween_other sigma]

end Surroundings

/-! Capital sigmas that are loose in a text. -/

/-- From what is around a capital sigma, the letters before it nearest first, it cannot be told
whether it ends a word: a letter with case may precede or follow that is not there. -/
def isLoose (before after : List Char) : Bool :=
  before.all isIgnorable && !facesCased after || facesCased before && after.all isIgnorable

def looseFrom (before : List Char) : List Char → Bool
  | [] => false
  | letter :: after =>
      letter == 'Σ' && isLoose before after || looseFrom (letter :: before) after

def hasLooseSigma (text : String) : Bool :=
  looseFrom [] text.toList

section Loose

variable {before after outer further text needle : List Char}

theorem endsWord_of_settled (settled : isLoose before after = false) (outer further : List Char) :
    endsWord (before ++ outer) (after ++ further) = endsWord before after := by
  unfold isLoose at settled
  unfold endsWord
  rw [facesCased_append, facesCased_append]
  cases starts : before.all isIgnorable with
  | true =>
      -- then a letter with case follows
      have follows : facesCased after = true := by
        rw [starts, Bool.true_and, Bool.or_eq_false_iff] at settled
        simpa using settled.1
      have stops : after.all isIgnorable = false := by
        apply eq_false_of_ne_true
        intro passed
        rw [facesCased_eq_false passed] at follows
        cases follows
      simp [stops, follows]
  | false =>
      cases ends : after.all isIgnorable with
      | true =>
          have alone : facesCased before = false := by simpa [starts, ends] using settled
          simp [alone]
      | false => rfl

theorem lowerWithin_of_settled (settled : looseFrom before text = false)
    (outer further : List Char) :
    lowerWithin (before ++ outer) text further = lowerWithin before text [] := by
  induction text generalizing before with
  | nil => rfl
  | cons letter rest ih =>
      rw [looseFrom, Bool.or_eq_false_iff] at settled
      rw [lowerWithin, lowerWithin, List.append_nil, ← List.cons_append, ih settled.2]
      by_cases sigma : letter = 'Σ'
      · have here : isLoose before rest = false := by simpa [sigma] using settled.1
        rw [sigma, lowerBetween_sigma, lowerBetween_sigma, endsWord_of_settled here]
      · rw [lowerBetween_other sigma]

theorem exists_loose (loose : looseFrom before text = true) :
    ∃ front back, text = front ++ 'Σ' :: back ∧ isLoose (front.reverse ++ before) back = true := by
  induction text generalizing before with
  | nil => cases loose
  | cons letter rest ih =>
      rw [looseFrom, Bool.or_eq_true, Bool.and_eq_true, beq_iff_eq] at loose
      rcases loose with ⟨rfl, here⟩ | later
      · exact ⟨[], rest, rfl, here⟩
      · obtain ⟨front, back, rfl, there⟩ := ih later
        exact ⟨letter :: front, back, rfl, by simpa using there⟩

theorem endsWord_mono (start : facesCased before = true → facesCased outer = true)
    (ending : facesCased further = true → facesCased after = true)
    (ends : endsWord before after = true) : endsWord outer further = true := by
  unfold endsWord at ends ⊢
  rw [Bool.and_eq_true, Bool.not_eq_true'] at ends ⊢
  refine ⟨start ends.1, eq_false_of_ne_true fun follows => ?_⟩
  rw [ending follows] at ends
  cases ends.2

theorem letter_counts_le (ends : endsWord before after = true → endsWord outer further = true)
    (letter : Char) :
    (lowerBetween before letter after).count 'ς' ≤ (lowerBetween outer letter further).count 'ς' ∧
      (lowerBetween outer letter further).count 'σ' ≤
        (lowerBetween before letter after).count 'σ' := by
  by_cases sigma : letter = 'Σ'
  · rw [sigma, lowerBetween_sigma, lowerBetween_sigma]
    cases here : endsWord before after with
    | true =>
        rw [ends here]
        exact ⟨le_rfl, le_rfl⟩
    | false => cases endsWord outer further <;> decide
  · rw [lowerBetween_other sigma before after outer further]
    exact ⟨le_rfl, le_rfl⟩

/-- Where more letters with case precede a text and fewer follow it, at least as many capital
sigmas end words. -/
theorem counts_le (start : facesCased before = true → facesCased outer = true)
    (ending : facesCased further = true → facesCased after = true) (text : List Char) :
    (lowerWithin before text after).count 'ς' ≤ (lowerWithin outer text further).count 'ς' ∧
      (lowerWithin outer text further).count 'σ' ≤ (lowerWithin before text after).count 'σ' := by
  induction text generalizing before outer with
  | nil => exact ⟨le_rfl, le_rfl⟩
  | cons letter rest ih =>
      have here := letter_counts_le (endsWord_mono start (facesCased_mono ending rest)) letter
      have later := ih (facesCased_mono start [letter])
      simp only [lowerWithin, List.count_append]
      exact ⟨Nat.add_le_add here.1 later.1, Nat.add_le_add here.2 later.2⟩

theorem counts_lt {front back : List Char}
    (start : facesCased before = true → facesCased outer = true)
    (ending : facesCased further = true → facesCased after = true)
    (inner : endsWord (front.reverse ++ before) (back ++ after) = false)
    (final : endsWord (front.reverse ++ outer) (back ++ further) = true) :
    (lowerWithin before (front ++ 'Σ' :: back) after).count 'ς' <
        (lowerWithin outer (front ++ 'Σ' :: back) further).count 'ς' ∧
      (lowerWithin outer (front ++ 'Σ' :: back) further).count 'σ' <
        (lowerWithin before (front ++ 'Σ' :: back) after).count 'σ' := by
  have earlier := counts_le start (facesCased_mono ending ('Σ' :: back)) front
  have later := counts_le (facesCased_mono start ('Σ' :: front.reverse)) ending back
  have here : (lowerBetween (front.reverse ++ before) 'Σ' (back ++ after)).count 'ς' <
        (lowerBetween (front.reverse ++ outer) 'Σ' (back ++ further)).count 'ς' ∧
      (lowerBetween (front.reverse ++ outer) 'Σ' (back ++ further)).count 'σ' <
        (lowerBetween (front.reverse ++ before) 'Σ' (back ++ after)).count 'σ' := by
    rw [lowerBetween_sigma, lowerBetween_sigma, inner, final]
    decide
  rw [lowerWithin_append, lowerWithin_append, lowerWithin, lowerWithin]
  simp only [List.count_append]
  constructor
  · exact Nat.add_lt_add_of_le_of_lt earlier.1 (Nat.add_lt_add_of_lt_of_le here.1 later.1)
  · exact Nat.add_lt_add_of_le_of_lt earlier.2 (Nat.add_lt_add_of_lt_of_le here.2 later.2)

end Loose

theorem includesFolded_of_part {needle text : String} (settled : hasLooseSigma needle = false)
    (part : needle.toList <:+: text.toList) : includesFolded needle text = true := by
  rw [includesFolded_iff]
  obtain ⟨before, after, same⟩ := part
  have form : lowerWithin before.reverse needle.toList after = lowerChars needle.toList := by
    have alone := lowerWithin_of_settled settled before.reverse after
    rwa [List.nil_append, ← lowerFrom_eq_lowerWithin] at alone
  rw [← form, ← same]
  exact lowerChars_around before needle.toList after

theorem facesCased_letter : facesCased ['a'] = true := by
  decide +kernel

theorem not_includesFolded_of_loose {needle : String} (loose : hasLooseSigma needle = true) :
    includesFolded needle ("a" ++ needle) = false ∨
      includesFolded needle (needle ++ "a") = false := by
  obtain ⟨front, back, same, here⟩ := exists_loose loose
  rw [List.append_nil, isLoose, Bool.or_eq_true, Bool.and_eq_true, Bool.and_eq_true,
    Bool.not_eq_true'] at here
  have more : facesCased [] = true → facesCased ['a'] = true := fun _ => facesCased_letter
  have alone : lowerChars needle.toList = lowerWithin [] needle.toList [] :=
    lowerFrom_eq_lowerWithin [] needle.toList
  rcases here with ⟨starts, unfollowed⟩ | ⟨preceded, ends⟩
  · -- behind the letter, the sigma ends a word
    left
    apply eq_false_of_ne_true
    rw [includesFolded_iff, alone]
    intro part
    have joined : lowerChars ("a" ++ needle).toList = 'a' :: lowerWithin ['a'] needle.toList [] := by
      rw [← lowerFrom_eq_lowerWithin]
      simp [lowerChars, lowerFrom, lowerBetween]
    -- so fewer of its sigmas are left that do not, and the needle alone has too many of them
    have fewer : (lowerWithin ['a'] needle.toList []).count 'σ' <
        (lowerWithin [] needle.toList []).count 'σ' := by
      rw [same]
      refine (counts_lt more id ?_ ?_).2
      · rw [List.append_nil, endsWord, facesCased_eq_false starts, Bool.false_and]
      · rw [List.append_nil, endsWord, facesCased_of_ignorable starts, facesCased_letter, unfollowed]
        rfl
    have counted := part.count_le 'σ'
    rw [joined, List.count_cons_of_ne (by decide)] at counted
    exact absurd counted (by omega)
  · -- in front of the letter, it does not
    right
    apply eq_false_of_ne_true
    rw [includesFolded_iff, alone]
    intro part
    have joined : lowerChars (needle ++ "a").toList = lowerWithin [] needle.toList ['a'] ++ ['a'] := by
      rw [String.toList_append, lowerChars, lowerFrom_append]
      simp [lowerFrom, lowerBetween]
    have fewer : (lowerWithin [] needle.toList ['a']).count 'ς' <
        (lowerWithin [] needle.toList []).count 'ς' := by
      rw [same]
      refine (counts_lt id more ?_ ?_).1
      · rw [endsWord, facesCased_of_ignorable ends, facesCased_letter, Bool.not_true,
          Bool.and_false]
      · rw [List.append_nil, List.append_nil, endsWord, preceded, facesCased_eq_false ends]
        rfl
    have counted := part.count_le 'ς'
    rw [joined, List.count_append, List.count_singleton] at counted
    exact absurd counted (by simp; omega)

/-! Blanks. -/

section Blanks

variable {letter : Char}

theorem not_inSpans_of_apart {spans others : List (Nat × Nat)} {code : Nat}
    (apart : ∀ span ∈ spans, ∀ other ∈ others, span.2 < other.1 ∨ other.2 < span.1)
    (inside : inSpans spans code = true) : inSpans others code = false := by
  obtain ⟨span, member, starts, ends⟩ := (inSpans_iff _ _).1 inside
  apply eq_false_of_ne_true
  rw [inSpans_iff]
  rintro ⟨other, also, opens, closes⟩
  rcases apart span member other also with before | behind
  · omega
  · omega

theorem facesCased_blank (blank : isBlank letter = true) (others : List Char) :
    facesCased (letter :: others) = false := by
  have caseless : isCased letter = false :=
    not_inSpans_of_apart (by decide +kernel) blank
  have stops : isIgnorable letter = false :=
    not_inSpans_of_apart (by decide +kernel) blank
  unfold facesCased
  rw [List.dropWhile_cons_of_neg (by simp [stops])]
  exact caseless

theorem lowerSimple_blank (blank : isBlank letter = true) : lowerSimple letter = letter := by
  have apart : ∀ span ∈ blankSpans, ∀ run ∈ caseRuns, span.2 < run.first ∨ run.last < span.1 := by
    decide +kernel
  obtain ⟨span, member, starts, ends⟩ := (inSpans_iff _ _).1 blank
  have none : caseRuns.findSome? (fun run => run.lower? letter.toNat) = none := by
    rw [List.findSome?_eq_none_iff]
    intro run also
    rw [CaseRun.lower?, if_neg]
    simp only [Bool.and_eq_true, decide_eq_true_eq, not_and]
    intro inside
    rcases apart span member run also with before | behind
    · omega
    · omega
  rw [lowerSimple, none]

theorem toNat_ofNat_cases (code : Nat) :
    (Char.ofNat code).toNat = code ∨ (Char.ofNat code).toNat = 0 := by
  by_cases valid : code.isValidChar
  · have same : Char.ofNat code = Char.ofNatAux code valid := dif_pos valid
    exact .inl (by rw [same]; rfl)
  · have same : Char.ofNat code = ⟨0, .inl (by decide)⟩ := dif_neg valid
    exact .inr (by rw [same]; rfl)

theorem lowerSimple_visible (visible : isBlank letter = false) :
    isBlank (lowerSimple letter) = false := by
  have apart : ∀ run ∈ caseRuns, ∀ span ∈ blankSpans,
      run.lower + (run.last - run.first) < span.1 ∨ span.2 < run.lower := by
    decide +kernel
  unfold lowerSimple
  split
  · next code lowered =>
      obtain ⟨run, member, inside⟩ := List.exists_of_findSome?_eq_some lowered
      unfold CaseRun.lower? at inside
      split at inside
      · next within =>
          simp only [Bool.and_eq_true, decide_eq_true_eq] at within
          cases inside
          -- what is no code of a letter stands for the letter zero, which is not blank either
          rcases toNat_ofNat_cases (run.lower + (letter.toNat - run.first)) with same | zero
          · apply eq_false_of_ne_true
            rw [isBlank, same, inSpans_iff]
            rintro ⟨span, also, starts, ends⟩
            rcases apart run member span also with before | behind
            · omega
            · omega
          · rw [isBlank, zero]
            rfl
      · cases inside
  · exact visible

theorem toLower_ascii : ∀ code < 128,
    if isBlank (Char.ofNat code) then (Char.ofNat code).toLower = Char.ofNat code
    else isBlank (Char.ofNat code).toLower = false := by
  decide +kernel

theorem lowerBetween_blank (blank : isBlank letter = true) (before after : List Char) :
    lowerBetween before letter after = [letter] := by
  unfold lowerBetween
  split
  · next ascii =>
      have same := toLower_ascii letter.toNat ascii
      rw [Char.ofNat_toNat, if_pos blank] at same
      rw [same]
  · rw [if_neg, if_neg, lowerSimple_blank blank]
    · rintro rfl
      exact absurd blank (by decide)
    · rintro rfl
      exact absurd blank (by decide)

theorem lowerBetween_visible (visible : isBlank letter = false) (before after : List Char) :
    lowerBetween before letter after ≠ [] ∧
      ∀ form ∈ lowerBetween before letter after, isBlank form = false := by
  unfold lowerBetween
  split
  · next ascii =>
      have same := toLower_ascii letter.toNat ascii
      rw [Char.ofNat_toNat, if_neg (by simp [visible])] at same
      exact ⟨by simp, by simpa using same⟩
  · split
    · split <;> exact ⟨by simp, List.forall_mem_singleton.2 (by decide)⟩
    · split
      · exact ⟨by simp, List.forall_mem_cons.2 ⟨by decide, List.forall_mem_singleton.2 (by decide)⟩⟩
      · exact ⟨by simp, by simpa using lowerSimple_visible visible⟩

theorem lowerBetween_ne_nil (letter : Char) (before after : List Char) :
    lowerBetween before letter after ≠ [] := by
  cases blank : isBlank letter with
  | true => simp [lowerBetween_blank blank]
  | false => exact (lowerBetween_visible blank before after).1

theorem lowerFrom_blank {before : List Char} (blank : isBlank letter = true)
    (alone : facesCased before = false) (text : List Char) :
    lowerFrom (letter :: before) text = lowerFrom before text := by
  rw [lowerFrom_eq_lowerWithin, lowerFrom_eq_lowerWithin]
  exact lowerWithin_congr (by rw [facesCased_blank blank, alone]) rfl text

theorem trimLeft_lowerFrom {before : List Char} (alone : facesCased before = false)
    (text : List Char) : trimLeft (lowerFrom before text) = lowerFrom before (trimLeft text) := by
  induction text with
  | nil => rfl
  | cons letter rest ih =>
      unfold trimLeft at ih ⊢
      rw [lowerFrom]
      cases blank : isBlank letter with
      | true =>
          rw [lowerBetween_blank blank, lowerFrom_blank blank alone, List.dropWhile_cons_of_pos blank,
            List.singleton_append, List.dropWhile_cons_of_pos blank, ih]
      | false =>
          obtain ⟨filled, visible⟩ := lowerBetween_visible blank before rest
          obtain ⟨first, others, form⟩ := List.exists_cons_of_ne_nil filled
          have shows : ¬isBlank first = true := by
            simp [visible first (form ▸ List.mem_cons_self)]
          rw [List.dropWhile_cons_of_neg (by simp [blank]), lowerFrom, form, List.cons_append,
            List.dropWhile_cons_of_neg shows]

theorem trimRight_lowerFrom (before text : List Char) :
    trimRight (lowerFrom before text) = lowerFrom before (trimRight text) := by
  change (lowerFrom before text).rdropWhile isBlank = lowerFrom before (text.rdropWhile isBlank)
  -- blanks are dropped from the end, and a blank there is no letter that follows the others
  induction text using List.reverseRecOn with
  | nil => rfl
  | append_singleton rest letter ih =>
      have last : lowerFrom (rest.reverse ++ before) [letter] =
          lowerBetween (rest.reverse ++ before) letter [] := by
        rw [lowerFrom, lowerFrom, List.append_nil]
      cases blank : isBlank letter with
      | true =>
          have ending : lowerWithin before rest [letter] = lowerFrom before rest := by
            rw [lowerFrom_eq_lowerWithin]
            exact lowerWithin_congr rfl (facesCased_blank blank []) rest
          rw [lowerFrom_append, last, lowerBetween_blank blank, ending,
            List.rdropWhile_concat_pos _ _ _ blank, List.rdropWhile_concat_pos _ _ _ blank, ih]
      | false =>
          obtain ⟨filled, visible⟩ :=
            lowerBetween_visible blank (rest.reverse ++ before) []
          obtain ⟨others, final, form⟩ := (List.eq_nil_or_concat _).resolve_left filled
          have shows : ¬isBlank final = true := by
            simp [visible final (by simp [form])]
          rw [List.rdropWhile_concat_neg _ _ _ (by simp [blank]), lowerFrom_append, last, form,
            List.concat_eq_append, ← List.append_assoc, List.rdropWhile_concat_neg _ _ _ shows]

theorem trim_lower (text : String) : trim (lower text) = lower (trim text) := by
  have swap : trimChars (lowerChars text.toList) = lowerChars (trimChars text.toList) := by
    unfold trimChars lowerChars
    rw [trimLeft_lowerFrom rfl, trimRight_lowerFrom]
  rw [trim, trim, lower, lower, String.toList_ofList, String.toList_ofList, swap]

end Blanks

/-! Plain letters, and marks that no letter becomes. -/

section Marks

variable {letter mark : Char}

theorem forall_mem_of_all {holds : Char → Prop} [DecidablePred holds] {letters : List Char}
    (all : letters.all (fun letter => decide (holds letter)) = true) :
    ∀ letter ∈ letters, holds letter :=
  fun letter member => of_decide_eq_true (List.all_eq_true.1 all letter member)

def isMark (letter : Char) : Bool :=
  letter = ':' || letter = '/'

theorem toNat_of_isMark (marks : isMark mark = true) : mark.toNat = 58 ∨ mark.toNat = 47 := by
  rw [isMark, Bool.or_eq_true, decide_eq_true_eq, decide_eq_true_eq] at marks
  rcases marks with rfl | rfl
  · exact .inl rfl
  · exact .inr rfl

theorem toLower_mark : ∀ code < 128,
    isMark (Char.ofNat code).toLower → (Char.ofNat code).toLower = Char.ofNat code := by
  decide +kernel

theorem lowerSimple_mark (marks : isMark (lowerSimple letter) = true) :
    lowerSimple letter = letter := by
  have small := toNat_of_isMark marks
  have beyond : ∀ run ∈ caseRuns, 97 ≤ run.lower := by
    decide +kernel
  unfold lowerSimple at small ⊢
  split at small
  · next code lowered =>
      obtain ⟨run, member, inside⟩ := List.exists_of_findSome?_eq_some lowered
      unfold CaseRun.lower? at inside
      split at inside
      · cases inside
        have far := beyond run member
        rcases toNat_ofNat_cases (run.lower + (letter.toNat - run.first)) with same | zero <;> omega
      · cases inside
  · rfl

theorem eq_of_mem_lowerBetween (marks : isMark mark = true) {before after : List Char}
    (member : mark ∈ lowerBetween before letter after) : letter = mark := by
  unfold lowerBetween at member
  split at member
  · next ascii =>
      have same := toLower_mark letter.toNat ascii
      rw [Char.ofNat_toNat] at same
      cases List.mem_singleton.1 member
      exact (same marks).symm
  · have none : ∀ letter ∈ ['ς', 'σ', 'i', Char.ofNat 775], isMark letter = false :=
      forall_mem_of_all (by decide)
    have foreign : ∀ form ∈ ['ς', 'σ', 'i', Char.ofNat 775], mark ≠ form := by
      rintro form among rfl
      rw [none _ among] at marks
      cases marks
    split at member
    · split at member <;> exact absurd (List.mem_singleton.1 member) (foreign _ (by simp))
    · split at member
      · rcases List.mem_pair.1 member with same | same <;> exact absurd same (foreign _ (by simp))
      · cases List.mem_singleton.1 member
        exact (lowerSimple_mark marks).symm

theorem infix_of_infix_append {marks form rest : List Char} {first : Char}
    (absent : first ∉ form) (part : first :: marks <:+: form ++ rest) :
    first :: marks <:+: rest := by
  induction form with
  | nil => exact part
  | cons letter others ih =>
      rw [List.mem_cons, not_or] at absent
      rcases List.infix_cons_iff.1 part with starts | later
      · exact absurd (List.cons_prefix_cons.1 starts).1 absent.1
      · exact ih absent.2 later

theorem slashed_of_lowerFrom {before text : List Char}
    (part : [':', '/'] <:+: lowerFrom before text) : [':', '/'] <:+: text := by
  induction text generalizing before with
  | nil => exact part
  | cons letter rest ih =>
      rw [lowerFrom] at part
      by_cases colon : letter = ':'
      · subst colon
        have form : lowerBetween before ':' rest = [':'] := rfl
        rw [form, List.singleton_append] at part
        rcases List.infix_cons_iff.1 part with starts | later
        · cases rest with
          | nil => simp [lowerFrom] at starts
          | cons next others =>
              obtain ⟨first, forms, form⟩ :=
                List.exists_cons_of_ne_nil (lowerBetween_ne_nil next (':' :: before) others)
              have behind := (List.cons_prefix_cons.1 starts).2
              rw [lowerFrom, form, List.cons_append, List.cons_prefix_cons] at behind
              obtain ⟨rfl, -⟩ := behind
              have member : '/' ∈ lowerBetween (':' :: before) next others := by simp [form]
              obtain rfl := eq_of_mem_lowerBetween rfl member
              exact ⟨[], others, rfl⟩
        · exact (ih later).trans (List.infix_cons (List.infix_refl _))
      · have absent : ':' ∉ lowerBetween before letter rest :=
          fun member => colon (eq_of_mem_lowerBetween rfl member)
        exact (ih (infix_of_infix_append absent part)).trans (List.infix_cons (List.infix_refl _))

theorem lowerWithin_ascii {text : List Char} (ascii : ∀ letter ∈ text, letter.toNat < 128)
    (before after : List Char) : lowerWithin before text after = text.map Char.toLower := by
  induction text generalizing before with
  | nil => rfl
  | cons letter rest ih =>
      rw [List.forall_mem_cons] at ascii
      rw [lowerWithin, ih ascii.2, lowerBetween, if_pos ascii.1]
      rfl

end Marks

end Walkthrough.Text
