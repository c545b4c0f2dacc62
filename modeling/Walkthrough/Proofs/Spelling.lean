import Mathlib.Data.Bool.AllAny
import Walkthrough.Proofs.Filtering
/-!
A selector that is put together is cut where it was put together. The mark of a pseudo-class begins
with a colon and holds no other one, so no two marks overlap; and a needle without quotes is read up
to the quote or the parenthesis that closes it.
-/

namespace Walkthrough

namespace Selector

open Run Resolution Text

/-! Cutting at the first mark. -/

section Cutting

variable {α : Type} {first : Char} {tail front rest : List Char}
  {read : List Char → Option α}

theorem firstAfterStart_eq_none {letter : Char} (absent : breakAt (first :: tail) rest = none) :
    firstAfterStart (first :: tail) read (letter :: rest) = none := by
  induction rest generalizing letter with
  | nil => simp [firstAfterStart]
  | cons next others ih =>
      unfold breakAt at absent
      split at absent
      · cases absent
      next elsewhere =>
      unfold firstAfterStart
      rw [if_neg elsewhere, ih (Option.map_eq_none_iff.1 absent)]
      rfl

theorem not_prefix_before (once : first ∉ tail) (filled : front ≠ [])
    (before : breakAt (first :: tail) front = none) :
    ¬(first :: tail).isPrefixOf (front ++ (first :: tail ++ rest)) := by
  intro here
  obtain ⟨letter, others, rfl⟩ := List.exists_cons_of_ne_nil filled
  have found := breakAt_append once rest before
  rw [List.cons_append] at found here
  unfold breakAt at found
  rw [if_pos here] at found
  cases found

theorem firstAfterStart_append (once : first ∉ tail) (filled : front ≠ [])
    (before : breakAt (first :: tail) front = none) :
    firstAfterStart (first :: tail) read (front ++ (first :: tail ++ rest)) =
      ((read rest).map fun found => (front, found)).or
        ((firstAfterStart (first :: tail) read (first :: tail ++ rest)).map fun later =>
          (front ++ later.1, later.2)) := by
  induction front with
  | nil => exact absurd rfl filled
  | cons letter others ih =>
      have absent := breakAt_tail_eq_none before
      rw [List.cons_append]
      conv_lhs => unfold firstAfterStart
      cases others with
      | nil =>
          rw [List.nil_append, if_pos (by simp), List.drop_left]
          cases read rest <;> rfl
      | cons next more =>
          rw [if_neg (not_prefix_before once (by simp) absent), ih (by simp) absent]
          cases read rest with
          | some found => rfl
          | none => simp [Function.comp_def]

theorem firstAfterStart_once (once : first ∉ tail) (filled : front ≠ [])
    (before : breakAt (first :: tail) front = none)
    (behind : breakAt (first :: tail) rest = none) :
    firstAfterStart (first :: tail) read (front ++ (first :: tail ++ rest)) =
      (read rest).map fun found => (front, found) := by
  have later : firstAfterStart (first :: tail) read (first :: tail ++ rest) = none :=
    firstAfterStart_eq_none (breakAt_append_left_eq_none once behind)
  rw [firstAfterStart_append once filled before, later, Option.map_none, Option.or_none]

end Cutting

/-! Marks and quotes. -/

section Marks

variable {quote base needle mark : String} {filter : TextFilter}

/-- Every mark is a colon and a name, with nothing in the name that begins or ends a needle. -/
theorem custom_form (custom : mark ∈ customMarks) :
    ∃ tail, mark.toList = ':' :: tail ∧ ':' ∉ tail ∧ ')' ∉ tail ∧
      ∀ letter ∈ tail, isQuote letter = false := by
  have known : mark = ":contains(" ∨ mark = ":has(" ∨ mark = ":text(" ∨ mark = ":nth-match(" := by
    simpa [customMarks] using custom
  rcases known with rfl | rfl | rfl | rfl
  · exact ⟨"contains(".toList, rfl, by decide, by decide, List.all_iff_forall_prop.1 (by decide)⟩
  · exact ⟨"has(".toList, rfl, by decide, by decide, List.all_iff_forall_prop.1 (by decide)⟩
  · exact ⟨"text(".toList, rfl, by decide, by decide, List.all_iff_forall_prop.1 (by decide)⟩
  · exact ⟨"nth-match(".toList, rfl, by decide, by decide, List.all_iff_forall_prop.1 (by decide)⟩

theorem custom_apart : ∀ mark ∈ customMarks, ∀ other ∈ customMarks,
    mark.toList.isPrefixOf other.toList = true → mark = other := by
  decide

theorem TextFilter.mark_custom (filter : TextFilter) : filter.mark ∈ customMarks := by
  cases filter <;> decide

theorem absent_of_plain {text : String} (plain : hasCustomMark text = false)
    (custom : mark ∈ customMarks) : breakAt mark.toList text.toList = none := by
  rw [← breakAt_eq_none_iff]
  exact eq_false_of_ne_true (List.any_eq_false.1 plain mark custom)

theorem absent_around {other : String} {front behind : List Char} (custom : mark ∈ customMarks)
    (also : other ∈ customMarks) (distinct : mark ≠ other)
    (before : breakAt mark.toList front = none) (after : breakAt mark.toList behind = none) :
    breakAt mark.toList (front ++ (other.toList ++ behind)) = none := by
  have not_here : ¬mark.toList <+: other.toList ++ behind := by
    intro here
    rcases List.prefix_or_prefix_of_prefix here (List.prefix_append other.toList _) with
      inside | inside
    · exact distinct (custom_apart _ custom _ also (List.isPrefixOf_iff_prefix.2 inside))
    · exact distinct.symm (custom_apart _ also _ custom
        (List.isPrefixOf_iff_prefix.2 inside))
  obtain ⟨name, named, single, -⟩ := custom_form also
  obtain ⟨tail, form, once, -⟩ := custom_form custom
  rw [form] at not_here before after ⊢
  rw [named, List.cons_append] at not_here ⊢
  refine breakAt_append_eq_none once before ?_
  unfold breakAt
  rw [if_neg (mt List.isPrefixOf_iff_prefix.1 not_here), breakAt_append_left_eq_none single after]
  rfl

theorem ne_quote {quote letter : Char} (quotes : isQuote quote = true)
    (plain : isQuote letter = false) : letter ≠ quote := by
  rintro rfl
  rw [quotes] at plain
  cases plain

theorem quote_not_mem {quote : Char} {text : List Char} (quotes : isQuote quote = true)
    (plain : ∀ letter ∈ text, isQuote letter = false) : quote ∉ text :=
  fun member => ne_quote quotes (plain quote member) rfl

theorem quoting_cases (known : quote ∈ ["", "\"", "'"]) :
    quote.toList = [] ∨ ∃ letter, isQuote letter = true ∧ quote.toList = [letter] := by
  simp only [List.mem_cons, List.not_mem_nil, or_false] at known
  rcases known with rfl | rfl | rfl
  · exact .inl rfl
  · exact .inr ⟨'"', by decide, rfl⟩
  · exact .inr ⟨'\'', by decide, rfl⟩

/-! A filter by text. -/

def TextFilter.spelled (filter : TextFilter) (quote base needle : String) : String :=
  base ++ (filter.mark ++ quote ++ needle ++ quote ++ ")")

def enclosed (quote needle : String) : List Char :=
  quote.toList ++ (needle.toList ++ (quote.toList ++ [')']))

theorem spelled_toList (filter : TextFilter) (quote base needle : String) :
    (filter.spelled quote base needle).toList =
      base.toList ++ (filter.mark.toList ++ enclosed quote needle) := by
  simp [TextFilter.spelled, enclosed]

theorem absent_enclosed (custom : mark ∈ customMarks) (known : quote ∈ ["", "\"", "'"])
    (needle_plain : hasCustomMark needle = false) :
    breakAt mark.toList (enclosed quote needle) = none := by
  have absent := absent_of_plain needle_plain custom
  obtain ⟨tail, form, -, unclosed, unquoted⟩ := custom_form custom
  rw [form] at absent ⊢
  have closes : breakAt (':' :: tail) [')'] = none := breakAt_cons_eq_none (by decide) rfl
  unfold enclosed
  rcases quoting_cases known with bare | ⟨letter, quotes, quoted⟩
  · rw [bare]
    exact breakAt_append_eq_none unclosed absent closes
  · have other : letter ≠ ':' := (ne_quote quotes (by decide)).symm
    rw [quoted]
    exact breakAt_cons_eq_none other (breakAt_append_eq_none (quote_not_mem quotes unquoted) absent
      (breakAt_cons_eq_none other closes))

theorem absent_spelled (custom : mark ∈ customMarks) (distinct : mark ≠ filter.mark)
    (known : quote ∈ ["", "\"", "'"]) (base_plain : hasCustomMark base = false)
    (needle_plain : hasCustomMark needle = false) :
    breakAt mark.toList (filter.spelled quote base needle).toList = none := by
  rw [spelled_toList]
  exact absent_around custom filter.mark_custom distinct (absent_of_plain base_plain custom)
    (absent_enclosed custom known needle_plain)

theorem breakAt_spelled (filter : TextFilter) (base_plain : hasCustomMark base = false) :
    breakAt filter.mark.toList (filter.spelled quote base needle).toList =
      some (base.toList, enclosed quote needle) := by
  rw [spelled_toList]
  have front := absent_of_plain base_plain filter.mark_custom
  obtain ⟨name, named, single, -⟩ := custom_form filter.mark_custom
  rw [named] at front ⊢
  exact breakAt_append single _ front

theorem splitFilter_spelled (filter : TextFilter) (known : quote ∈ ["", "\"", "'"])
    (base_plain : hasCustomMark base = false) (needle_plain : hasCustomMark needle = false)
    (read : List Char → Option (List Char × List Char)) :
    splitFilter filter.mark read (filter.spelled quote base needle) =
      if base = "" then none
      else (read (enclosed quote needle)).map fun found =>
        ⟨base, String.ofList found.1, String.ofList found.2⟩ := by
  have front := absent_of_plain base_plain filter.mark_custom
  have behind := absent_enclosed filter.mark_custom known needle_plain
  obtain ⟨name, named, single, -⟩ := custom_form filter.mark_custom
  rw [splitFilter, spelled_toList]
  rw [named] at front behind ⊢
  split
  · next empty =>
      rw [empty, String.toList_empty, List.nil_append, List.cons_append,
        firstAfterStart_eq_none (breakAt_append_left_eq_none single behind)]
      rfl
  · next filled =>
      rw [firstAfterStart_once single (by simpa using filled) front behind, Option.map_map]
      simp [Function.comp_def]

theorem filterOf_spelled (filter : TextFilter) (known : quote ∈ ["", "\"", "'"])
    (base_plain : hasCustomMark base = false) (needle_plain : hasCustomMark needle = false) :
    filterOf? (filter.spelled quote base needle) = some filter := by
  have absent (mark : String) (custom : mark ∈ customMarks) (distinct : mark ≠ filter.mark) :
      breakAt mark.toList (filter.spelled quote base needle).toList = none :=
    absent_spelled custom distinct known base_plain needle_plain
  have present := @breakAt_spelled quote base needle filter base_plain
  have indexed := absent ":nth-match(" (by decide) (by cases filter <;> decide)
  have having := absent ":has(" (by decide) (by cases filter <;> decide)
  have unused {mark text : String} (gone : breakAt mark.toList text.toList = none) :
      usesMark mark text = false := by
    rw [usesMark, gone]
  unfold filterOf?
  rw [breakAt_eq_none_iff.2 indexed, unused having, breakAt_eq_none_iff.2 having]
  cases filter with
  | whole =>
      have used : usesMark ":contains(" (TextFilter.whole.spelled quote base needle) = true := by
        unfold usesMark
        rw [show ":contains(" = TextFilter.whole.mark from rfl, present]
        simp [enclosed]
      rw [used]
      rfl
  | direct =>
      have used : includes ":text(" (TextFilter.direct.spelled quote base needle) = true := by
        rw [includes, includesChars, show ":text(" = TextFilter.direct.mark from rfl, present]
        rfl
      rw [unused (absent ":contains(" (by decide) (by decide)), used]
      rfl

theorem balanced_spelled (filter : TextFilter) (known : quote ∈ ["", "\"", "'"])
    (base_balanced : Balanced base.toList) (needle_balanced : Balanced needle.toList) :
    Balanced (filter.spelled quote base needle).toList := by
  have quotes : Balanced quote.toList := by
    rcases quoting_cases known with bare | ⟨letter, quotes, quoted⟩
    · rw [bare]
      exact .nil
    · rw [quoted]
      exact .letter (ne_quote quotes (by decide)).symm (ne_quote quotes (by decide)).symm .nil
  obtain ⟨name, named, plain⟩ : ∃ name, filter.mark.toList = name ++ ['('] ∧ Balanced name := by
    cases filter with
    | whole =>
        exact ⟨":contains".toList, rfl, balanced_of_plain (List.all_iff_forall_prop.1 (by decide))⟩
    | direct =>
        exact ⟨":text".toList, rfl, balanced_of_plain (List.all_iff_forall_prop.1 (by decide))⟩
  have regroup : (filter.spelled quote base needle).toList = base.toList ++ (name ++
      ('(' :: (quote.toList ++ (needle.toList ++ quote.toList)) ++ ')' :: [])) := by
    simp [spelled_toList, enclosed, named]
  rw [regroup]
  exact base_balanced.append (plain.append
    (.group (quotes.append (needle_balanced.append quotes)) .nil))

/-! The needle is read. -/

theorem readInQuotes_needle {allowed : Char → Bool} {letter : Char} {text rest : List Char}
    (all : ∀ letter ∈ text, allowed letter = true) (stops : allowed letter = false) :
    readInQuotes allowed letter (text ++ letter :: ')' :: rest) = some (text, rest) := by
  unfold readInQuotes
  rw [takeWhile_append_stop all stops]
  dsimp only
  rw [List.drop_left]
  simp

theorem head_not_quote {text : List Char} (unquoted : ∀ letter ∈ text, isQuote letter = false) :
    ∃ first rest, text ++ [')'] = first :: rest ∧ isQuote first = false := by
  cases text with
  | nil => exact ⟨')', [], rfl, by decide⟩
  | cons first rest => exact ⟨first, rest ++ [')'], rfl, unquoted first List.mem_cons_self⟩

theorem readShort_enclosed (known : quote ∈ ["", "\"", "'"])
    (unquoted : ∀ letter ∈ needle.toList, isQuote letter = false)
    (unclosed : ')' ∉ needle.toList) :
    readShort (enclosed quote needle) = some (needle.toList, []) := by
  have all : ∀ letter ∈ needle.toList, (!isQuote letter && letter != ')') = true := by
    intro letter member
    have other : letter ≠ ')' := fun same => unclosed (same ▸ member)
    simp [unquoted letter member, other]
  unfold enclosed
  rcases quoting_cases known with bare | ⟨letter, quotes, quoted⟩
  · obtain ⟨first, rest, same, plain⟩ := head_not_quote unquoted
    have taken : (needle.toList ++ [')']).takeWhile
        (fun letter => !isQuote letter && letter != ')') = needle.toList :=
      takeWhile_append_stop all (by decide)
    rw [bare, List.nil_append, List.nil_append]
    rw [same] at taken ⊢
    unfold readShort
    dsimp only
    rw [if_neg (by simp [plain]), taken, ← same, List.drop_left]
    rfl
  · rw [quoted]
    unfold readShort
    dsimp only [List.cons_append, List.nil_append]
    rw [if_pos quotes]
    exact readInQuotes_needle all (by simp [quotes])

theorem breakAtLastClose_append (text : List Char) :
    breakAtLastClose (text ++ [')']) = some (text, []) := by
  simp [breakAtLastClose]

theorem readLong_enclosed (known : quote ∈ ["", "\"", "'"])
    (unquoted : ∀ letter ∈ needle.toList, isQuote letter = false) :
    readLong (enclosed quote needle) = some (needle.toList, []) := by
  have all : ∀ letter ∈ needle.toList, (!isQuote letter) = true := by
    intro letter member
    simp [unquoted letter member]
  unfold enclosed
  rcases quoting_cases known with bare | ⟨letter, quotes, quoted⟩
  · obtain ⟨first, rest, same, plain⟩ := head_not_quote unquoted
    have taken : (needle.toList ++ [')']).takeWhile (fun letter => !isQuote letter) =
        needle.toList ++ [')'] := by
      rw [List.takeWhile_append_of_pos all]
      rfl
    rw [bare, List.nil_append, List.nil_append]
    rw [same] at taken ⊢
    unfold readLong
    dsimp only
    rw [if_neg (by simp [plain]), taken, ← same, breakAtLastClose_append]
    simp
  · rw [quoted]
    unfold readLong
    dsimp only [List.cons_append, List.nil_append]
    rw [if_pos quotes]
    exact readInQuotes_needle all (by simp [quotes])

end Marks

end Selector

end Walkthrough
