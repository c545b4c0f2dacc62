import Mathlib.Data.List.DropRight
import Walkthrough.Text.Pieces
/-!
What trimming leaves of a text, and the pieces of two texts with a separator between them.
-/

namespace Walkthrough.Text

theorem trimChars_eq_nil_iff {text : List Char} :
    trimChars text = [] ↔ text.all isBlank = true := by
  have cuts : trimChars text = (text.dropWhile isBlank).rdropWhile isBlank := rfl
  rw [cuts, List.rdropWhile_eq_nil_iff, List.all_eq_true]
  constructor
  · intro blank letter member
    rw [← List.takeWhile_append_dropWhile (p := isBlank) (l := text)] at member
    rcases List.mem_append.1 member with dropped | kept
    · exact List.mem_takeWhile_imp dropped
    · exact blank letter kept
  · exact fun blank letter member => blank letter ((List.dropWhile_suffix _).subset member)

theorem trimChars_trimChars (text : List Char) : trimChars (trimChars text) = trimChars text := by
  have left : trimLeft (trimChars text) = trimChars text := by
    rw [trimLeft, List.dropWhile_eq_self_iff]
    intro filled
    have start : trimChars text <+: text.dropWhile isBlank := List.rdropWhile_prefix isBlank _
    rw [start.getElem filled]
    exact List.dropWhile_get_zero_not isBlank text (filled.trans_le start.length_le)
  have right : trimRight (trimChars text) = trimChars text :=
    List.rdropWhile_idempotent isBlank (text.dropWhile isBlank)
  rw [trimChars, left, right]

theorem trimChars_subset (text : List Char) : trimChars text ⊆ text := by
  intro letter member
  have kept : letter ∈ text.dropWhile isBlank := (List.rdropWhile_prefix isBlank _).subset member
  exact (List.dropWhile_suffix isBlank).subset kept

theorem trimChars_around {before solid : List Char} (blank : before.all isBlank = true)
    (filled : solid ≠ []) (visible : ∀ letter ∈ solid, isBlank letter = false)
    (rest : List Char) : trimChars (before ++ (solid ++ rest)) = solid ++ trimRight rest := by
  have left : trimLeft (before ++ (solid ++ rest)) = solid ++ rest := by
    rw [trimLeft, List.dropWhile_append_of_pos (List.all_eq_true.1 blank)]
    obtain ⟨letter, others, rfl⟩ := List.exists_cons_of_ne_nil filled
    exact List.dropWhile_cons_of_neg (by simp [visible letter List.mem_cons_self])
  have alone : solid.reverse.dropWhile isBlank = solid.reverse := by
    rw [List.dropWhile_eq_self_iff]
    intro first
    have inside : solid.reverse[0] ∈ solid := List.mem_reverse.1 (List.getElem_mem first)
    rw [visible _ inside]
    exact Bool.false_ne_true
  rw [trimChars, left, trimRight, trimRight, List.reverse_append, List.dropWhile_append, alone]
  split
  · next nothing => simp [List.isEmpty_iff.1 nothing]
  · simp

theorem trimChars_append_blank {blanks : List Char} (blank : blanks.all isBlank = true)
    (text : List Char) : trimChars (text ++ blanks) = trimChars text := by
  have right (front : List Char) : trimRight (front ++ blanks) = trimRight front := by
    have passed : ∀ letter ∈ blanks.reverse, isBlank letter = true := by simpa using blank
    rw [trimRight, List.reverse_append, List.dropWhile_append_of_pos passed, trimRight]
  rw [trimChars, trimLeft, List.dropWhile_append, trimChars, trimLeft]
  split
  · next nothing =>
      rw [List.isEmpty_iff.1 nothing, List.dropWhile_eq_nil_iff.2 (List.all_eq_true.1 blank)]
  · exact right _

theorem trimChars_trimRight (text : List Char) : trimChars (trimRight text) = trimChars text := by
  have parts : trimRight text ++ text.rtakeWhile isBlank = text :=
    List.rdropWhile_append_rtakeWhile
  have blank : (text.rtakeWhile isBlank).all isBlank = true :=
    List.all_eq_true.2 fun _ => List.mem_rtakeWhile_imp
  calc trimChars (trimRight text)
      = trimChars (trimRight text ++ text.rtakeWhile isBlank) :=
        (trimChars_append_blank blank _).symm
    _ = trimChars text := by rw [parts]

theorem trim_trim (text : String) : trim (trim text) = trim text := by
  simp [trim, trimChars_trimChars]

theorem trim_eq_empty_iff {text : String} : trim text = "" ↔ allBlank text = true := by
  rw [allBlank, ← trimChars_eq_nil_iff, trim, ← String.toList_inj]
  simp

theorem cut_append_cons {separates : Char → Bool} {mark : Char} (marks : separates mark = true)
    (left right : List Char) :
    cut separates (left ++ mark :: right) = cut separates left ++ cut separates right := by
  induction left with
  | nil => simp [cut, marks]
  | cons letter rest ih =>
      simp only [List.cons_append, cut, ih]
      split
      · rfl
      · -- the letter belongs to the first piece of the rest, and there is one
        cases pieces : cut separates rest with
        | nil => exact absurd pieces (cut_ne_nil _ _)
        | cons piece others => rfl

theorem cut_append_of_plain {separates : Char → Bool} {text : List Char}
    (plain : ∀ letter ∈ text, separates letter = false) (rest : List Char) :
    ∃ piece pieces, cut separates rest = piece :: pieces ∧
      cut separates (text ++ rest) = (text ++ piece) :: pieces := by
  obtain ⟨piece, pieces, whole⟩ := List.exists_cons_of_ne_nil (cut_ne_nil separates rest)
  refine ⟨piece, pieces, whole, ?_⟩
  induction text with
  | nil => exact whole
  | cons letter others ih =>
      obtain ⟨here, later⟩ := List.forall_mem_cons.1 plain
      simp [cut, here, ih later]

theorem cut_of_plain {separates : Char → Bool} {text : List Char}
    (plain : ∀ letter ∈ text, separates letter = false) : cut separates text = [text] := by
  obtain ⟨piece, pieces, empty, whole⟩ := cut_append_of_plain plain []
  cases empty
  simpa using whole

theorem plain_of_mem_cut {separates : Char → Bool} {text piece : List Char}
    (member : piece ∈ cut separates text) : ∀ letter ∈ piece, separates letter = false := by
  induction text generalizing piece with
  | nil => simp_all [cut]
  | cons letter rest ih =>
      simp only [cut] at member
      split at member
      · rcases List.mem_cons.1 member with rfl | later
        · simp
        · exact ih later
      · next here =>
          obtain ⟨first, others, pieces⟩ :=
            List.exists_cons_of_ne_nil (cut_ne_nil separates rest)
          rw [pieces] at member ih
          rcases List.mem_cons.1 member with rfl | later
          · rw [List.forall_mem_cons]
            exact ⟨by simpa using here, ih List.mem_cons_self⟩
          · exact ih (List.mem_cons_of_mem _ later)

end Walkthrough.Text
