import Walkthrough.Text.Pieces
/-!
Where a text is broken at a pattern. What stands in front of the first occurrence holds none, and a
pattern that cannot overlap with itself is found where two texts were joined by it.
-/

namespace Walkthrough.Text

theorem breakAt_isSome {pattern text : List Char} (starts : pattern <+: text) :
    (breakAt pattern text).isSome = true := by
  cases text with
  | nil =>
      obtain rfl := List.prefix_nil.1 starts
      rfl
  | cons letter rest =>
      unfold breakAt
      rw [if_pos (List.isPrefixOf_iff_prefix.2 starts)]
      rfl

theorem includesChars_iff {pattern text : List Char} :
    includesChars pattern text = true ↔ pattern <:+: text := by
  constructor
  · intro found
    obtain ⟨⟨before, after⟩, broken⟩ := Option.isSome_iff_exists.1 found
    exact ⟨before, after, (breakAt_sound broken).symm⟩
  · intro part
    induction text with
    | nil =>
        obtain rfl := List.infix_nil.1 part
        rfl
    | cons letter rest ih =>
        rcases List.infix_cons_iff.1 part with starts | later
        · exact breakAt_isSome starts
        · unfold includesChars breakAt
          split
          · rfl
          · rw [Option.isSome_map]
            exact ih later

theorem includes_iff {pattern text : String} :
    includes pattern text = true ↔ pattern.toList <:+: text.toList :=
  includesChars_iff

theorem not_prefix_append {first letter head : Char} {tail others rest : List Char}
    (apart : letter ∉ tail) (elsewhere : ¬(first :: tail).isPrefixOf (head :: others)) :
    ¬(first :: tail).isPrefixOf (head :: others ++ letter :: rest) := by
  intro starts
  have here := List.isPrefixOf_iff_prefix.1 starts
  rcases List.prefix_or_prefix_of_prefix here (List.prefix_append (head :: others) _) with
    inside | ⟨more, same⟩
  · exact elsewhere (List.isPrefixOf_iff_prefix.2 inside)
  rw [← same] at here
  have continues := (List.prefix_append_right_inj (head :: others)).1 here
  cases more with
  | nil =>
      rw [List.append_nil] at same
      exact elsewhere (by simp [same])
  | cons next _ =>
      -- the pattern would go on with the letter
      obtain rfl : next = letter := (List.cons_prefix_cons.1 continues).1
      apply apart
      rw [← (List.cons.inj same).2]
      simp

/-- The first occurrence of a pattern is the one behind a text without any, if the pattern cannot
overlap with itself because its first letter stands there once. -/
theorem breakAt_append {first : Char} {tail front : List Char} (once : first ∉ tail)
    (rest : List Char) (absent : breakAt (first :: tail) front = none) :
    breakAt (first :: tail) (front ++ (first :: tail ++ rest)) = some (front, rest) := by
  induction front with
  | nil => simp [breakAt]
  | cons letter others ih =>
      unfold breakAt at absent
      split at absent
      · cases absent
      next elsewhere =>
      have not_here : ¬(first :: tail).isPrefixOf (letter :: others ++ (first :: tail ++ rest)) :=
        not_prefix_append once elsewhere
      have later := ih (Option.map_eq_none_iff.1 absent)
      rw [List.cons_append] at not_here ⊢
      unfold breakAt
      rw [if_neg not_here, later]
      rfl

section Occurrences

variable {first letter : Char} {tail front rest : List Char}

theorem breakAt_append_eq_none (apart : letter ∉ tail)
    (absent : breakAt (first :: tail) front = none)
    (later : breakAt (first :: tail) (letter :: rest) = none) :
    breakAt (first :: tail) (front ++ letter :: rest) = none := by
  induction front with
  | nil => exact later
  | cons head others ih =>
      unfold breakAt at absent
      split at absent
      · cases absent
      next elsewhere =>
      have not_here : ¬(first :: tail).isPrefixOf (head :: others ++ letter :: rest) :=
        not_prefix_append apart elsewhere
      rw [List.cons_append] at not_here ⊢
      unfold breakAt
      rw [if_neg not_here, ih (Option.map_eq_none_iff.1 absent)]
      rfl

theorem breakAt_cons_eq_none (other : letter ≠ first)
    (absent : breakAt (first :: tail) rest = none) :
    breakAt (first :: tail) (letter :: rest) = none := by
  unfold breakAt
  rw [if_neg (by simp [Ne.symm other]), absent]
  rfl

theorem breakAt_tail_eq_none (absent : breakAt (first :: tail) (letter :: rest) = none) :
    breakAt (first :: tail) rest = none := by
  unfold breakAt at absent
  split at absent
  · cases absent
  · exact Option.map_eq_none_iff.1 absent

theorem breakAt_append_left_eq_none (others : first ∉ front)
    (absent : breakAt (first :: tail) rest = none) :
    breakAt (first :: tail) (front ++ rest) = none := by
  induction front with
  | nil => exact absent
  | cons letter front ih =>
      obtain ⟨other, others⟩ := not_or.1 (mt List.mem_cons.2 others)
      exact breakAt_cons_eq_none (Ne.symm other) (ih others)

theorem breakAt_eq_none_of_not_mem {pattern text : List Char} {letter : Char}
    (member : letter ∈ pattern) (absent : letter ∉ text) : breakAt pattern text = none := by
  cases found : breakAt pattern text with
  | none => rfl
  | some parts =>
      rw [breakAt_sound found] at absent
      exact absurd (List.mem_append_left _ (List.mem_append_right _ member)) absent

theorem breakAt_eq_none_iff {pattern text : String} :
    includes pattern text = false ↔ breakAt pattern.toList text.toList = none := by
  rw [includes, includesChars, Option.isSome_eq_false_iff, Option.isNone_iff_eq_none]

end Occurrences

end Walkthrough.Text
