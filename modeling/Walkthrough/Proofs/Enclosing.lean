import Walkthrough.Proofs.Casing
import Walkthrough.Proofs.Having
/-!
Where a selector is cut. What is in front of `:has(` holds no other one, and the parentheses of the
inner selector are told from the one that closes it by counting. So a selector that can be cut can
be cut in one way only, and it is cut there; nothing of it is lost but the blanks around what
follows.
Main statement: `splitHas_divides`.
-/

namespace Walkthrough

namespace Text

theorem not_infix_of_breakAt {pattern text before after : List Char} (filled : pattern ≠ [])
    (found : breakAt pattern text = some (before, after)) : ¬pattern <:+: before := by
  induction text generalizing before with
  | nil =>
      simp only [breakAt] at found
      split at found <;> simp_all
  | cons letter rest ih =>
      simp only [breakAt] at found
      split at found
      · cases found
        simpa using filled
      · next elsewhere =>
          obtain ⟨⟨front, last⟩, later, same⟩ := Option.map_eq_some_iff.1 found
          cases same
          intro inside
          rcases List.infix_cons_iff.1 inside with starts | further
          · -- a pattern that begins the part in front begins the whole text
            have whole : letter :: front <+: letter :: rest := by
              rw [breakAt_sound later, List.append_assoc]
              exact List.prefix_append (letter :: front) _
            exact elsewhere (List.isPrefixOf_iff_prefix.2 (starts.trans whole))
          · exact ih later further

end Text

namespace Selector

open Text

/-- Behind `depth` open parentheses the text closes no more than are open, wherever it is broken
off, and at its end all of them are closed. -/
structure Level (depth : Nat) (text : List Char) : Prop where
  within : ∀ front, front <+: text → front.count ')' ≤ front.count '(' + depth
  even : text.count ')' = text.count '(' + depth

section Levels

variable {depth : Nat} {letter : Char} {text : List Char}

theorem level_nil : Level depth [] ↔ depth = 0 := by
  constructor
  · intro level
    simpa using level.even.symm
  · rintro rfl
    exact ⟨by simp, rfl⟩

theorem forall_prefix_cons {holds : List Char → Prop} :
    (∀ front, front <+: letter :: text → holds front) ↔
      holds [] ∧ ∀ front, front <+: text → holds (letter :: front) := by
  constructor
  · intro all
    exact ⟨all [] List.nil_prefix, fun front starts => all _ ((List.prefix_cons_inj _).2 starts)⟩
  · rintro ⟨empty, all⟩ front starts
    rcases List.prefix_cons_iff.1 starts with rfl | ⟨rest, rfl, later⟩
    · exact empty
    · exact all rest later

theorem level_cons {after : Nat}
    (step : depth + [letter].count '(' = after + [letter].count ')') :
    Level depth (letter :: text) ↔ Level after text := by
  have counts (wanted : Char) (front : List Char) :
      (letter :: front).count wanted = [letter].count wanted + front.count wanted := by
    rw [← List.singleton_append, List.count_append]
  constructor
  · intro ⟨within, even⟩
    constructor
    · intro front starts
      have counted := (forall_prefix_cons.1 within).2 front starts
      rw [counts ')' front, counts '(' front] at counted
      omega
    · rw [counts ')' text, counts '(' text] at even
      omega
  · intro ⟨within, even⟩
    constructor
    · rw [forall_prefix_cons]
      refine ⟨Nat.zero_le _, fun front starts => ?_⟩
      have counted := within front starts
      rw [counts ')' front, counts '(' front]
      omega
    · rw [counts ')' text, counts '(' text]
      omega

theorem level_open : Level depth ('(' :: text) ↔ Level (depth + 1) text :=
  level_cons (by simp)

theorem level_close : Level (depth + 1) (')' :: text) ↔ Level depth text :=
  level_cons (by simp)

theorem level_letter (opens : letter ≠ '(') (closes : letter ≠ ')') :
    Level depth (letter :: text) ↔ Level depth text :=
  level_cons (by simp [opens, closes])

theorem not_level_close : ¬Level 0 (')' :: text) := by
  intro level
  have counted := level.within [')'] ⟨text, rfl⟩
  simp at counted

end Levels

section Closing

variable {depth : Nat} {text inner rest : List Char}

/-- The search stops at a parenthesis up to which the text is level. -/
theorem closing_of_level (level : Level depth inner) :
    closing depth (inner ++ ')' :: rest) = some (inner, rest) := by
  induction inner generalizing depth with
  | nil =>
      obtain rfl := level_nil.1 level
      simp [closing]
  | cons letter others ih =>
      rw [List.cons_append]
      by_cases opens : letter = '('
      · subst opens
        rw [closing_open, ih (level_open.1 level)]
        rfl
      by_cases closes : letter = ')'
      · subst closes
        cases depth with
        | zero => exact absurd level not_level_close
        | succ outer =>
            rw [closing_close, ih (level_close.1 level)]
            rfl
      · rw [closing_letter opens closes, ih ((level_letter opens closes).1 level)]
        rfl

theorem level_of_closing (found : closing depth text = some (inner, rest)) :
    text = inner ++ ')' :: rest ∧ Level depth inner := by
  induction text generalizing depth inner with
  | nil => cases found
  | cons letter others ih =>
      by_cases opens : letter = '('
      · subst opens
        rw [closing_open] at found
        obtain ⟨⟨within, _⟩, later, same⟩ := Option.map_eq_some_iff.1 found
        cases same
        obtain ⟨rfl, level⟩ := ih later
        exact ⟨rfl, level_open.2 level⟩
      by_cases closes : letter = ')'
      · subst closes
        cases depth with
        | zero =>
            cases found
            exact ⟨rfl, level_nil.2 rfl⟩
        | succ outer =>
            rw [closing_close] at found
            obtain ⟨⟨within, _⟩, later, same⟩ := Option.map_eq_some_iff.1 found
            cases same
            obtain ⟨rfl, level⟩ := ih later
            exact ⟨rfl, level_close.2 level⟩
      · rw [closing_letter opens closes] at found
        obtain ⟨⟨within, _⟩, later, same⟩ := Option.map_eq_some_iff.1 found
        cases same
        obtain ⟨rfl, level⟩ := ih later
        exact ⟨rfl, (level_letter opens closes).2 level⟩

end Closing

/-- A selector in its parts, before the blanks around the last one are dropped: in front of its
first `:has(`, in the parentheses, and behind the one that closes. -/
structure Division (selector base inner rest : String) : Prop where
  whole : selector = base ++ ":has(" ++ inner ++ ")" ++ rest
  first : ¬":has(".toList <:+: base.toList
  balanced : Level 0 inner.toList

section Dividing

variable {selector base inner after rest : String}

def divide (selector : List Char) : Option (List Char × List Char × List Char) :=
  (breakAt hasMark selector).bind fun found =>
    (closing 0 found.2).map fun inner => (found.1, inner.1, inner.2)

theorem splitHas_eq_divide (selector : String) :
    splitHas selector = (divide selector.toList).map fun parts =>
      ⟨String.ofList parts.1, String.ofList parts.2.1, trim (String.ofList parts.2.2)⟩ := by
  simp [splitHas, splitHasChars, divide, trim, Option.map_bind, Function.comp_def]

theorem division_iff :
    Division selector base inner rest ↔
      divide selector.toList = some (base.toList, inner.toList, rest.toList) := by
  constructor
  · intro ⟨whole, first, balanced⟩
    have plain : includes ":has(" base = false :=
      eq_false_of_ne_true fun found => first (includes_iff.1 found)
    have opens : breakAt hasMark (havingText base inner rest).toList = _ := breakAt_having plain
    rw [havingText, ← whole] at opens
    simp [divide, opens, closing_of_level balanced]
  · intro cut
    obtain ⟨⟨front, behind⟩, opens, closes⟩ := Option.bind_eq_some_iff.1 cut
    obtain ⟨⟨within, last⟩, found, same⟩ := Option.map_eq_some_iff.1 closes
    simp only [Prod.mk.injEq] at same
    obtain ⟨rfl, rfl, rfl⟩ := same
    obtain ⟨encloses, level⟩ := level_of_closing found
    dsimp only at encloses
    constructor
    · rw [← String.toList_inj, breakAt_sound opens, encloses]
      simp [hasMark]
    · exact not_infix_of_breakAt (by decide) opens
    · exact level

end Dividing

/-- A selector is cut at its first `:has(` and at the parenthesis that closes it, and nothing is
lost but the blanks around what follows. There is one way at most to divide it so, and if there is
none it is not cut. -/
theorem splitHas_divides (selector : String) :
    (∀ base inner after, splitHas selector = some ⟨base, inner, after⟩ ↔
      ∃ rest, Division selector base inner rest ∧ after = trim rest) ∧
    (∀ base inner rest, Division selector base inner rest →
      ∀ other within behind, Division selector other within behind →
        base = other ∧ inner = within ∧ rest = behind) ∧
    (splitHas selector = none ↔ ¬∃ base inner rest, Division selector base inner rest) := by
  refine ⟨fun base inner after => ?_, fun base inner rest here other within behind there => ?_, ?_⟩
  · rw [splitHas_eq_divide]
    constructor
    · intro cut
      obtain ⟨⟨front, middle, last⟩, divided, same⟩ := Option.map_eq_some_iff.1 cut
      cases same
      exact ⟨String.ofList last, division_iff.2 (by simp [divided]), rfl⟩
    · rintro ⟨rest, division, rfl⟩
      rw [division_iff.1 division]
      simp
  · have same := (division_iff.1 here).symm.trans (division_iff.1 there)
    simpa [String.toList_inj] using same
  · rw [splitHas_eq_divide, Option.map_eq_none_iff]
    constructor
    · rintro uncut ⟨base, inner, rest, division⟩
      cases uncut.symm.trans (division_iff.1 division)
    · intro undivided
      cases cut : divide selector.toList with
      | none => rfl
      | some parts =>
          have division : Division selector (String.ofList parts.1) (String.ofList parts.2.1)
              (String.ofList parts.2.2) := division_iff.2 (by simp [cut])
          exact absurd ⟨_, _, _, division⟩ undivided

/-- Parentheses of the inner selector, a second `:has(` and blanks at the end. -/
theorem nested_having_divided :
    ∃ base inner rest, Division "a:has(b:has(c) ) d) " base inner rest ∧
      ∀ other within behind, Division "a:has(b:has(c) ) d) " other within behind →
        base = other ∧ inner = within ∧ rest = behind := by
  obtain ⟨cuts, one, -⟩ := splitHas_divides "a:has(b:has(c) ) d) "
  obtain ⟨rest, division, -⟩ := (cuts "a" "b:has(c) " "d)").1 (by decide)
  exact ⟨_, _, rest, division, one _ _ rest division⟩

end Selector

end Walkthrough
