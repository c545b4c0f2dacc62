import Walkthrough.Proofs.Occurrences
import Walkthrough.Proofs.Ordering
/-!
What `base:has(inner)after` finds on a page that does not understand it but understands its parts.
The selector is cut at the first `:has(` and at the parenthesis that closes it, whatever balanced
parentheses there are in between, and blanks around the trailing part are dropped. So the trailing
part is always looked for inside the containers, also where it stands close to the parenthesis.
Main statement: `resolve_having`.
-/

namespace Walkthrough

namespace Selector

open Run Resolution Text

/-- Every parenthesis has its other half. -/
inductive Balanced : List Char → Prop where
  | nil : Balanced []
  | letter {letter rest} (opens : letter ≠ '(') (closes : letter ≠ ')') (balanced : Balanced rest) :
      Balanced (letter :: rest)
  | group {inside rest} (inner : Balanced inside) (outer : Balanced rest) :
      Balanced ('(' :: inside ++ ')' :: rest)

theorem Balanced.append {first second : List Char} (balanced : Balanced first)
    (also : Balanced second) : Balanced (first ++ second) := by
  induction balanced with
  | nil => exact also
  | letter opens closes _ ih => exact .letter opens closes ih
  | @group inside rest inner _ _ outer =>
      have regroup : '(' :: inside ++ ')' :: rest ++ second =
          '(' :: inside ++ ')' :: (rest ++ second) := by simp
      rw [regroup]
      exact .group inner outer

theorem balanced_of_plain {text : List Char}
    (plain : ∀ letter ∈ text, letter ≠ '(' ∧ letter ≠ ')') : Balanced text := by
  induction text with
  | nil => exact .nil
  | cons letter rest ih =>
      obtain ⟨⟨opens, closes⟩, others⟩ := List.forall_mem_cons.1 plain
      exact .letter opens closes (ih others)

theorem closing_letter {letter : Char} (opens : letter ≠ '(') (closes : letter ≠ ')') (depth : Nat)
    (rest : List Char) :
    closing depth (letter :: rest) =
      (closing depth rest).map fun found => (letter :: found.1, found.2) := by
  rw [closing.eq_def]
  simp only [if_neg opens, if_neg closes]

theorem closing_open (depth : Nat) (rest : List Char) :
    closing depth ('(' :: rest) =
      (closing (depth + 1) rest).map fun found => ('(' :: found.1, found.2) := by
  rw [closing.eq_def]
  simp only [if_true]

theorem closing_close (depth : Nat) (rest : List Char) :
    closing (depth + 1) (')' :: rest) =
      (closing depth rest).map fun found => (')' :: found.1, found.2) := by
  rw [closing.eq_def]
  simp

theorem closing_append {text : List Char} (balanced : Balanced text) (depth : Nat)
    (rest : List Char) :
    closing depth (text ++ rest) =
      (closing depth rest).map fun found => (text ++ found.1, found.2) := by
  induction balanced generalizing depth rest with
  | nil => simp
  | letter opens closes _ ih =>
      rw [List.cons_append, closing_letter opens closes, ih, Option.map_map]
      rfl
  | @group inside others _ _ inner outer =>
      have regroup : '(' :: inside ++ ')' :: others ++ rest =
          '(' :: (inside ++ ')' :: (others ++ rest)) := by simp
      rw [regroup, closing_open, inner, closing_close, outer]
      simp [Option.map_map, Function.comp_def]

def havingText (base inner after : String) : String :=
  base ++ ":has(" ++ inner ++ ")" ++ after

theorem havingText_toList (base inner after : String) :
    (havingText base inner after).toList =
      base.toList ++ (hasMark ++ (inner.toList ++ ')' :: after.toList)) := by
  simp [havingText, hasMark]

section Cutting

variable {base inner after : String}

theorem breakAt_having (first : includes ":has(" base = false) :
    breakAt hasMark (havingText base inner after).toList =
      some (base.toList, inner.toList ++ ')' :: after.toList) := by
  have not_found : (breakAt hasMark base.toList).isSome = false := first
  have absent : breakAt hasMark base.toList = none := by
    rwa [Option.isSome_eq_false_iff, Option.isNone_iff_eq_none] at not_found
  rw [havingText_toList]
  exact breakAt_append (by decide) _ absent

theorem splitHas_having (first : includes ":has(" base = false)
    (balanced : Balanced inner.toList) :
    splitHas (havingText base inner after) = some ⟨base, inner, trim after⟩ := by
  have closes : closing 0 (inner.toList ++ ')' :: after.toList) =
      some (inner.toList, after.toList) := by
    rw [closing_append balanced]
    simp [closing]
  simp [splitHas, splitHasChars, breakAt_having first, closes, trim]

theorem usesMark_having (first : includes ":has(" base = false) :
    usesMark ":has(" (havingText base inner after) = true := by
  have found : breakAt ":has(".toList (havingText base inner after).toList = _ :=
    breakAt_having first
  unfold usesMark
  rw [found]
  simp

end Cutting

end Selector

def Turn.Broken (turn : Turn) : Prop :=
  ∃ selector root fault, turn = ⟨.page (.query selector root), .error fault⟩ ∧
    fault.isSelectorSyntax = false

def Landscape.Having (page : Landscape) (base inner : String) (root : Option Element)
    (element : Element) : Prop :=
  element ∈ page.found base root ∧
    ∃ descendant, page.inside element descendant = true ∧ page.suits inner descendant = true

theorem Landscape.Told.reply_eq {page : Landscape} {selector : String} {root : Option Element}
    {reply : Except Fault (List Element)}
    (told : page.Told ⟨.page (.query selector root), reply⟩)
    (whole : ¬Turn.Broken ⟨.page (.query selector root), reply⟩)
    (known : page.understands selector = true) : reply = .ok (page.found selector root) := by
  cases reply with
  | ok found => rw [(told.finds _ _ _ rfl).2]
  | error fault =>
      have other : fault.isSelectorSyntax = false := by
        apply eq_false_of_ne_true
        intro refused
        have unknown := told.refuses _ _ _ rfl refused
        rw [known] at unknown
        cases unknown
      exact absurd ⟨_, _, _, rfl, other⟩ whole

theorem Landscape.holds_iff (page : Landscape) {inner : String} {container : Element}
    (known : page.understands inner = true) :
    page.holds inner container = true ↔
      ∃ descendant, page.inside container descendant = true ∧
        page.suits inner descendant = true := by
  rw [holds, known, Bool.true_and, Bool.not_eq_true', List.isEmpty_eq_false_iff_exists_mem]
  simp only [page.mem_found_within]

namespace Selector

open Run Resolution Text

section Failing

variable {before after : Records} {trace : List Turn} {parts : HasParts} {container : Element}
  {containers : List Element} {fault : Fault}

theorem broken_of_unlessRefused {α : Type} {selector : String} {root : Option Element}
    (next : List Element → α) {otherwise : α}
    (held : (unlessRefused (query selector root >>= fun found => pure (next found))
      (pure otherwise)).Held before trace after (.error fault)) :
    ∃ turn ∈ trace, turn.Broken := by
  rcases held_unlessRefused.1 held with ⟨_, -, same⟩ | ⟨_, _, _, _, -, -, passed, -⟩ |
    ⟨_, other, failed, same⟩
  · cases same
  · exact (not_held_pure_error passed).elim
  · cases same
    obtain ⟨rfl, -⟩ := held_page.1 (held_bind_pure_error.1 failed)
    exact ⟨_, List.mem_cons_self, _, _, _, rfl, other⟩

theorem broken_of_qualified (plain : includes ":contains(" parts.inner = false)
    (held : (qualified parts container).Held before trace after (.error fault)) :
    ∃ turn ∈ trace, turn.Broken := by
  rcases held_bind.1 held with ⟨chosen, first, _, second, -, tail, rfl⟩ | ⟨_, failed, same⟩
  · split at tail
    · split at tail
      · exact (not_held_pure_error tail).elim
      · obtain ⟨turn, member, broken⟩ := broken_of_unlessRefused id (by simpa using tail)
        exact ⟨turn, List.mem_append_right _ member, broken⟩
    · exact (not_held_pure_error tail).elim
  · cases same
    unfold hasDescendant at failed
    rw [if_neg (by simp [plain])] at failed
    exact broken_of_unlessRefused _ failed

theorem broken_of_collectRun (plain : includes ":contains(" parts.inner = false)
    (held : (collectRun (qualified parts) containers).Held before trace after (.error fault)) :
    ∃ turn ∈ trace, turn.Broken := by
  induction containers generalizing before trace with
  | nil => exact (not_held_pure_error held).elim
  | cons container rest ih =>
      rcases held_bind.1 held with ⟨_, _, _, second, -, tail, rfl⟩ | ⟨_, failed, same⟩
      · obtain ⟨turn, member, broken⟩ := ih (held_bind_pure_error.1 tail)
        exact ⟨turn, List.mem_append_right _ member, broken⟩
      · cases same
        exact broken_of_qualified plain failed

end Failing

/-- A selector `base:has(inner)after` that a page does not understand although it understands the
three parts, which are cut where they meet: the base has no `:has(` of its own and the parentheses
of the inner selector are balanced. Nothing in it is taken for another custom pseudo-class. -/
structure Divisible (page : Landscape) (base inner after : String) : Prop where
  refused : page.understands (havingText base inner after) = false
  base_known : page.understands base = true
  inner_known : page.understands inner = true
  after_known : trim after ≠ "" → page.understands (trim after) = true
  first : includes ":has(" base = false
  balanced : Balanced inner.toList
  unindexed : includes ":nth-match(" (havingText base inner after) = false
  plain : includes ":contains(" inner = false

section Dividing

variable {page : Landscape} {base inner after : String} {root : Option Element}
  {records : Records} {trace : List Turn}

theorem collected_of_divisible (form : Divisible page base inner after)
    {resolution : Resolution}
    (held : (resolve.fallbackFor (havingText base inner after) root).Held records trace records
      (.ok resolution))
    (told : ∀ turn ∈ trace, page.Told turn) (whole : ∀ turn ∈ trace, ¬turn.Broken) :
    ∃ rest chosen, rest ⊆ trace ∧
      Collected records ⟨base, inner, trim after⟩ (page.found base root) rest chosen
        resolution.elements := by
  rw [fallbackFor_eq, fallbackWith, if_neg (by simp [form.unindexed]),
    if_pos (usesMark_having form.first), resolveHas, splitHas_having form.first form.balanced]
    at held
  dsimp only at held
  rcases held_guarded.1 held with ⟨_, collects, same⟩ | ⟨fault, failed, -⟩
  · cases same
    rcases held_query_bind.1 collects with ⟨containers, rest, tail, rfl⟩ | ⟨_, -, -, same⟩
    · obtain ⟨-, rfl⟩ := (told _ List.mem_cons_self).finds _ _ _ rfl
      obtain ⟨elements, goes, rfl⟩ := held_bind_pure_ok.1 tail
      obtain ⟨chosen, collected⟩ := collected_of_held goes
      exact ⟨rest, chosen, by simp, collected⟩
    · cases same
  · -- No part of it can fail: the base is understood, and what comes later fails by broken queries.
    rcases held_query_bind.1 failed with ⟨containers, rest, tail, rfl⟩ | ⟨_, rfl, -, -⟩
    · have breaks := held_bind_pure_error.1 tail
      obtain ⟨turn, member, broken⟩ := broken_of_collectRun form.plain breaks
      exact absurd broken (whole turn (List.mem_cons_of_mem _ member))
    · have answered := (told _ List.mem_cons_self).reply_eq (whole _ List.mem_cons_self)
        form.base_known
      cases answered

theorem mem_collected_iff (form : Divisible page base inner after)
    {chosen elements : List Element}
    (collected : Collected records ⟨base, inner, trim after⟩ (page.found base root) trace chosen
      elements)
    (told : ∀ turn ∈ trace, page.Told turn) (element : Element) :
    element ∈ elements ↔
      if trim after = "" then page.Having base inner root element
      else ∃ container, page.Having base inner root container ∧
        page.inside container element = true ∧ page.suits (trim after) element = true := by
  have mem_chosen (container : Element) :
      container ∈ chosen ↔ page.Having base inner root container := by
    rw [collected.chosen_of_told form.plain told, List.mem_filter,
      page.holds_iff form.inner_known]
    rfl
  -- Without a trailing part the containers are meant, with one what is found inside them.
  by_cases blank : trim after = ""
  · rw [if_pos blank, collected.elements_of_blank blank, mem_chosen]
  · rw [if_neg blank, collected.elements_of_told blank told, if_pos (form.after_known blank)]
    simp only [Landscape.spread, List.mem_flatMap, page.mem_found_within, mem_chosen]

end Dividing

end Selector

/-- A page that does not understand `base:has(inner)after` but understands its parts gets what is
meant: the elements of the base that have the inner selector inside them, or what the trailing part
matches inside these, whether or not there is a blank in front of it. -/
theorem resolve_having {page : Landscape} {base inner after : String}
    (form : Selector.Divisible page base inner after) (root : Option Element)
    {start ending : Records} {trace : List Turn} {result : Except Fault Resolution}
    (held : (Selector.resolve (Selector.havingText base inner after) root).Held start trace ending
      result)
    (told : ∀ turn ∈ trace, page.Told turn) (whole : ∀ turn ∈ trace, ¬turn.Broken) :
    ∃ resolution, result = .ok resolution ∧ ∀ element,
      (element ∈ resolution.elements ↔
        if Text.trim after = "" then page.Having base inner root element
        else ∃ container, page.Having base inner root container ∧
          page.inside container element = true ∧
          page.suits (Text.trim after) element = true) := by
  obtain ⟨rfl, resolution, rfl, resolved⟩ := Selector.resolved_of_held held
  refine ⟨resolution, rfl, ?_⟩
  cases resolved with
  | native =>
      obtain ⟨understood, -⟩ := (told _ List.mem_cons_self).finds _ _ _ rfl
      rw [form.refused] at understood
      cases understood
  | broken other => exact absurd ⟨_, _, _, rfl, other⟩ (whole _ List.mem_cons_self)
  | piecewise _ falls =>
      obtain ⟨told_first, told_rest⟩ := List.forall_mem_cons.1 told
      obtain ⟨whole_first, whole_rest⟩ := List.forall_mem_cons.1 whole
      obtain ⟨rest, chosen, part, collected⟩ :=
        Selector.collected_of_divisible form falls told_rest whole_rest
      exact Selector.mem_collected_iff form collected fun turn member => told_rest turn (part member)

theorem Landscape.whole_of_gave {page : Landscape} {turn : Turn} (gave : page.scene.Gave turn) :
    ¬turn.Broken := by
  rintro ⟨selector, root, fault, rfl, other⟩
  have answered := reply_of_gave gave
  split at answered
  · cases answered
  · cases answered
    cases other

theorem nest_divisible {after : String}
    (refused : nest.understands (Selector.havingText "div" "p" after) = false)
    (known : Text.trim after ≠ "" → nest.understands (Text.trim after) = true)
    (unindexed : Text.includes ":nth-match(" (Selector.havingText "div" "p" after) = false) :
    Selector.Divisible nest "div" "p" after where
  refused := refused
  base_known := by decide
  inner_known := by decide
  after_known := known
  first := by decide
  balanced := .letter (by decide) (by decide) .nil
  unindexed := unindexed
  plain := by decide

/-- The button in the inner container is found, the outer container is not. -/
theorem nest_button_found :
    ∃ trace after resolution,
      (Selector.resolve (Selector.havingText "div" "p" " button") none).Held ⟨[], []⟩ trace after
        (.ok resolution) ∧
      5 ∈ resolution.elements ∧ 1 ∉ resolution.elements := by
  obtain ⟨trace, held, known⟩ :=
    nest.scene.held (Selector.resolve (Selector.havingText "div" "p" " button") none) ⟨[], []⟩
  have form : Selector.Divisible nest "div" "p" " button" :=
    nest_divisible (by decide) (by decide) (by decide)
  obtain ⟨resolution, same, finds⟩ := resolve_having form none held
    (fun turn member => Landscape.told_of_gave (known turn member))
    (fun turn member => Landscape.whole_of_gave (known turn member))
  rw [same] at held
  refine ⟨trace, _, resolution, held, ?_, ?_⟩
  · rw [finds, if_neg (by decide)]
    exact ⟨1, ⟨by decide, 2, by decide, by decide⟩, by decide, by decide⟩
  · rw [finds, if_neg (by decide)]
    rintro ⟨container, -, -, suits⟩
    cases suits

/-- A suffix without a blank does not restrict the containers: the button inside is found, and not
the container that has the class. -/
theorem nest_suffix_searched_inside :
    ∃ trace after resolution,
      (Selector.resolve (Selector.havingText "div" "p" ".x") none).Held ⟨[], []⟩ trace after
        (.ok resolution) ∧
      (∀ turn ∈ trace, nest.Told turn ∧ ¬turn.Broken) ∧
      Selector.Divisible nest "div" "p" ".x" ∧
      ¬∀ element, (element ∈ resolution.elements ↔
        nest.Having "div" "p" none element ∧ nest.suits ".x" element = true) := by
  obtain ⟨trace, held, known⟩ :=
    nest.scene.held (Selector.resolve (Selector.havingText "div" "p" ".x") none) ⟨[], []⟩
  have outcome : (nest.scene.outcome
      (Selector.resolve (Selector.havingText "div" "p" ".x") none) ⟨[], []⟩).1 =
        .ok (.fallback "div:has(p).x" [5, 5] "div (has descendant: p)") := by
    rw [Selector.resolve, Selector.resolve.fallbackFor]
    rfl
  rw [outcome] at held
  refine ⟨trace, _, _, held, ?_, nest_divisible (by decide) (by decide) (by decide), ?_⟩
  · intro turn member
    exact ⟨Landscape.told_of_gave (known turn member), Landscape.whole_of_gave (known turn member)⟩
  · intro agrees
    have container : nest.Having "div" "p" none 1 := ⟨by decide, 2, by decide, by decide⟩
    have member := (agrees 1).2 ⟨container, by decide⟩
    exact absurd member (by decide)

end Walkthrough
