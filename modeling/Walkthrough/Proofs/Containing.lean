import Walkthrough.Proofs.Baseless
/-!
A quoted `:contains(...)` inside a `:has(...)` and the same selector resolved in the container. Both
are cut at the same place, but where the selector stands alone, its needle must not hold a closing
parenthesis. So a needle with parentheses qualifies containers in which it is never found.
Main statement: `contains_agrees_unless_parenthesised`.
-/

namespace Walkthrough

namespace Selector

open Run Resolution Text

/-! A quoted needle. -/

def containsText (quote : Char) (base needle : String) : String :=
  base ++ ":contains(" ++ String.ofList [quote] ++ needle ++ String.ofList [quote] ++ ")"

def inQuotes (quote : Char) (needle : String) : List Char :=
  quote :: (needle.toList ++ [quote, ')'])

/-- The base and the needle hold the text of no custom pseudo-class, parentheses are balanced in
both, and there is no quote in the needle. -/
structure Containing (quote : Char) (base needle : String) : Prop where
  quotes : isQuote quote = true
  base_plain : hasCustomMark base = false
  base_balanced : Balanced base.toList
  needle_plain : hasCustomMark needle = false
  needle_balanced : Balanced needle.toList
  unquoted : ∀ letter ∈ needle.toList, isQuote letter = false

section Quoting

variable {quote : Char} {base needle : String}

theorem containsText_eq_spelled (quote : Char) (base needle : String) :
    containsText quote base needle =
      TextFilter.whole.spelled (String.ofList [quote]) base needle := by
  simp only [containsText, TextFilter.spelled, TextFilter.mark, String.append_assoc]

theorem inQuotes_eq_enclosed (quote : Char) (needle : String) :
    inQuotes quote needle = enclosed (String.ofList [quote]) needle := by
  simp [inQuotes, enclosed]

theorem known_of_quotes (quotes : isQuote quote = true) :
    String.ofList [quote] ∈ ["", "\"", "'"] := by
  rcases isQuote_cases quotes with rfl | rfl <;> simp

theorem splitFilter_containsText (form : Containing quote base needle)
    (read : List Char → Option (List Char × List Char)) :
    splitFilter ":contains(" read (containsText quote base needle) =
      if base = "" then none
      else (read (inQuotes quote needle)).map fun found =>
        ⟨base, String.ofList found.1, String.ofList found.2⟩ := by
  rw [containsText_eq_spelled, inQuotes_eq_enclosed]
  exact splitFilter_spelled .whole (known_of_quotes form.quotes) form.base_plain form.needle_plain
    read

/-! What is read in quotes. -/

theorem readLong_inQuotes (form : Containing quote base needle) :
    readLong (inQuotes quote needle) = some (needle.toList, []) := by
  rw [inQuotes_eq_enclosed]
  exact readLong_enclosed (known_of_quotes form.quotes) form.unquoted

theorem readInQuotes_closed (form : Containing quote base needle)
    (closes : ')' ∈ needle.toList) :
    readInQuotes (fun letter => !isQuote letter && letter != ')') quote
      (needle.toList ++ [quote, ')']) = none := by
  obtain ⟨inside, outside, same, first⟩ := List.eq_append_cons_of_mem closes
  have unquoted := form.unquoted
  rw [same] at unquoted ⊢
  have all : ∀ letter ∈ inside, (!isQuote letter && letter != ')') = true := by
    intro letter member
    have other : letter ≠ ')' := fun closing => first (closing ▸ member)
    simp [unquoted letter (List.mem_append_left _ member), other]
  have taken : (inside ++ ')' :: outside ++ [quote, ')']).takeWhile
      (fun letter => !isQuote letter && letter != ')') = inside := by
    rw [List.append_assoc, List.cons_append]
    exact takeWhile_append_stop all (by decide)
  have other : ')' ≠ quote := ne_quote form.quotes (by decide)
  unfold readInQuotes
  rw [taken]
  dsimp only
  rw [List.append_assoc, List.drop_left, List.cons_append]
  split
  · next mark after stops =>
      obtain ⟨rfl, -⟩ := List.cons.inj stops
      exact if_neg other
  · rfl

theorem readShort_inQuotes (form : Containing quote base needle) :
    readShort (inQuotes quote needle) =
      if ')' ∈ needle.toList then none else some (needle.toList, []) := by
  split
  · next closes =>
      unfold readShort inQuotes
      dsimp only
      rw [if_pos form.quotes]
      exact readInQuotes_closed form closes
  · next plain =>
      rw [inQuotes_eq_enclosed]
      exact readShort_enclosed (known_of_quotes form.quotes) form.unquoted plain

theorem splitContains_containsText (form : Containing quote base needle) :
    splitContains (containsText quote base needle) =
      if base = "" ∨ ')' ∈ needle.toList then none else some ⟨base, needle, ""⟩ := by
  rw [splitContains, splitFilter_containsText form, readShort_inQuotes form]
  by_cases empty : base = "" <;> by_cases closes : ')' ∈ needle.toList <;> simp [empty, closes]

theorem splitInnerContains_containsText (form : Containing quote base needle) :
    splitInnerContains (containsText quote base needle) =
      if base = "" then none else some ⟨base, needle, ""⟩ := by
  rw [splitInnerContains, splitFilter_containsText form, readLong_inQuotes form]
  simp

theorem balanced_containsText (form : Containing quote base needle) :
    Balanced (containsText quote base needle).toList := by
  rw [containsText_eq_spelled]
  exact balanced_spelled .whole (known_of_quotes form.quotes) form.base_balanced
    form.needle_balanced

theorem breakAt_containsText (form : Containing quote base needle) :
    breakAt ":contains(".toList (containsText quote base needle).toList =
      some (base.toList, inQuotes quote needle) := by
  rw [containsText_eq_spelled, inQuotes_eq_enclosed]
  exact breakAt_spelled .whole form.base_plain

theorem filterOf_containsText (form : Containing quote base needle) :
    filterOf? (containsText quote base needle) = some .whole := by
  rw [containsText_eq_spelled]
  exact filterOf_spelled .whole (known_of_quotes form.quotes) form.base_plain form.needle_plain

end Quoting

/-! What is found. -/

section Finding

variable {before after : Records} {trace : List Turn} {page : Landscape} {lettering : Lettering}
  {quote : Char} {base needle : String} {container : Element} {candidates : List Element}

theorem any_of_held {filter : TextFilter} {result : Except Fault Bool}
    (held : (anyRun (filter.check needle) candidates).Held before trace after result)
    (told : ∀ turn ∈ trace, lettering.Told turn) (whole : ∀ turn ∈ trace, ¬turn.Failed) :
    result = .ok (candidates.any (lettering.holds filter needle)) := by
  induction candidates generalizing before trace with
  | nil => exact (held_pure.1 held).2.2
  | cons candidate rest ih =>
      rcases held_bind.1 held with ⟨kept, _, _, _, checks, tail, rfl⟩ | ⟨_, failed, rfl⟩
      · obtain ⟨told_first, told_rest⟩ := List.forall_mem_append.1 told
        rw [List.any_cons, ← holds_of_check checks told_first]
        cases kept with
        | true => exact (held_pure.1 tail).2.2
        | false => exact ih tail told_rest (List.forall_mem_append.1 whole).2
      · obtain ⟨turn, member, fails⟩ := failed_of_check failed
        exact absurd fails (whole turn member)

/-- Inside a `:has(...)` the base is looked for in the container, and then the needle in its texts.
There is no empty base. -/
theorem hasDescendant_eq (form : Containing quote base needle) (container : Element) :
    hasDescendant (containsText quote base needle) container =
      if base = "" then pure false
      else query base (some container) >>= anyRun (textIncludes needle) := by
  have marked : includes ":contains(" (containsText quote base needle) = true := by
    rw [includes, includesChars, breakAt_containsText form, Option.isSome_some]
  by_cases empty : base = ""
  · have uncut : splitInnerContains (containsText quote base needle) = none := by
      rw [splitInnerContains_containsText form, if_pos empty]
    rw [if_pos empty, hasDescendant_uncut marked uncut]
  · rw [hasDescendant, if_pos marked, splitInnerContains_containsText form, if_neg empty,
      if_neg empty]

theorem any_of_hasDescendant (form : Containing quote base needle)
    (known : page.understands base = true) {result : Except Fault Bool}
    (held : (hasDescendant (containsText quote base needle) container).Held
      before trace after result)
    (told : ∀ turn ∈ trace, page.Told turn ∧ lettering.Told turn)
    (whole : ∀ turn ∈ trace, ¬turn.Failed) :
    result = .ok (base != "" &&
      (page.found base (some container)).any (lettering.holds .whole needle)) := by
  rw [hasDescendant_eq form] at held
  split at held
  · next empty =>
      subst empty
      exact (held_pure.1 held).2.2
  · next filled =>
      rcases held_query_bind.1 held with ⟨found, rest, tail, rfl⟩ | ⟨fault, rfl, -, rfl⟩
      · obtain ⟨told_first, told_rest⟩ := List.forall_mem_cons.1 told
        obtain ⟨-, rfl⟩ := told_first.1.finds _ _ _ rfl
        have passes : result =
            .ok ((page.found base (some container)).any (lettering.holds .whole needle)) :=
          any_of_held tail (fun turn member => (told_rest turn member).2)
            (List.forall_mem_cons.1 whole).2
        simp [passes, filled]
      · rcases understood_or_failed (told _ List.mem_cons_self).1 with
          unknown | ⟨_, member, fails⟩
        · rw [known] at unknown
          cases unknown
        · exact absurd fails (whole _ member)

theorem qualifies_of_held (form : Containing quote base needle)
    (known : page.understands base = true) {outer trailing : String} {result : Except Fault Bool}
    (held : (qualifies ⟨outer, containsText quote base needle, trailing⟩ container).Held
      before trace after result)
    (told : ∀ turn ∈ trace, page.Told turn ∧ lettering.Told turn)
    (whole : ∀ turn ∈ trace, ¬turn.Failed) :
    result = .ok (base != "" &&
      (page.found base (some container)).any (lettering.holds .whole needle)) := by
  rcases held_unlessRefused.1 held with ⟨chosen, succeeds, rfl⟩ |
    ⟨fault, _, _, _, -, failed, -, rfl⟩ | ⟨fault, -, failed, rfl⟩
  · exact any_of_hasDescendant form known succeeds told whole
  · have never := any_of_hasDescendant form known failed
      (List.forall_mem_append.1 told).1 (List.forall_mem_append.1 whole).1
    cases never
  · exact any_of_hasDescendant form known failed told whole

theorem elements_of_held (form : Containing quote base needle)
    (refused : page.understands (containsText quote base needle) = false)
    (known : page.understands base = true) {root : Option Element}
    {result : Except Fault Resolution}
    (held : (resolve (containsText quote base needle) root).Held before trace after result)
    (told : ∀ turn ∈ trace, page.Told turn ∧ lettering.Told turn)
    (whole : ∀ turn ∈ trace, ¬turn.Failed) :
    ∃ resolution, result = .ok resolution ∧ resolution.elements =
      if base = "" ∨ ')' ∈ needle.toList then []
      else (page.found base root).filter (lettering.holds .whole needle) := by
  obtain ⟨rfl, resolution, rfl, resolved⟩ := resolved_of_held held
  refine ⟨resolution, rfl, ?_⟩
  cases resolved with
  | native =>
      obtain ⟨understood, -⟩ := (told _ List.mem_cons_self).1.finds _ _ _ rfl
      rw [refused] at understood
      cases understood
  | broken other =>
      -- the selector is refused, and nothing else goes wrong
      exact absurd ⟨_, _, rfl, fun _ _ _ => other⟩ (whole _ List.mem_cons_self)
  | piecewise _ falls =>
      rw [fallbackFor_of_filter (filterOf_containsText form)] at falls
      have cut : TextFilter.whole.split (containsText quote base needle) =
          if base = "" ∨ ')' ∈ needle.toList then none else some ⟨base, needle, ""⟩ :=
        splitContains_containsText form
      cases sifted_of_held falls (List.forall_mem_cons.1 told).2 with
      | uncut mark uncut =>
          rw [uncut] at cut
          split at cut
          · next reason => exact (if_pos reason).symm
          · cases cut
      | unfounded mark split fails =>
          rw [split] at cut
          split at cut
          · cases cut
          cases cut
          rcases fails with unknown | ⟨turn, member, failed⟩
          · rw [known] at unknown
            cases unknown
          · exact absurd failed (whole turn (List.mem_cons_of_mem _ member))
      | kept split =>
          rw [split] at cut
          split at cut
          · cases cut
          · next plain =>
              cases cut
              exact (if_neg plain).symm

end Finding

end Selector

open Selector

/-- A container qualifies for a `:has(...)` around a quoted `:contains(...)` exactly if one of the
elements that the base finds in it has the needle in its text, wherever the `:has(...)` stands. The
selector alone, resolved in the container, finds exactly these elements, but nothing at all if its
needle holds a closing parenthesis. So the two agree unless there is such a parenthesis and the
container qualifies. -/
theorem contains_agrees_unless_parenthesised {quote : Char} {base needle outer after : String}
    (form : Containing quote base needle) (outer_plain : Text.includes ":has(" outer = false)
    {page : Landscape} (refused : page.understands (containsText quote base needle) = false)
    (known : page.understands base = true) {lettering : Lettering} {container : Element}
    {start middle ending final : Records} {nested alone : List Turn}
    {verdict : Except Fault Bool} {result : Except Fault Resolution}
    (checked :
      (qualifies ⟨outer, containsText quote base needle, Text.trim after⟩ container).Held start
        nested middle verdict)
    (resolved : (resolve (containsText quote base needle) (some container)).Held ending alone final
      result)
    (told : ∀ turn ∈ nested ++ alone, page.Told turn ∧ lettering.Told turn)
    (whole : ∀ turn ∈ nested ++ alone, ¬turn.Failed) :
    splitHas (havingText outer (containsText quote base needle) after) =
      some ⟨outer, containsText quote base needle, Text.trim after⟩ ∧
    ∃ chosen resolution, verdict = .ok chosen ∧ result = .ok resolution ∧
      (chosen = true ↔ base ≠ "" ∧ ∃ element ∈ page.found base (some container),
        lettering.holds .whole needle element = true) ∧
      resolution.elements = (if base = "" ∨ ')' ∈ needle.toList then []
        else (page.found base (some container)).filter (lettering.holds .whole needle)) ∧
      ((chosen = true ↔ resolution.elements ≠ []) ↔
        (')' ∈ needle.toList → chosen = false)) := by
  obtain ⟨told_nested, told_alone⟩ := List.forall_mem_append.1 told
  obtain ⟨whole_nested, whole_alone⟩ := List.forall_mem_append.1 whole
  obtain rfl := qualifies_of_held form known checked told_nested whole_nested
  obtain ⟨resolution, rfl, found⟩ :=
    elements_of_held form refused known resolved told_alone whole_alone
  refine ⟨splitHas_having outer_plain (balanced_containsText form), _, resolution, rfl, rfl, ?_,
    found, ?_⟩
  · simp
  · rw [found]
    by_cases empty : base = ""
    · simp [empty]
    · by_cases closes : ')' ∈ needle.toList <;> simp [empty, closes]

def bracketed : Lettering where
  whole _ := "a (b)"
  direct _ := ""

theorem bracketed_containing : Containing '"' "p" "a (b)" where
  quotes := by decide
  base_plain := by decide
  base_balanced := balanced_of_plain (List.all_iff_forall_prop.1 (by decide))
  needle_plain := by decide
  needle_balanced := by
    have inside : Balanced ['b'] := balanced_of_plain (List.all_iff_forall_prop.1 (by decide))
    have front : Balanced ['a', ' '] := balanced_of_plain (List.all_iff_forall_prop.1 (by decide))
    exact front.append (.group inside .nil)
  unquoted := List.all_iff_forall_prop.1 (by decide)

/-- A page on which nothing goes wrong, apart from queries that it does not understand. -/
def Landscape.obliging (page : Landscape) (lettering : Lettering) : Scene where
  page
    | .query selector root => page.scene.page (.query selector root)
    | .text element => .ok (lettering.whole element)
    | .directText element => .ok (lettering.direct element)
    | .renderedText _ | .location | .setValue .. => .ok ""
    | .attributes _ | .formEvents .. => .ok []
    | .contains container element => .ok (page.inside container element)
    | .click _ | .highlight .. | .pushRoute _ | .openExternal _ | .markCompleted _
    | .clearCompleted _ | .completionEvent .. | .settle => .ok ()
  tuning := Scene.unhurried 3

theorem Landscape.told_of_obliging {page : Landscape} {lettering : Lettering} {turn : Turn}
    (gave : (page.obliging lettering).Gave turn) : page.Told turn ∧ lettering.Told turn :=
  Landscape.told_of_alike gave (fun _ _ => rfl) (fun _ => rfl) fun _ => rfl

theorem Landscape.whole_of_obliging {page : Landscape} {lettering : Lettering} {turn : Turn}
    (gave : (page.obliging lettering).Gave turn) : ¬turn.Failed := by
  rintro ⟨call, fault, rfl, other⟩
  obtain ⟨_, replied⟩ := gave
  cases call with
  | query selector root =>
      have asked : page.scene.Gave ⟨.page (.query selector root), .error fault⟩ :=
        ⟨⟨[], []⟩, replied⟩
      have answered := Landscape.reply_of_gave asked
      split at answered
      · cases answered
      · cases answered
        cases other selector root rfl
  | _ => cases replied

/-- The container has paragraphs with the text in it, but resolving for them finds none. -/
theorem nest_parenthesised :
    ∃ nested middle alone final resolution,
      (qualifies ⟨"div", containsText '"' "p" "a (b)", Text.trim ""⟩ 1).Held ⟨[], []⟩ nested
        middle (.ok true) ∧
      (resolve (containsText '"' "p" "a (b)") (some 1)).Held ⟨[], []⟩ alone final
        (.ok resolution) ∧
      resolution.elements = [] := by
  obtain ⟨nested, checked, known⟩ := (nest.obliging bracketed).held
    (qualifies ⟨"div", containsText '"' "p" "a (b)", Text.trim ""⟩ 1) ⟨[], []⟩
  obtain ⟨alone, resolved, seen⟩ := (nest.obliging bracketed).held
    (resolve (containsText '"' "p" "a (b)") (some 1)) ⟨[], []⟩
  have gave : ∀ turn ∈ nested ++ alone, (nest.obliging bracketed).Gave turn :=
    List.forall_mem_append.2 ⟨known, seen⟩
  obtain ⟨-, chosen, resolution, verdict, result, qualifies_iff, found, -⟩ :=
    contains_agrees_unless_parenthesised bracketed_containing (by decide) (by decide) (by decide)
      checked resolved (fun turn member => Landscape.told_of_obliging (gave turn member))
      (fun turn member => Landscape.whole_of_obliging (gave turn member))
  have holds : chosen = true := qualifies_iff.2 ⟨by decide, 2, by decide, by decide⟩
  rw [verdict, holds] at checked
  rw [result] at resolved
  exact ⟨nested, _, alone, _, resolution, checked, resolved, found.trans (if_pos (by decide))⟩

end Walkthrough
