import Walkthrough.Proofs.Spelling
/-!
A `:contains(...)` without a base, inside a `:has(...)`. It cannot be cut, since there is nothing in
front of it, and then it is meant to be resolved on the whole page. But what cannot be cut inside a
`:has(...)` cannot be cut elsewhere either, so no container ever qualifies.
Main statement: `bare_contains_qualifies_none`.
-/

namespace Walkthrough

namespace Selector

open Run Resolution Text

/-! What is read short is read long as well. -/

section Reading

variable {α : Type} {mark text needle after : List Char} {first second : List Char → Option α}

theorem firstAfterStart_none_of_reads (less : ∀ text, second text = none → first text = none)
    (uncut : firstAfterStart mark second text = none) :
    firstAfterStart mark first text = none := by
  induction text with
  | nil => rfl
  | cons letter rest ih =>
      unfold firstAfterStart at uncut ⊢
      split at uncut
      · cases uncut
      next unread =>
      have here : (if mark.isPrefixOf rest then first (rest.drop mark.length) else none) = none := by
        split
        · next starts =>
            rw [if_pos starts] at unread
            exact less _ unread
        · rfl
      rw [here, ih (Option.map_eq_none_iff.1 uncut)]
      rfl

theorem readInQuotes_allowed {allowed : Char → Bool} {quote : Char}
    (read : readInQuotes allowed quote text = some (needle, after)) :
    ∀ letter ∈ needle, allowed letter = true := by
  unfold readInQuotes at read
  dsimp only at read
  split at read
  · split at read
    · obtain ⟨rfl, -⟩ := Prod.mk.inj (Option.some.inj read)
      exact List.all_eq_true.1 List.all_takeWhile
    · cases read
  · cases read

theorem not_mem_of_breakAtLastClose (unbroken : breakAtLastClose text = none) : ')' ∉ text := by
  intro closes
  obtain ⟨tail, front, same, last⟩ := List.eq_append_cons_of_mem (List.mem_reverse.2 closes)
  have others : ∀ letter ∈ tail, (letter != ')') = true := by
    intro letter member
    have other : letter ≠ ')' := fun closing => last (closing ▸ member)
    simp [other]
  unfold breakAtLastClose at unbroken
  rw [same, takeWhile_append_stop others (by decide)] at unbroken
  dsimp only at unbroken
  rw [List.drop_left] at unbroken
  cases unbroken

theorem readShort_none_of_readLong (text : List Char) (unread : readLong text = none) :
    readShort text = none := by
  cases text with
  | nil => rfl
  | cons first rest =>
      unfold readShort readLong at *
      dsimp only at unread ⊢
      by_cases quotes : isQuote first = true
      · rw [if_pos quotes] at unread ⊢
        cases read : readInQuotes (fun letter => !isQuote letter && letter != ')') first rest with
        | none => rfl
        | some found =>
            have all : ∀ letter ∈ found.1, (!isQuote letter) = true := by
              intro letter member
              exact (Bool.and_eq_true_iff.1 (readInQuotes_allowed read letter member)).1
            have reads : readInQuotes (fun letter => !isQuote letter) first rest = some found := by
              rw [readInQuotes_sound read]
              exact readInQuotes_needle all (by simp [quotes])
            rw [unread] at reads
            cases reads
      · rw [if_neg quotes] at unread ⊢
        have unclosed := not_mem_of_breakAtLastClose (Option.map_eq_none_iff.1 unread)
        generalize first :: rest = text at unclosed ⊢
        have parts := List.prefix_iff_eq_append.1
          (List.takeWhile_prefix (fun letter => !isQuote letter && letter != ')') (l := text))
        have short : ∀ letter ∈ text.takeWhile (fun letter => !isQuote letter && letter != ')'),
            (!isQuote letter && letter != ')') = true :=
          List.all_eq_true.1 List.all_takeWhile
        generalize text.takeWhile (fun letter => !isQuote letter && letter != ')') = needle
          at parts short ⊢
        split
        · next after closes =>
            -- the parenthesis that ends the short needle is one that the long one may hold
            have all : ∀ letter ∈ needle, (!isQuote letter) = true :=
              fun letter member => (Bool.and_eq_true_iff.1 (short letter member)).1
            rw [closes] at parts
            rw [← parts, List.takeWhile_append_of_pos all, List.takeWhile_cons_of_pos (by decide)]
              at unclosed
            simp at unclosed
        · rfl

theorem splitContains_none {inner : String} (uncut : splitInnerContains inner = none) :
    splitContains inner = none := by
  have inner_uncut := Option.map_eq_none_iff.1 uncut
  have none_found := firstAfterStart_none_of_reads readShort_none_of_readLong inner_uncut
  rw [splitContains, splitFilter, none_found]
  rfl

theorem hasDescendant_uncut {inner : String} (marked : includes ":contains(" inner = true)
    (uncut : splitInnerContains inner = none) (container : Element) :
    hasDescendant inner container = pure false := by
  rw [hasDescendant, if_pos marked, uncut]
  dsimp only
  rw [resolveContains, splitContains_none uncut]
  simp [nothing, fallback, anyRun]

end Reading

/-! A selector `base:has(:contains(needle))`. -/

def bareContains (quote needle : String) : String :=
  ":contains(" ++ quote ++ needle ++ quote ++ ")"

/-- The base holds neither the text of a `:has(...)` nor that of an indexed match, and the needle
neither quotes nor parentheses. -/
structure Bare (quote base needle : String) : Prop where
  known : quote ∈ ["", "\"", "'"]
  unhaving : includes ":has(" base = false
  unindexed : includes ":nth-match(" base = false
  unquoted : ∀ letter ∈ needle.toList, isQuote letter = false
  unparenthesised : ∀ letter ∈ needle.toList, letter ≠ '(' ∧ letter ≠ ')'

section Qualifying

variable {quote base needle : String} {root : Option Element}

theorem bareContains_eq_spelled (quote needle : String) :
    bareContains quote needle = TextFilter.whole.spelled quote "" needle := by
  simp only [bareContains, TextFilter.spelled, TextFilter.mark, String.empty_append]

theorem custom_opens : ∀ mark ∈ customMarks, '(' ∈ mark.toList := by
  decide

theorem Bare.needle_plain (form : Bare quote base needle) : hasCustomMark needle = false := by
  apply List.any_eq_false.2
  intro mark custom
  have unopened : '(' ∉ needle.toList := fun opens => (form.unparenthesised _ opens).1 rfl
  rw [breakAt_eq_none_iff.2 (breakAt_eq_none_of_not_mem (custom_opens mark custom) unopened)]
  simp

theorem Bare.balanced (form : Bare quote base needle) :
    Balanced (bareContains quote needle).toList := by
  rw [bareContains_eq_spelled]
  exact balanced_spelled .whole form.known .nil (balanced_of_plain form.unparenthesised)

theorem includes_bareContains (quote needle : String) :
    includes ":contains(" (bareContains quote needle) = true := by
  have present : breakAt ":contains(".toList (bareContains quote needle).toList =
      some ("".toList, enclosed quote needle) := by
    rw [bareContains_eq_spelled]
    exact breakAt_spelled .whole (by decide)
  rw [includes, includesChars, present]
  rfl

theorem Bare.uncut (form : Bare quote base needle) :
    splitInnerContains (bareContains quote needle) = none := by
  rw [bareContains_eq_spelled]
  exact splitFilter_spelled .whole form.known (by decide) form.needle_plain readLong

theorem Bare.unindexed_having (form : Bare quote base needle) :
    includes ":nth-match(" (havingText base (bareContains quote needle) "") = false := by
  have custom : ":nth-match(" ∈ customMarks := by decide
  have inner : breakAt ":nth-match(".toList (bareContains quote needle).toList = none := by
    rw [bareContains_eq_spelled]
    exact absent_spelled custom (by decide) form.known (by decide) form.needle_plain
  obtain ⟨tail, named, -, unclosed, -⟩ := custom_form custom
  rw [breakAt_eq_none_iff, havingText_toList]
  refine absent_around custom (by decide) (by decide) (breakAt_eq_none_iff.1 form.unindexed) ?_
  rw [named] at inner ⊢
  exact breakAt_append_eq_none unclosed inner (breakAt_cons_eq_none (by decide) rfl)

theorem qualified_none (parts : HasParts)
    (never : ∀ container, hasDescendant parts.inner container = pure false)
    (container : Element) : qualified parts container = pure [] := by
  unfold qualified
  rw [never]
  rfl

theorem collectRun_none (parts : HasParts)
    (never : ∀ container, hasDescendant parts.inner container = pure false)
    (containers : List Element) : collectRun (qualified parts) containers = pure [] := by
  induction containers with
  | nil => rfl
  | cons container rest ih =>
      rw [collectRun, qualified_none parts never, ih]
      rfl

theorem Bare.fallbackFor_eq (form : Bare quote base needle) :
    resolve.fallbackFor (havingText base (bareContains quote needle) "") root =
      guarded (havingText base (bareContains quote needle) "") .errorInHas
        (query base root >>= fun _ => pure (fallback (havingText base (bareContains quote needle) "")
          [] (base ++ " (has descendant: " ++ bareContains quote needle ++ ")"))) := by
  rw [Selector.fallbackFor_eq, fallbackWith, if_neg (by simp [form.unindexed_having]),
    if_pos (usesMark_having form.unhaving), resolveHas,
    splitHas_having form.unhaving form.balanced]
  have never (container : Element) :
      hasDescendant (bareContains quote needle) container = pure false :=
    hasDescendant_uncut (includes_bareContains quote needle) form.uncut container
  dsimp only
  congr 2
  funext containers
  rw [collectRun_none ⟨base, bareContains quote needle, trim ""⟩ never]
  rfl

theorem Bare.nothing_of_held (form : Bare quote base needle) {before after : Records}
    {trace : List Turn} {resolution : Resolution}
    (held : (resolve.fallbackFor (havingText base (bareContains quote needle) "") root).Held before
      trace after (.ok resolution)) :
    ∃ answer, trace = [⟨.page (.query base root), answer⟩] ∧ resolution.elements = [] ∧
      ∀ found, answer = .ok found → resolution.effective =
        some (base ++ " (has descendant: " ++ bareContains quote needle ++ ")") := by
  rw [form.fallbackFor_eq] at held
  rcases held_guarded.1 held with ⟨_, succeeds, same⟩ | ⟨_, failed, same⟩
  · cases same
    rcases held_query_bind.1 succeeds with ⟨containers, _, tail, rfl⟩ | ⟨_, -, -, same⟩
    · obtain ⟨rfl, -, same⟩ := held_pure.1 tail
      cases same
      exact ⟨_, rfl, rfl, fun _ _ => rfl⟩
    · cases same
  · cases same
    rcases held_query_bind.1 failed with ⟨_, _, tail, rfl⟩ | ⟨fault, rfl, -, -⟩
    · exact (not_held_pure_error tail).elim
    · refine ⟨.error fault, rfl, rfl, fun _ same => ?_⟩
      cases same

end Qualifying

end Selector

/-- An element that the base matches, with something inside that has the needle in its text. -/
def Landscape.Bearing (page : Landscape) (lettering : Lettering) (base needle : String)
    (root : Option Element) (element : Element) : Prop :=
  element ∈ page.found base root ∧ ∃ inner, page.inside element inner = true ∧
    lettering.holds .whole needle inner = true

open Selector in
/-- A `:has(...)` around a `:contains(...)` without a base, on a page that does not take it. The
containers are looked for, nothing is asked about them, and none of them is found. So what is found
is what is meant only where no container has anything with the needle inside. -/
theorem bare_contains_qualifies_none {quote base needle : String}
    (form : Bare quote base needle) {root : Option Element} {start ending : Records}
    {reply : Except Fault (List Element)} {rest : List Turn} {result : Except Fault Resolution}
    (declines : Declines (havingText base (bareContains quote needle) "") reply)
    (held : (resolve (havingText base (bareContains quote needle) "") root).Held start
      (⟨.page (.query (havingText base (bareContains quote needle) "") root), reply⟩ :: rest) ending
      result) :
    ∃ answer resolution, rest = [⟨.page (.query base root), answer⟩] ∧ result = .ok resolution ∧
      resolution.elements = [] ∧
      (∀ found, answer = .ok found → resolution.effective =
        some (base ++ " (has descendant: " ++ bareContains quote needle ++ ")")) ∧
      ∀ (page : Landscape) (lettering : Lettering), page.understands base = true →
        (∀ turn ∈ rest, page.Told turn ∧ ¬turn.Broken) →
        answer = .ok (page.found base root) ∧
          ((∀ element, element ∈ resolution.elements ↔
              page.Bearing lettering base needle root element) ↔
            ∀ element, ¬page.Bearing lettering base needle root element) := by
  obtain ⟨-, resolution, rfl, falls⟩ := falls_of_held declines held
  obtain ⟨answer, rfl, none_found, noted⟩ := form.nothing_of_held falls
  refine ⟨answer, resolution, rfl, rfl, none_found, noted, fun page lettering known told => ?_⟩
  obtain ⟨told_query, whole⟩ := told _ List.mem_cons_self
  refine ⟨told_query.reply_eq whole known, ?_⟩
  simp [none_found]

theorem bare_div : Selector.Bare "\"" "div" "a" where
  known := by decide
  unhaving := by decide
  unindexed := by decide
  unquoted := List.all_iff_forall_prop.1 (by decide)
  unparenthesised := List.all_iff_forall_prop.1 (by decide)

open Selector in
/-- The container holds a paragraph with the text, and it is not found. -/
theorem nest_bare_contains :
    ∃ trace resolution,
      (resolve (havingText "div" (bareContains "\"" "a") "") none).Held ⟨[], []⟩ trace ⟨[], []⟩
        (.ok resolution) ∧
      resolution.elements = [] ∧ nest.Bearing monotone "div" "a" none 1 ∧
      ¬∀ element, (element ∈ resolution.elements ↔
        nest.Bearing monotone "div" "a" none element) := by
  obtain ⟨rest, held, known⟩ :=
    held_of_scene nest.scene (havingText "div" (bareContains "\"" "a") "") none ⟨[], []⟩
  obtain ⟨answer, resolution, rfl, same, none_found, -, meant⟩ :=
    bare_contains_qualifies_none bare_div (by rfl) held
  rw [same] at held
  have bearing : nest.Bearing monotone "div" "a" none 1 := ⟨by decide, 2, by decide, by decide⟩
  obtain ⟨-, agrees⟩ := meant nest monotone (by decide) fun turn member =>
    ⟨Landscape.told_of_gave (known turn member), Landscape.whole_of_gave (known turn member)⟩
  exact ⟨_, resolution, held, none_found, bearing, fun all => agrees.1 all 1 bearing⟩

end Walkthrough
