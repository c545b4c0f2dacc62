import Walkthrough.Proofs.Spelling
/-!
A base with a filter by text behind it. Such a selector is cut where it was put together, so if the
page leaves it to the fallback, the base is asked for and then the text of each of its elements. The
ones with the needle in their text are kept, in the order in which the base has them.
Main statement: `filter_keeps_order`.
-/

namespace Walkthrough

def Turn.Raised (turn : Turn) : Prop :=
  ∃ call fault, turn = ⟨.page call, .error fault⟩

namespace Selector

open Run Resolution Text

/-- The base and the needle hold the text of no custom pseudo-class, and there are neither quotes
nor closing parentheses in the needle. -/
structure Siftable (quote base needle : String) : Prop where
  known : quote ∈ ["", "\"", "'"]
  filled : base ≠ ""
  base_plain : hasCustomMark base = false
  needle_plain : hasCustomMark needle = false
  unquoted : ∀ letter ∈ needle.toList, isQuote letter = false
  unclosed : ')' ∉ needle.toList

section Sifting

variable {before after : Records} {trace : List Turn} {root : Option Element}
  {filter : TextFilter} {quote base needle : String}

theorem Siftable.split (form : Siftable quote base needle) :
    filter.split (filter.spelled quote base needle) = some ⟨base, needle, ""⟩ := by
  have cut (read : List Char → Option (List Char × List Char))
      (reads : read (enclosed quote needle) = some (needle.toList, [])) :
      splitFilter filter.mark read (filter.spelled quote base needle) =
        some ⟨base, needle, ""⟩ := by
    rw [splitFilter_spelled filter form.known form.base_plain form.needle_plain,
      if_neg form.filled, reads]
    simp
  cases filter with
  | whole => exact cut readShort (readShort_enclosed form.known form.unquoted form.unclosed)
  | direct => exact cut readLong (readLong_enclosed form.known form.unquoted)

theorem not_raised_reading {reading : Element × String} : ¬(filter.reading reading).Raised := by
  cases filter <;> rintro ⟨_, _, same⟩ <;> cases same

theorem raised_unread {element : Element} {fault : Fault} :
    (filter.unread element fault).Raised := by
  cases filter <;> exact ⟨_, _, rfl⟩

/-- What the selector comes to after the base is asked for: a mark if a call fails, or else the
elements of the base that have the needle in the text that was read of them. -/
inductive Kept (filter : TextFilter) (selector base needle : String) (root : Option Element) :
    List Turn → Resolution → Prop where
  | whole (readings : List (Element × String)) :
      Kept filter selector base needle root
        (⟨.page (.query base root), .ok (readings.map Prod.fst)⟩ :: readings.map filter.reading)
        (fallback selector ((readings.filter (includesFolded needle ·.2)).map Prod.fst)
          (filter.effective ⟨base, needle, ""⟩))
  | broken {turns} (raised : ∃ turn ∈ turns, turn.Raised) :
      Kept filter selector base needle root turns (nothing selector filter.broken)

theorem Siftable.kept_of_held (form : Siftable quote base needle) {resolution : Resolution}
    (held : (resolve.fallbackFor (filter.spelled quote base needle) root).Held before trace after
      (.ok resolution)) :
    Kept filter (filter.spelled quote base needle) base needle root trace resolution := by
  rw [fallbackFor_of_filter (filterOf_spelled filter form.known form.base_plain form.needle_plain),
    resolve_of_cut form.split] at held
  rcases held_guarded.1 held with ⟨_, sifts, same⟩ | ⟨_, failed, same⟩
  · cases same
    rcases held_query_bind.1 sifts with ⟨candidates, _, tail, rfl⟩ | ⟨_, -, -, same⟩
    · obtain ⟨_, keeps, rfl⟩ := held_bind_pure_ok.1 tail
      obtain ⟨readings, rfl, rfl, same⟩ | ⟨_, _, _, -, same⟩ := sifts_of_held keeps
      · cases same
        exact .whole readings
      · cases same
    · cases same
  · cases same
    apply Kept.broken
    rcases held_query_bind.1 failed with ⟨_, _, tail, rfl⟩ | ⟨_, rfl, -, -⟩
    · obtain ⟨_, -, -, same⟩ | ⟨_, _, _, rfl, -⟩ := sifts_of_held (held_bind_pure_error.1 tail)
      · cases same
      · exact ⟨_, List.mem_cons_of_mem _ (List.mem_append_right _ List.mem_cons_self),
          raised_unread⟩
    · exact ⟨_, List.mem_cons_self, _, _, rfl⟩

end Sifting

end Selector

open Selector in
/-- A base with a filter by text behind it, in quotes or not, is resolved by the fallback if the
page does not take it. As long as no call fails, the base is asked for in the root, the text of each
of its elements is read once and in order, and exactly those elements are found, in that order, that
have the needle in their text, letter case aside. If the base or a text cannot be had, nothing is
found, and the mark says which filter failed. -/
theorem filter_keeps_order {filter : TextFilter} {quote base needle : String}
    (form : Siftable quote base needle) {root : Option Element} {start ending : Records}
    {reply : Except Fault (List Element)} {rest : List Turn} {result : Except Fault Resolution}
    (declines : Declines (filter.spelled quote base needle) reply)
    (held : (resolve (filter.spelled quote base needle) root).Held start
      (⟨.page (.query (filter.spelled quote base needle) root), reply⟩ :: rest) ending result) :
    ∃ resolution, result = .ok resolution ∧ resolution.usedFallback = true ∧
      ((∀ turn ∈ rest, ¬turn.Raised) → ∃ readings : List (Element × String),
        rest = ⟨.page (.query base root), .ok (readings.map Prod.fst)⟩ ::
          readings.map filter.reading ∧
        resolution.elements =
          (readings.filter (Text.includesFolded needle ·.2)).map Prod.fst ∧
        resolution.elements.Sublist (readings.map Prod.fst) ∧
        resolution.effective = some (filter.effective ⟨base, needle, ""⟩)) ∧
      ((∃ turn ∈ rest, turn.Raised) →
        resolution.elements = [] ∧ resolution.effective = some filter.broken.name) := by
  obtain ⟨-, resolution, rfl, falls⟩ := falls_of_held declines held
  refine ⟨resolution, rfl, ?_⟩
  cases form.kept_of_held falls with
  | whole readings =>
      refine ⟨rfl, fun _ => ⟨readings, rfl, rfl, List.filter_sublist.map _, rfl⟩, ?_⟩
      rintro ⟨turn, member, raised⟩
      rcases List.mem_cons.1 member with rfl | reads
      · obtain ⟨_, _, same⟩ := raised
        cases same
      · obtain ⟨reading, -, rfl⟩ := List.mem_map.1 reads
        exact absurd raised not_raised_reading
  | broken raised =>
      obtain ⟨turn, member, raises⟩ := raised
      exact ⟨rfl, fun never => absurd raises (never turn member), fun _ => ⟨rfl, rfl⟩⟩

theorem siftable_div : Selector.Siftable "'" "div" "a" where
  known := by decide
  filled := by decide
  base_plain := by decide
  needle_plain := by decide
  unquoted := List.all_iff_forall_prop.1 (by decide)
  unclosed := by decide

/-- Where every text can be read, both containers are found; where none can, there is a mark. -/
theorem nest_sifted :
    (∃ reply texts resolution, (Selector.resolve "div:contains('a')" none).Held ⟨[], []⟩
        (⟨.page (.query "div:contains('a')" none), reply⟩ ::
          ⟨.page (.query "div" none), .ok [1, 3]⟩ :: texts) ⟨[], []⟩ (.ok resolution) ∧
      resolution.elements = [1, 3] ∧
      resolution.effective = some "div (text contains \"a\")") ∧
    ∃ reply rest resolution, (Selector.resolve "div:contains('a')" none).Held ⟨[], []⟩
        (⟨.page (.query "div:contains('a')" none), reply⟩ :: rest) ⟨[], []⟩ (.ok resolution) ∧
      (∃ turn ∈ rest, turn.Raised) ∧ resolution.elements = [] ∧
      resolution.effective = some "ERROR_IN_CONTAINS" := by
  constructor
  · obtain ⟨rest, held, known⟩ :=
      Selector.held_of_scene (nest.lettered monotone) "div:contains('a')" none ⟨[], []⟩
    have outcome : ((nest.lettered monotone).outcome
        (Selector.resolve "div:contains('a')" none) ⟨[], []⟩).1 =
          .ok (.fallback "div:contains('a')" [1, 3] "div (text contains \"a\")") := by
      rw [Selector.resolve, Selector.resolve.fallbackFor]
      rfl
    rw [outcome] at held
    obtain ⟨_, same, -, whole, broken⟩ :=
      @filter_keeps_order .whole _ _ _ siftable_div none _ _ _ _ _ (by rfl) held
    cases same
    have unbroken : ∀ turn ∈ rest, ¬turn.Raised := by
      intro turn member raised
      cases (broken ⟨turn, member, raised⟩).1
    obtain ⟨readings, rfl, -⟩ := whole unbroken
    obtain ⟨-, found⟩ := (Landscape.told_of_lettered (known _ List.mem_cons_self)).1.finds _ _ _ rfl
    rw [found] at held
    exact ⟨_, _, _, held, rfl, rfl⟩
  · obtain ⟨rest, held, known⟩ :=
      Selector.held_of_scene nest.scene "div:contains('a')" none ⟨[], []⟩
    have outcome : (nest.scene.outcome (Selector.resolve "div:contains('a')" none) ⟨[], []⟩).1 =
        .ok (.fallback "div:contains('a')" [] "ERROR_IN_CONTAINS") := by
      rw [Selector.resolve, Selector.resolve.fallbackFor]
      rfl
    rw [outcome] at held
    obtain ⟨_, same, -, whole, -⟩ :=
      @filter_keeps_order .whole _ _ _ siftable_div none _ _ _ _ _ (by rfl) held
    cases same
    refine ⟨_, rest, _, held, ?_, rfl, rfl⟩
    by_contra unbroken
    obtain ⟨_, -, -, -, noted⟩ := whole fun turn member raised => unbroken ⟨turn, member, raised⟩
    exact absurd noted (by decide)

end Walkthrough
