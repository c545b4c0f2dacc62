import Walkthrough.Proofs.Labels
/-!
Whether a text is found where it stands as it is written. Both sides are lower-cased before they are
compared, and a capital sigma is written in its final form where a word ends. So a search finds
every text that holds the needle as it stands, unless there is a sigma in the needle of which only
the text around tells whether it ends a word; then there are texts that hold the needle and are
never found.
Main statement: `verbatim_found_unless_loose`.
-/

namespace Walkthrough

namespace Text

/-- A text that holds the needle as it stands, with a letter in front or behind. If a sigma of the
needle is loose, the letter tells that it does not end a word where alone it would, or the other way
round. -/
def disguise (needle : String) : String :=
  if includesFolded needle ("a" ++ needle) then needle ++ "a" else "a" ++ needle

theorem part_of_disguise (needle : String) : needle.toList <:+: (disguise needle).toList := by
  unfold disguise
  split
  · exact ⟨[], "a".toList, by simp⟩
  · exact ⟨"a".toList, [], by simp⟩

theorem not_includesFolded_disguise {needle : String} (loose : hasLooseSigma needle = true) :
    includesFolded needle (disguise needle) = false := by
  unfold disguise
  split
  · next found =>
      apply (not_includesFolded_of_loose loose).resolve_left
      simp [found]
  · next hidden => simpa using hidden

end Text

open Run Selector Text

/-- What a search finds of the texts that it reads, where they hold the needle as it stands: all of
them, if no sigma of the needle is loose, and otherwise not those that hide it. -/
structure FindsVerbatim (needle : String) (told : List (Element × String))
    (found : List Element) : Prop where
  settled : hasLooseSigma needle = false →
    ∀ reading ∈ told, needle.toList <:+: reading.2.toList → reading.1 ∈ found
  loose : hasLooseSigma needle = true →
    (∀ reading ∈ told, reading.2 = disguise needle) → found = []

theorem findsVerbatim_of_filter (needle : String) (told : List (Element × String)) :
    FindsVerbatim needle told ((told.filter (includesFolded needle ·.2)).map Prod.fst) where
  settled settled reading member part := by
    refine List.mem_map_of_mem (List.mem_filter.2 ⟨member, ?_⟩)
    exact includesFolded_of_part settled part
  loose loose hides := by
    rw [List.map_eq_nil_iff, List.filter_eq_nil_iff]
    intro reading member
    rw [hides reading member, not_includesFolded_disguise loose]
    exact Bool.false_ne_true

/-- A text is found where it stands as it is written, by a filter on all the text inside an element
or on the text directly in it, and by a label on buttons, as long as no call fails: the texts of all
candidates are read, and those that hold the needle are found, if no sigma of the needle is loose.
If one is, there is a text that holds the needle and is not found by any of these searches. -/
theorem verbatim_found_unless_loose (needle : String) :
    needle.toList <:+: (disguise needle).toList ∧
    (∀ (filter : TextFilter) quote base root start reply rest ending result,
      Siftable quote base needle → Declines (filter.spelled quote base needle) reply →
      (resolve (filter.spelled quote base needle) root).Held start
        (⟨.page (.query (filter.spelled quote base needle) root), reply⟩ :: rest) ending result →
      (∀ turn ∈ rest, ¬turn.Raised) →
        ∃ resolution told, result = .ok resolution ∧
          rest = ⟨.page (.query base root), .ok (told.map Prod.fst)⟩ ::
            told.map filter.reading ∧
          FindsVerbatim needle told resolution.elements) ∧
    ∀ label before trace after result, label ≠ "" → trim label = needle →
      (buttonsLabelled label).Held before trace after result → (∀ turn ∈ trace, ¬turn.Raised) →
        ∃ buttons told, result = .ok buttons ∧
          trace = ⟨.page (.query "button" none), .ok (told.map Prod.fst)⟩ ::
            told.map Label.reading ∧
          FindsVerbatim needle told buttons := by
  refine ⟨part_of_disguise needle, ?filters, ?labels⟩
  case filters =>
    intro filter quote base root start reply rest ending result form declines held calm
    obtain ⟨-, resolution, rfl, falls⟩ := falls_of_held declines held
    -- no call fails, so all the texts are told
    cases form.kept_of_held falls with
    | whole told => exact ⟨_, told, rfl, rfl, findsVerbatim_of_filter needle told⟩
    | broken raised =>
        obtain ⟨turn, member, raises⟩ := raised
        exact absurd raises (calm turn member)
  case labels =>
    intro label before trace after result filled same held calm
    subst same
    cases result with
    | error fault =>
        obtain ⟨turn, member, raises⟩ := (Label.scanned_of_held held).raised
        exact absurd raises (calm turn member)
    | ok buttons =>
        cases Label.scanned_of_held held with
        | unlabelled empty => exact absurd empty filled
        | whole _ told => exact ⟨_, told, rfl, rfl, findsVerbatim_of_filter (trim label) told⟩

def signboard : Scene where
  page
    | .query selector _ => .ok (if selector = "p:contains(ΑΣ)" then [] else [1])
    | .text _ | .directText _ | .renderedText _ => .ok "ΑΣa"
    | .attributes _ => .ok []
    | .contains _ _ => .ok false
    | .location => .ok "/"
    | _ => .error (.page "empty")
  tuning := Scene.unhurried 3

theorem not_raised_of_signboard {trace : List Turn}
    (gave : ∀ turn ∈ trace, signboard.Gave turn)
    (inspects : ∀ turn ∈ trace, turn.asked.inspects = true) : ∀ turn ∈ trace, ¬turn.Raised := by
  rintro _ member ⟨call, fault, rfl⟩
  obtain ⟨_, replied⟩ := gave _ member
  have looks := inspects _ member
  cases call with
  | query | text | directText | renderedText | attributes | contains | location => cases replied
  | _ => cases looks

theorem siftable_sigma : Selector.Siftable "" "p" "ΑΣ" where
  known := by decide
  filled := by decide
  base_plain := by decide
  needle_plain := by decide
  unquoted := List.all_iff_forall_prop.1 (by decide)
  unclosed := by decide

/-- The word is on the element and on the button, and neither is found by it. -/
theorem signboard_unread :
    (∃ reply resolution, (Selector.resolve "p:contains(ΑΣ)" none).Held ⟨[], []⟩
        [⟨.page (.query "p:contains(ΑΣ)" none), reply⟩, ⟨.page (.query "p" none), .ok [1]⟩,
          ⟨.page (.text 1), .ok "ΑΣa"⟩] ⟨[], []⟩ (.ok resolution) ∧
      resolution.elements = []) ∧
    (buttonsLabelled " ΑΣ").Held ⟨[], []⟩ [⟨.page (.query "button" none), .ok [1]⟩,
      ⟨.page (.renderedText 1), .ok "ΑΣa"⟩] ⟨[], []⟩ (.ok []) := by
  obtain ⟨-, filters, labels⟩ := verbatim_found_unless_loose "ΑΣ"
  have loose : Text.hasLooseSigma "ΑΣ" = true := by decide +kernel
  have disguised : "ΑΣa" = Text.disguise "ΑΣ" := by decide +kernel
  constructor
  · obtain ⟨rest, held, known⟩ :=
      Selector.held_of_scene signboard "p:contains(ΑΣ)" none ⟨[], []⟩
    have reads := (List.forall_mem_cons.1 (held.asked (Selector.resolve_inspects _ _))).2
    have declines : Selector.Declines "p:contains(ΑΣ)" (.ok []) := ⟨rfl, by decide⟩
    obtain ⟨resolution, told, same, rfl, finds⟩ := filters .whole "" "p" none _ _ _ _ _
      siftable_sigma declines held (not_raised_of_signboard known reads)
    obtain ⟨⟨_, listed⟩, texts⟩ := List.forall_mem_cons.1 known
    obtain ⟨⟨_, text⟩, rfl, rfl⟩ := List.map_eq_singleton_iff.1 (Except.ok.inj listed)
    obtain ⟨_, written⟩ := texts _ List.mem_cons_self
    obtain rfl : text = "ΑΣa" := Except.ok.inj written
    rw [same] at held
    exact ⟨_, resolution, held, finds.loose loose (by simpa using disguised)⟩
  · obtain ⟨trace, held, known⟩ := signboard.held (buttonsLabelled " ΑΣ") ⟨[], []⟩
    have reads := held.asked (buttonsLabelled_inspects _)
    obtain ⟨buttons, told, same, rfl, finds⟩ := labels " ΑΣ" _ _ _ _ (by decide) (by decide) held
      (not_raised_of_signboard known reads)
    obtain ⟨⟨_, listed⟩, texts⟩ := List.forall_mem_cons.1 known
    obtain ⟨⟨_, text⟩, rfl, rfl⟩ := List.map_eq_singleton_iff.1 (Except.ok.inj listed)
    obtain ⟨_, written⟩ := texts _ List.mem_cons_self
    obtain rfl : text = "ΑΣa" := Except.ok.inj written
    rw [held.looked (buttonsLabelled_looks _), same, finds.loose loose (by simpa using disguised)] at held
    exact held

end Walkthrough
