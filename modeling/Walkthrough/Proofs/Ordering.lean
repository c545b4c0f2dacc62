import Walkthrough.Proofs.Precedence
import Walkthrough.Proofs.Resolving
/-!
In which order elements are found, and how often. A page answers with some of its elements in
document order, and so does every resolution but one: a `:has(...)` with a trailing part looks into
one container after the other, and what lies in two of them is found twice. On a page that is a tree
this is the only way in which an element is found again, or out of order.
Main statement: `resolved_once_unless_nested`.
-/

namespace Walkthrough

def Turn.InOrder (order : List Element) (turn : Turn) : Prop :=
  ∀ selector root found, turn = ⟨.page (.query selector root), .ok found⟩ → found.Sublist order

/-- A page as its queries see it: its elements in document order, which of them lie inside others,
which selectors it understands, and what these match. -/
structure Landscape where
  order : List Element
  inside : Element → Element → Bool
  understands : String → Bool
  suits : String → Element → Bool
  distinct : order.Nodup
  ahead {outer inner : Element} : inside outer inner = true → Before order outer inner
  nested {outer middle inner : Element} :
    inside outer middle = true → inside middle inner = true → inside outer inner = true
  apart {first second inner : Element} : Before order first second →
    inside first second = false → inside first inner = true → Before order inner second

namespace Landscape

variable (page : Landscape) {selector after : String} {root : Option Element}
  {chosen : List Element} {element : Element}

def within (root : Option Element) (element : Element) : Bool :=
  match root with
  | none => true
  | some container => page.inside container element

def found (selector : String) (root : Option Element) : List Element :=
  page.order.filter fun element => page.within root element && page.suits selector element

def holds (selector : String) (container : Element) : Bool :=
  page.understands selector && !(page.found selector (some container)).isEmpty

def spread (selector : String) (chosen : List Element) : List Element :=
  chosen.flatMap fun container => page.found selector (some container)

def holders (selector : String) (chosen : List Element) (element : Element) : Nat :=
  chosen.countP fun container => page.inside container element && page.suits selector element

/-- The turn is true to the page: understood queries find what is there, and only queries that are
not understood are refused. -/
structure Told (turn : Turn) : Prop where
  finds : ∀ selector root found, turn = ⟨.page (.query selector root), .ok found⟩ →
    page.understands selector = true ∧ found = page.found selector root
  refuses : ∀ selector root fault, turn = ⟨.page (.query selector root), .error fault⟩ →
    fault.isSelectorSyntax = true → page.understands selector = false

theorem found_sublist (selector : String) (root : Option Element) :
    (page.found selector root).Sublist page.order :=
  List.filter_sublist

theorem found_nodup (selector : String) (root : Option Element) :
    (page.found selector root).Nodup :=
  page.distinct.sublist (page.found_sublist selector root)

theorem mem_found_within {container : Element} :
    element ∈ page.found selector (some container) ↔
      page.inside container element = true ∧ page.suits selector element = true := by
  have inside_mem (inside : page.inside container element = true) : element ∈ page.order :=
    (page.ahead inside).mem_right
  simp only [found, within, List.mem_filter, Bool.and_eq_true]
  exact ⟨fun both => both.2, fun both => ⟨inside_mem both.1, both⟩⟩

theorem Told.inOrder {page : Landscape} {turn : Turn} (told : page.Told turn) :
    turn.InOrder page.order := by
  intro selector root found same
  rw [(told.finds selector root found same).2]
  exact page.found_sublist selector root

theorem count_spread (selector : String) (chosen : List Element) (element : Element) :
    (page.spread selector chosen).count element = page.holders selector chosen element := by
  induction chosen with
  | nil => rfl
  | cons container rest ih =>
      have here : (page.found selector (some container)).count element =
          if page.inside container element && page.suits selector element then 1 else 0 := by
        rw [(page.found_nodup selector (some container)).count]
        simp [mem_found_within]
      unfold spread holders at ih ⊢
      rw [List.flatMap_cons, List.count_append, List.countP_cons, ih, here, Nat.add_comm]

/-- What is found in containers of which none shares an element with another one is in order: two
containers are either nested, and then the inner one has nothing to add, or apart. -/
theorem spread_sublist (sublist : chosen.Sublist page.order)
    (distinct : (page.spread selector chosen).Nodup) :
    (page.spread selector chosen).Sublist page.order := by
  have subset : page.spread selector chosen ⊆ page.order := by
    intro element member
    obtain ⟨container, -, inside⟩ := List.mem_flatMap.1 member
    exact (page.found_sublist selector _).subset inside
  apply sublist_of_ascending page.distinct subset
  rw [spread, List.pairwise_flatMap]
  constructor
  · intro container _
    exact (pairwise_before page.order).sublist (page.found_sublist selector _)
  · have in_order := (pairwise_before page.order).sublist sublist
    apply in_order.imp₂ _ (List.nodup_flatMap.1 distinct).2
    intro first second before disjoint element first_has other second_has
    have here := page.mem_found_within.1 first_has
    have there := page.mem_found_within.1 second_has
    cases nests : page.inside first second with
    | true =>
        -- what is found in the inner container was found in the outer one already
        have shared := page.mem_found_within.2 ⟨page.nested nests there.1, there.2⟩
        exact (disjoint shared second_has).elim
    | false => exact (page.apart before nests here.1).trans page.distinct (page.ahead there.1)

theorem spread_sublist_iff (sublist : chosen.Sublist page.order) :
    (page.spread selector chosen).Sublist page.order ↔
      ∀ element, page.holders selector chosen element ≤ 1 := by
  have counted : (page.spread selector chosen).Nodup ↔
      ∀ element, page.holders selector chosen element ≤ 1 := by
    rw [List.nodup_iff_count_le_one]
    simp only [page.count_spread]
  rw [← counted]
  exact ⟨fun in_order => page.distinct.sublist in_order, page.spread_sublist sublist⟩

end Landscape

namespace Selector

open Run Resolution Text

variable {before after records : Records} {trace : List Turn} {selector : String}
  {root : Option Element} {parts : HasParts} {container : Element}
  {order containers chosen elements : List Element}

/-! What a resolution collects. -/

theorem filterRun_sublist {check : Element → Run Bool} {candidates : List Element}
    (held : (filterRun check candidates).Held before trace after (.ok elements)) :
    elements.Sublist candidates := by
  induction candidates generalizing before trace after elements with
  | nil =>
      obtain ⟨-, -, rfl⟩ := held_pure_ok.1 held
      exact .slnil
  | cons candidate rest ih =>
      obtain ⟨holds, _, _, _, -, tail, -⟩ := held_bind_ok.1 held
      obtain ⟨kept, keeps, rfl⟩ := held_bind_pure_ok.1 tail
      cases holds with
      | true => exact (ih keeps).cons_cons candidate
      | false => exact (ih keeps).cons candidate

def qualifies (parts : HasParts) (container : Element) : Run Bool :=
  unlessRefused (hasDescendant parts.inner container) (pure false)

theorem qualifies_looks (parts : HasParts) (container : Element) :
    (qualifies parts container).Asks (·.looks) :=
  looks_of_inspects (unlessRefused_inspects (hasDescendant_inspects _ _) (asks_pure _))

/-- What a container that qualifies, or does not, adds to the elements. -/
inductive Contributes (parts : HasParts) (container : Element) :
    Bool → List Turn → List Element → Prop where
  | nothing : Contributes parts container false [] []
  | itself (blank : parts.after = "") : Contributes parts container true [] [container]
  | inside {found} (trailing : parts.after ≠ "") :
      Contributes parts container true
        [⟨.page (.query parts.after (some container)), .ok found⟩] found
  | instead {fault} (trailing : parts.after ≠ "") (refused : fault.isSelectorSyntax = true) :
      Contributes parts container true
        [⟨.page (.query parts.after (some container)), .error fault⟩] [container]

theorem contributes_of_held {found : List Element}
    (held : (qualified parts container).Held before trace before (.ok found)) :
    ∃ chosen first second, trace = first ++ second ∧
      (qualifies parts container).Held before first before (.ok chosen) ∧
      Contributes parts container chosen second found := by
  obtain ⟨chosen, first, middle, second, checks, tail, rfl⟩ := held_bind_ok.1 held
  obtain rfl : middle = before := checks.looked (qualifies_looks parts container)
  refine ⟨chosen, first, second, rfl, checks, ?_⟩
  cases chosen with
  | false =>
      obtain ⟨rfl, -, rfl⟩ := held_pure_ok.1 tail
      exact .nothing
  | true =>
      by_cases blank : parts.after = ""
      · rw [if_pos rfl, if_pos blank] at tail
        obtain ⟨rfl, -, rfl⟩ := held_pure_ok.1 tail
        exact .itself blank
      · rw [if_pos rfl, if_neg blank] at tail
        rcases held_unlessRefused.1 tail with
          ⟨_, asked, same⟩ | ⟨_, _, _, _, refused, asked, passed, rfl⟩ | ⟨_, -, -, same⟩
        · cases same
          obtain ⟨rfl, -⟩ := held_page.1 asked
          exact .inside blank
        · obtain ⟨rfl, -⟩ := held_page.1 asked
          obtain ⟨rfl, -, rfl⟩ := held_pure_ok.1 passed
          exact .instead blank refused
        · cases same

theorem Contributes.subset {chosen : Bool} {found : List Element}
    (contributes : Contributes parts container chosen trace found)
    (ordered : ∀ turn ∈ trace, turn.InOrder order) (inside : container ∈ order) :
    found ⊆ order := by
  cases contributes with
  | nothing => exact List.nil_subset _
  | itself | instead => exact List.cons_subset.2 ⟨inside, List.nil_subset _⟩
  | inside => exact (ordered _ List.mem_cons_self _ _ _ rfl).subset

theorem Contributes.eq_of_told {page : Landscape} {chosen : Bool} {found : List Element}
    (contributes : Contributes parts container chosen trace found) (trailing : parts.after ≠ "")
    (told : ∀ turn ∈ trace, page.Told turn) :
    found = if chosen then
      if page.understands parts.after then page.found parts.after (some container) else [container]
      else [] := by
  cases contributes with
  | nothing => rfl
  | itself blank => exact absurd blank trailing
  | inside =>
      obtain ⟨understood, rfl⟩ := (told _ List.mem_cons_self).finds _ _ _ rfl
      simp [understood]
  | instead _ refused =>
      have unknown := (told _ List.mem_cons_self).refuses _ _ _ rfl refused
      simp [unknown]

theorem qualifies_eq_of_told {page : Landscape} {chosen : Bool}
    (plain : includes ":contains(" parts.inner = false)
    (held : (qualifies parts container).Held before trace after (.ok chosen))
    (told : ∀ turn ∈ trace, page.Told turn) : chosen = page.holds parts.inner container := by
  unfold qualifies hasDescendant at held
  rw [if_neg (by simp [plain])] at held
  rcases held_unlessRefused.1 held with
    ⟨_, asked, same⟩ | ⟨fault, _, _, _, refused, asked, passed, rfl⟩ | ⟨_, -, -, same⟩
  · cases same
    obtain ⟨found, answered, rfl⟩ := held_bind_pure_ok.1 asked
    obtain ⟨rfl, -⟩ := held_page.1 answered
    obtain ⟨understood, rfl⟩ := (told _ List.mem_cons_self).finds _ _ _ rfl
    simp [Landscape.holds, understood]
  · obtain ⟨-, -, rfl⟩ := held_pure_ok.1 passed
    obtain ⟨rfl, -⟩ := held_page.1 (held_bind_pure_error.1 asked)
    have unknown := (told _ List.mem_cons_self).refuses _ _ _ rfl refused
    simp [Landscape.holds, unknown]
  · cases same

/-- One container after the other is checked, and adds what it has; those that qualify are the
chosen ones. -/
inductive Collected (records : Records) (parts : HasParts) :
    List Element → List Turn → List Element → List Element → Prop where
  | none : Collected records parts [] [] [] []
  | next {container containers qualified first second rest chosen found others}
      (checks : (qualifies parts container).Held records first records (.ok qualified))
      (contributes : Contributes parts container qualified second found)
      (later : Collected records parts containers rest chosen others) :
      Collected records parts (container :: containers) (first ++ second ++ rest)
        (if qualified then container :: chosen else chosen) (found ++ others)

theorem collected_of_held
    (held : (collectRun (qualified parts) containers).Held before trace before (.ok elements)) :
    ∃ chosen, Collected before parts containers trace chosen elements := by
  induction containers generalizing trace elements with
  | nil =>
      obtain ⟨rfl, -, rfl⟩ := held_pure_ok.1 held
      exact ⟨[], .none⟩
  | cons container rest ih =>
      obtain ⟨found, first, middle, second, adds, tail, rfl⟩ := held_bind_ok.1 held
      obtain ⟨others, goes, rfl⟩ := held_bind_pure_ok.1 tail
      obtain rfl : middle = before := adds.looked (looks_of_inspects (qualified_inspects parts container))
      obtain ⟨chosen, later⟩ := ih goes
      obtain ⟨chosen_here, opening, closing, rfl, checks, contributes⟩ := contributes_of_held adds
      exact ⟨_, .next checks contributes later⟩

namespace Collected

theorem chosen_sublist (collected : Collected records parts containers trace chosen elements) :
    chosen.Sublist containers := by
  induction collected with
  | none => exact .slnil
  | @next container _ qualified _ _ _ _ _ _ _ _ _ ih =>
      cases qualified with
      | true => exact ih.cons_cons container
      | false => exact ih.cons container

theorem elements_of_blank (blank : parts.after = "")
    (collected : Collected records parts containers trace chosen elements) :
    elements = chosen := by
  induction collected with
  | none => rfl
  | next _ contributes _ ih =>
      cases contributes with
      | nothing => simpa using ih
      | itself => simp [ih]
      | inside trailing | instead trailing => exact absurd blank trailing

theorem subset (collected : Collected records parts containers trace chosen elements)
    (ordered : ∀ turn ∈ trace, turn.InOrder order) (inside : containers ⊆ order) :
    elements ⊆ order := by
  induction collected with
  | none => exact List.nil_subset _
  | next _ contributes _ ih =>
      rw [List.cons_subset] at inside
      have here := contributes.subset (fun turn member => ordered turn (by simp [member])) inside.1
      have others := ih (fun turn member => ordered turn (by simp [member])) inside.2
      exact List.append_subset.2 ⟨here, others⟩

theorem elements_of_told {page : Landscape} (trailing : parts.after ≠ "")
    (collected : Collected records parts containers trace chosen elements)
    (told : ∀ turn ∈ trace, page.Told turn) :
    elements = if page.understands parts.after then page.spread parts.after chosen else chosen := by
  induction collected with
  | none => simp [Landscape.spread]
  | @next _ _ qualified _ _ _ _ _ _ _ contributes _ ih =>
      have here := contributes.eq_of_told trailing fun turn member => told turn (by simp [member])
      have others := ih fun turn member => told turn (by simp [member])
      rw [here, others]
      cases qualified <;> cases page.understands parts.after <;> simp [Landscape.spread]

theorem chosen_of_told {page : Landscape} (plain : includes ":contains(" parts.inner = false)
    (collected : Collected records parts containers trace chosen elements)
    (told : ∀ turn ∈ trace, page.Told turn) :
    chosen = containers.filter (page.holds parts.inner) := by
  induction collected with
  | none => rfl
  | next checks _ _ ih =>
      have here := qualifies_eq_of_told plain checks fun turn member => told turn (by simp [member])
      have others := ih fun turn member => told turn (by simp [member])
      rw [List.filter_cons, ← here, others]

end Collected

/-- A resolution goes through elements in the order of the page's answers, or it has looked into
the containers of a `:has(...)` for its trailing part. By induction, as the base of an indexed match
is resolved first, and what is taken from it is an element of the page in either case. -/
theorem Resolved.in_order_or_collected {resolution : Resolution}
    (resolved : Resolved records root selector trace resolution) :
    (∀ order, (∀ turn ∈ trace, turn.InOrder order) → resolution.elements.Sublist order) ∨
      ∃ parts containers turns chosen, splitHas selector = some parts ∧ parts.after ≠ "" ∧
        ⟨.page (.query parts.base root), .ok containers⟩ ∈ trace ∧ turns ⊆ trace ∧
        Collected records parts containers turns chosen resolution.elements := by
  induction size : selector.length using Nat.strongRecOn generalizing selector trace resolution with
  | ind size ih =>
      subst size
      cases resolved with
      | native => exact .inl fun order ordered => ordered _ List.mem_cons_self _ _ _ rfl
      | broken => exact .inl fun order _ => List.nil_sublist order
      | piecewise _ falls =>
          obtain ⟨-, _, same, found⟩ := piecewise_of_held falls
          cases same
          cases found with
          | marked => exact .inl fun order _ => List.nil_sublist order
          | @sifted base _ candidates _ _ _ sifts =>
              left
              intro order ordered
              have asked := ordered ⟨.page (.query base root), .ok candidates⟩ (by simp)
              exact (filterRun_sublist sifts).trans (asked _ _ _ rfl)
          | @having parts containers turns _ split collects =>
              obtain ⟨chosen, collected⟩ := collected_of_held collects
              by_cases blank : parts.after = ""
              · left
                intro order ordered
                have asked := ordered ⟨.page (.query parts.base root), .ok containers⟩ (by simp)
                rw [fallback, collected.elements_of_blank blank]
                exact collected.chosen_sublist.trans (asked _ _ _ rfl)
              · exact .inr ⟨parts, containers, turns, chosen, split, blank, by simp, by simp, collected⟩
          | @indexed parts _ matched first second _ split resolves picks =>
              left
              intro order ordered
              have earlier : ∀ turn ∈ first, turn.InOrder order :=
                fun turn member => ordered turn (by simp [member])
              have subset : matched.elements ⊆ order := by
                obtain ⟨-, _, same, base⟩ := resolved_of_held resolves
                cases same
                rcases ih _ (splitNth_base_length split) base rfl with
                  in_order | ⟨inner, containers, turns, chosen, -, -, asked, within, collected⟩
                · exact (in_order order earlier).subset
                · apply collected.subset fun turn member => earlier turn (within member)
                  exact (earlier _ asked _ _ _ rfl).subset
              -- either one of the matches is taken, or a query inside it is answered
              cases picks with
              | missed => exact List.nil_sublist order
              | itself chosen | instead chosen =>
                  exact List.singleton_sublist.2 (subset (List.mem_of_getElem? chosen))
              | @within target found =>
                  have asked := ordered ⟨.page (.query (trim parts.after) (some target)), .ok found⟩
                    (by simp)
                  exact asked _ _ _ rfl

/-- The elements are those that match the trailing part of a `:has(...)` in the containers that
qualify; these are known if the inner selector is left to the page. -/
structure Spread (page : Landscape) (selector : String) (root : Option Element) (parts : HasParts)
    (chosen elements : List Element) : Prop where
  split : splitHas selector = some parts
  trailing : parts.after ≠ ""
  among : chosen.Sublist (page.found parts.base root)
  chosen_eq : includes ":contains(" parts.inner = false →
    chosen = (page.found parts.base root).filter (page.holds parts.inner)
  elements_eq : elements = page.spread parts.after chosen

theorem Resolved.in_order_or_spread {page : Landscape} {resolution : Resolution}
    (resolved : Resolved records root selector trace resolution)
    (told : ∀ turn ∈ trace, page.Told turn) :
    resolution.elements.Sublist page.order ∨
      ∃ parts chosen, Spread page selector root parts chosen resolution.elements := by
  rcases resolved.in_order_or_collected with
    in_order | ⟨parts, containers, turns, chosen, split, trailing, asked, within, collected⟩
  · exact .inl (in_order page.order fun turn member => (told turn member).inOrder)
  · have told_inside : ∀ turn ∈ turns, page.Told turn := fun turn member => told turn (within member)
    obtain ⟨-, rfl⟩ := (told _ asked).finds _ _ _ rfl
    have elements := collected.elements_of_told trailing told_inside
    by_cases understood : page.understands parts.after = true
    · rw [if_pos understood] at elements
      exact .inr ⟨parts, chosen, split, trailing, collected.chosen_sublist,
        fun plain => collected.chosen_of_told plain told_inside, elements⟩
    · rw [if_neg understood] at elements
      rw [elements]
      exact .inl (collected.chosen_sublist.trans (page.found_sublist parts.base root))

end Selector

namespace Command

open Run Resolution

variable {before after : Records} {trace : List Turn}

theorem touchAll_clicks {elements : List Element} {result : Except Fault Unit}
    (held : (touchAll .commit elements).Held before trace after result) :
    trace.map Turn.asked <+: elements.map (fun element => .page (.click element)) ∧
      (result = .ok () → trace = elements.map fun element => ⟨.page (.click element), .ok ()⟩) := by
  induction elements generalizing before trace with
  | nil =>
      obtain ⟨rfl, -, -⟩ := held_pure.1 held
      exact ⟨List.nil_prefix, fun _ => rfl⟩
  | cons element rest ih =>
      rcases held_bind.1 held with ⟨_, _, _, later, clicked, tail, rfl⟩ | ⟨_, failed, rfl⟩
      · obtain ⟨rfl, -⟩ := held_page.1 clicked
        obtain ⟨asked, all⟩ := ih tail
        refine ⟨?_, fun same => ?_⟩
        · simpa using asked
        · rw [all same]
          rfl
      · obtain ⟨rfl, -⟩ := held_page.1 failed
        refine ⟨?_, fun same => ?_⟩
        · simp
        · cases same

theorem found_of_held {action : Action} {target : String}
    {result : Except Fault (List Element)}
    (held : (found action target).Held before trace after result) :
    after = before ∧ ∃ resolution,
      (Selector.resolve target none).Held before trace before (.ok resolution) ∧
      ∀ elements, result = .ok elements → elements = resolution.elements := by
  rcases held_bind.1 held with ⟨resolution, first, _, rest, resolves, checked, rfl⟩ | ⟨_, failed, rfl⟩
  · obtain rfl := resolves.looked (Selector.resolve_looks _ _)
    split at checked
    · obtain ⟨rfl, rfl, rfl⟩ := held_throw.1 checked
      rw [List.append_nil]
      refine ⟨rfl, resolution, resolves, fun _ same => ?_⟩
      cases same
    · obtain ⟨rfl, rfl, rfl⟩ := held_pure.1 checked
      rw [List.append_nil]
      refine ⟨rfl, resolution, resolves, fun _ same => ?_⟩
      cases same
      rfl
  · obtain ⟨-, _, same, -⟩ := Selector.resolved_of_held failed
    cases same

theorem highlight_clicks {target : String} {value : Option String}
    {result : Except Fault Performance}
    (held : (carryOut ⟨.highlight, target, value, .commit⟩).Held before trace after result) :
    ∃ resolution searching clicking, trace = searching ++ clicking ∧
      (Selector.resolve target none).Held before searching before (.ok resolution) ∧
      clicking.map Turn.asked <+: resolution.elements.map (fun element => .page (.click element)) ∧
      ∀ performance, result = .ok performance →
        clicking = resolution.elements.map fun element => ⟨.page (.click element), .ok ()⟩ := by
  rcases held_bind.1 held with ⟨elements, first, _, rest, finds, tail, rfl⟩ | ⟨fault, failed, rfl⟩
  · obtain ⟨rfl, resolution, resolves, same⟩ := found_of_held finds
    obtain rfl := same elements rfl
    rcases held_bind.1 tail with ⟨_, clicking, _, last, clicks, ends, rfl⟩ | ⟨fault, clicks, rfl⟩
    · obtain ⟨rfl, -, -⟩ := held_pure.1 ends
      obtain ⟨asked, all⟩ := touchAll_clicks clicks
      rw [List.append_nil]
      exact ⟨resolution, first, clicking, rfl, resolves, asked, fun _ _ => all rfl⟩
    · obtain ⟨asked, -⟩ := touchAll_clicks clicks
      refine ⟨resolution, first, rest, rfl, resolves, asked, fun _ same => ?_⟩
      cases same
  · obtain ⟨-, resolution, resolves, -⟩ := found_of_held failed
    refine ⟨resolution, trace, [], by simp, resolves, by simp, fun _ same => ?_⟩
    cases same

end Command

/-- On any page that answers in document order, a resolution goes through elements of the page in
that order, each of them once, unless it looks for the trailing part of a `:has(...)` in one
container after the other. Then, on a page that is a tree, it has an element as often as there are
containers around it that qualify, and it is in order exactly if no element lies in two of them. A
highlight that is carried out clicks what is found, in that order and that often. -/
theorem resolved_once_unless_nested (selector : String) (root : Option Element) :
    (∀ before trace after result, (Selector.resolve selector root).Held before trace after result →
      ∃ resolution, result = .ok resolution ∧
        ((∀ order, (∀ turn ∈ trace, turn.InOrder order) → resolution.elements.Sublist order) ∨
          ∃ parts, Selector.splitHas selector = some parts ∧ parts.after ≠ "" ∧
            ∀ order, (∀ turn ∈ trace, turn.InOrder order) → resolution.elements ⊆ order) ∧
        ∀ page : Landscape, (∀ turn ∈ trace, page.Told turn) →
          resolution.elements.Sublist page.order ∨
            ∃ parts chosen, Selector.Spread page selector root parts chosen resolution.elements ∧
              (∀ element, resolution.elements.count element =
                page.holders parts.after chosen element) ∧
              (resolution.elements.Sublist page.order ↔
                ∀ element, page.holders parts.after chosen element ≤ 1)) ∧
    ∀ value before trace after result,
      (Command.carryOut ⟨.highlight, selector, value, .commit⟩).Held before trace after result →
      ∃ resolution searching clicking, trace = searching ++ clicking ∧
        (Selector.resolve selector none).Held before searching before (.ok resolution) ∧
        clicking.map Turn.asked <+:
          resolution.elements.map (fun element => .page (.click element)) ∧
        ∀ performance, result = .ok performance →
          clicking = resolution.elements.map fun element => ⟨.page (.click element), .ok ()⟩ := by
  refine ⟨?resolved, fun _ _ _ _ _ held => Command.highlight_clicks held⟩
  intro before trace after result held
  obtain ⟨rfl, resolution, rfl, resolved⟩ := Selector.resolved_of_held held
  refine ⟨resolution, rfl, ?ordered, ?spread⟩
  case ordered =>
    rcases resolved.in_order_or_collected with
      in_order | ⟨parts, containers, turns, chosen, split, trailing, asked, within, collected⟩
    · exact .inl in_order
    · refine .inr ⟨parts, split, trailing, fun order ordered => ?_⟩
      apply collected.subset fun turn member => ordered turn (within member)
      exact (ordered _ asked _ _ _ rfl).subset
  case spread =>
    intro page told
    rcases resolved.in_order_or_spread told with in_order | ⟨parts, chosen, spread⟩
    · exact .inl in_order
    · refine .inr ⟨parts, chosen, spread, ?_, ?_⟩
      · intro element
        rw [spread.elements_eq, page.count_spread]
      · rw [spread.elements_eq]
        exact page.spread_sublist_iff (spread.among.trans (page.found_sublist parts.base root))

/-! A page with containers inside each other. -/

namespace Landscape

def scene (page : Landscape) : Scene where
  page
    | .query selector root =>
        if page.understands selector then .ok (page.found selector root)
        else .error (.guide (.selectorSyntax selector "unknown"))
    | .click _ => .ok ()
    | _ => .error (.page "empty")
  tuning := Scene.unhurried 3

theorem reply_of_gave {page : Landscape} {selector : String} {root : Option Element}
    {reply : Except Fault (List Element)}
    (gave : page.scene.Gave ⟨.page (.query selector root), reply⟩) :
    reply = if page.understands selector then .ok (page.found selector root)
      else .error (.guide (.selectorSyntax selector "unknown")) := by
  obtain ⟨_, replied⟩ := gave
  exact replied

theorem told_of_gave {page : Landscape} {turn : Turn} (gave : page.scene.Gave turn) :
    page.Told turn := by
  constructor
  · rintro selector root found rfl
    have answered := reply_of_gave gave
    split at answered
    · next understood =>
        cases answered
        exact ⟨understood, rfl⟩
    · cases answered
  · rintro selector root fault rfl _
    have answered := reply_of_gave gave
    split at answered
    · cases answered
    · next unknown => simpa using unknown

end Landscape

/-- What lies inside what: the body holds a container with a paragraph and a further container,
which holds a paragraph and a button. -/
def nestInside : List (Element × Element) :=
  [(0, 1), (0, 2), (0, 3), (0, 4), (0, 5), (1, 2), (1, 3), (1, 4), (1, 5), (3, 4), (3, 5)]

def nestMatches : String → List Element
  | "div" => [1, 3]
  | "p" => [2, 4]
  | "button" => [5]
  | ".x" => [1, 5]
  | _ => []

def nest : Landscape where
  order := [0, 1, 2, 3, 4, 5]
  inside outer inner := nestInside.contains (outer, inner)
  understands selector := !(nestMatches selector).isEmpty
  suits selector element := (nestMatches selector).contains element
  distinct := by decide
  ahead := by
    have all : ∀ pair ∈ nestInside, Before [0, 1, 2, 3, 4, 5] pair.1 pair.2 := by decide
    intro outer inner inside
    exact all (outer, inner) (List.contains_iff_mem.1 inside)
  nested := by
    have all : ∀ first ∈ nestInside, ∀ second ∈ nestInside, first.2 = second.1 →
        nestInside.contains (first.1, second.2) = true := by decide
    intro outer middle inner first second
    exact all (outer, middle) (List.contains_iff_mem.1 first) (middle, inner)
      (List.contains_iff_mem.1 second) rfl
  apart := by
    have all : ∀ pair ∈ nestInside, ∀ second ∈ [0, 1, 2, 3, 4, 5],
        Before [0, 1, 2, 3, 4, 5] pair.1 second → nestInside.contains (pair.1, second) = false →
          Before [0, 1, 2, 3, 4, 5] pair.2 second := by decide
    intro first second inner before outside inside
    exact all (first, inner) (List.contains_iff_mem.1 inside) second before.mem_right before outside

theorem nest_resolves :
    (nest.scene.outcome (Selector.resolve "div:has(p) button" none) ⟨[], []⟩).1 =
      .ok (.fallback "div:has(p) button" [5, 5] "div (has descendant: p)") := by
  rw [Selector.resolve, Selector.resolve.fallbackFor]
  rfl

theorem nest_clicked_twice :
    ∃ searching after performance,
      (Command.carryOut ⟨.highlight, "div:has(p) button", none, .commit⟩).Held ⟨[], []⟩
        (searching ++ [⟨.page (.click 5), .ok ()⟩, ⟨.page (.click 5), .ok ()⟩]) after
        (.ok performance) ∧
      (∀ turn ∈ searching, nest.Told turn) ∧
      ∃ parts chosen, Selector.Spread nest "div:has(p) button" none parts chosen [5, 5] ∧
        nest.holders parts.after chosen 5 = 2 := by
  obtain ⟨resolved, clicks⟩ := resolved_once_unless_nested "div:has(p) button" none
  obtain ⟨trace, held, known⟩ := nest.scene.held
    (Command.carryOut ⟨.highlight, "div:has(p) button", none, .commit⟩) ⟨[], []⟩
  obtain ⟨performance, performed⟩ : ∃ performance, (nest.scene.outcome
      (Command.carryOut ⟨.highlight, "div:has(p) button", none, .commit⟩) ⟨[], []⟩).1 =
        .ok performance := by
    simp only [Command.carryOut, Command.found]
    rw [Selector.resolve, Selector.resolve.fallbackFor]
    exact ⟨_, rfl⟩
  rw [performed] at held
  obtain ⟨resolution, searching, clicking, rfl, resolves, -, all⟩ := clicks _ _ _ _ _ held
  obtain rfl := all performance rfl
  have searched : ∀ turn ∈ searching, nest.scene.Gave turn :=
    fun turn member => known turn (List.mem_append_left _ member)
  have told : ∀ turn ∈ searching, nest.Told turn :=
    fun turn member => Landscape.told_of_gave (searched turn member)
  have same := Scene.outcome_of_held resolves searched
  have finds : resolution = .fallback "div:has(p) button" [5, 5] "div (has descendant: p)" := by
    have outcome := nest_resolves
    rw [same] at outcome
    exact Except.ok.inj outcome
  subst finds
  obtain ⟨_, found, -, on_page⟩ := resolved _ _ _ _ resolves
  cases found
  refine ⟨searching, _, performance, held, told, ?_⟩
  rcases on_page nest told with in_order | ⟨parts, chosen, spread, counts, -⟩
  · exact absurd in_order (by decide)
  · exact ⟨parts, chosen, spread, (counts 5).symm⟩

end Walkthrough
