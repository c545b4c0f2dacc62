import Mathlib.Logic.Relation
import Walkthrough.Proofs.Ordering
/-!
Where elements come from. Every element of a resolution was in an answer of the page, and the query
was made in the root, or in an element that had come from there before. So on a page that looks only
below the element that it is asked about, a resolution stays below its root, however the selector is
taken apart; and the container of a sequence is below the content root.
Main statement: `resolution_stays_below_root`.
-/

namespace Walkthrough

/-- If the turn answers a query in an element, it tells of descendants of the element. -/
def Turn.Inward (child : Element → Element → Prop) (turn : Turn) : Prop :=
  ∀ selector container found, turn = ⟨.page (.query selector (some container)), .ok found⟩ →
    ∀ element ∈ found, Relation.TransGen child container element

namespace Selector

open Run Resolution Text

variable {records : Records} {trace part : List Turn} {selector : String} {root : Option Element}
  {parts : HasParts} {container element : Element} {containers chosen elements : List Element}

/-- The page has named the element in an answer to a query. -/
def Offered (trace : List Turn) (element : Element) : Prop :=
  ∃ selector place found,
    ⟨.page (.query selector place), .ok found⟩ ∈ trace ∧ element ∈ found

/-- The element was in an answer to a query in the root, or in an element that was there already. -/
inductive Sourced (trace : List Turn) (root : Option Element) : Element → Prop where
  | direct {selector found element}
      (asked : ⟨.page (.query selector root), .ok found⟩ ∈ trace) (member : element ∈ found) :
      Sourced trace root element
  | within {container selector found element} (outer : Sourced trace root container)
      (asked : ⟨.page (.query selector (some container)), .ok found⟩ ∈ trace)
      (member : element ∈ found) : Sourced trace root element

namespace Sourced

theorem mono (sourced : Sourced part root element) (included : part ⊆ trace) :
    Sourced trace root element := by
  induction sourced with
  | direct asked member => exact .direct (included asked) member
  | within _ asked member ih => exact .within ih (included asked) member

theorem offered (sourced : Sourced trace root element) : Offered trace element := by
  cases sourced with
  | direct asked member => exact ⟨_, _, _, asked, member⟩
  | within _ asked member => exact ⟨_, _, _, asked, member⟩

theorem descends {child : Element → Element → Prop} {top : Element}
    (sourced : Sourced trace (some top) element) (inward : ∀ turn ∈ trace, turn.Inward child) :
    Relation.TransGen child top element := by
  induction sourced with
  | direct asked member => exact inward _ asked _ _ _ rfl _ member
  | within _ asked member ih => exact ih.trans (inward _ asked _ _ _ rfl _ member)

end Sourced

theorem Contributes.sourced {qualified : Bool} {found : List Element}
    (contributes : Contributes parts container qualified part found)
    (outer : Sourced trace root container) (included : part ⊆ trace) (member : element ∈ found) :
    Sourced trace root element := by
  cases contributes with
  | nothing => cases member
  | itself | instead =>
      obtain rfl := List.mem_singleton.1 member
      exact outer
  | inside => exact .within outer (included List.mem_cons_self) member

theorem Collected.sourced (collected : Collected records parts containers part chosen elements)
    (outer : ∀ container ∈ containers, Sourced trace root container) (included : part ⊆ trace)
    (member : element ∈ elements) : Sourced trace root element := by
  induction collected with
  | none => cases member
  | next _ contributes _ ih =>
      obtain ⟨here, others⟩ := List.forall_mem_cons.1 outer
      obtain ⟨front, behind⟩ := List.append_subset.1 included
      rcases List.mem_append.1 member with first | later
      · exact contributes.sourced here (List.append_subset.1 front).2 first
      · exact ih others behind later

theorem Picked.sourced {tail : String} {index : Nat} {matched : List Element}
    {resolution : Resolution} (picks : Picked selector tail index matched part (.ok resolution))
    (outer : ∀ target ∈ matched, Sourced trace root target) (included : part ⊆ trace)
    (member : element ∈ resolution.elements) : Sourced trace root element := by
  cases picks with
  | missed => cases member
  | itself chosen | instead chosen =>
      obtain rfl := List.mem_singleton.1 member
      exact outer _ (List.mem_of_getElem? chosen)
  | within chosen =>
      exact .within (outer _ (List.mem_of_getElem? chosen)) (included List.mem_cons_self) member

/-- Every element of a resolution comes from its root. By induction on the selector, as the base of
an indexed match is resolved in the same root. -/
theorem Resolved.sourced {resolution : Resolution}
    (resolved : Resolved records root selector trace resolution)
    (member : element ∈ resolution.elements) : Sourced trace root element := by
  induction size : selector.length using Nat.strongRecOn
    generalizing selector trace resolution element with
  | ind size ih =>
      subst size
      cases resolved with
      | native => exact .direct List.mem_cons_self member
      | broken => cases member
      | @piecewise reply turns _ _ falls =>
          obtain ⟨-, _, same, found⟩ := piecewise_of_held falls
          cases same
          suffices behind : Sourced turns root element from
            behind.mono (List.subset_cons_self _ _)
          cases found with
          | marked => cases member
          | sifted sifts =>
              exact .direct List.mem_cons_self ((filterRun_sublist sifts).subset member)
          | having _ collects =>
              obtain ⟨chosen, collected⟩ := collected_of_held collects
              exact collected.sourced (fun _ here => .direct List.mem_cons_self here)
                (List.subset_cons_self _ _) member
          | indexed split resolves picks =>
              obtain ⟨-, _, same, base⟩ := resolved_of_held resolves
              cases same
              have matched {target : Element} (here : target ∈ _) :=
                ih _ (splitNth_base_length split) base here rfl
              exact picks.sourced (fun _ here => (matched here).mono (List.subset_append_left _ _))
                (List.subset_append_right _ _) member

end Selector

open Selector in
/-- On any page whose answers lead inward, all that a selector resolves to in a root was found by
the page and lies below the root. So the container of a sequence lies below the content root, if
there is one. -/
theorem resolution_stays_below_root (child : Element → Element → Prop) :
    (∀ selector root before trace after result,
      (resolve selector (some root)).Held before trace after result →
      (∀ turn ∈ trace, turn.Inward child) →
      ∃ resolution, result = .ok resolution ∧ ∀ element ∈ resolution.elements,
        Offered trace element ∧ Relation.TransGen child root element) ∧
    ∀ selector before trace after inside,
      (Guide.container selector).Held before trace after (.ok inside) →
      (∀ turn ∈ trace, turn.Inward child) →
      ∃ area looking searching, trace = looking ++ searching ∧
        Control.contentRoot.Held before looking before (.ok area) ∧ Offered searching inside ∧
        ∀ root, area = some root → Relation.TransGen child root inside := by
  constructor
  · intro selector root before trace after result held inward
    obtain ⟨-, resolution, rfl, resolved⟩ := resolved_of_held held
    refine ⟨resolution, rfl, fun element member => ?_⟩
    have sourced := resolved.sourced member
    exact ⟨sourced.offered, sourced.descends inward⟩
  · intro selector before trace after inside held inward
    obtain ⟨-, located⟩ := Guide.held_container held
    rcases located with ⟨_, same, area, looking, resolution, searching, rfl, rooted, resolves, only⟩ |
      ⟨_, same, -⟩
    · cases same
      obtain ⟨-, _, same, resolved⟩ := resolved_of_held resolves
      cases same
      have sourced : Sourced searching area inside := resolved.sourced (by simp [only])
      refine ⟨area, looking, searching, rfl, rooted, sourced.offered, ?_⟩
      rintro root rfl
      exact sourced.descends (List.forall_mem_append.1 inward).2
    · cases same

def nestRooted : Scene where
  page := nest.scene.page
  tuning := { Scene.unhurried 3 with contentRootSelector := .text "div" }

theorem inward_of_nestRooted {turn : Turn} (gave : nestRooted.Gave turn) :
    turn.Inward fun outer inner => nest.inside outer inner = true := by
  rintro selector container found rfl element member
  have asked : nest.scene.Gave ⟨.page (.query selector (some container)), .ok found⟩ := gave
  obtain ⟨-, rfl⟩ := (Landscape.told_of_gave asked).finds _ _ _ rfl
  exact .single (nest.mem_found_within.1 member).1

/-- The button is found in the inner container, which is found in the root; and as the container of
a sequence it lies below the content root. -/
theorem nest_button_below_root :
    (∃ trace after resolution,
      (Selector.resolve "div:has(p) button" (some 1)).Held ⟨[], []⟩ trace after (.ok resolution) ∧
      resolution.elements = [5] ∧
      Relation.TransGen (fun outer inner => nest.inside outer inner = true) 1 5) ∧
    ∃ trace after, (Guide.container "button").Held ⟨[], []⟩ trace after (.ok 5) ∧
      ∃ looking searching, trace = looking ++ searching ∧
        Control.contentRoot.Held ⟨[], []⟩ looking ⟨[], []⟩ (.ok (some 1)) ∧
        Selector.Offered searching 5 ∧
        Relation.TransGen (fun outer inner => nest.inside outer inner = true) 1 5 := by
  obtain ⟨resolved, located⟩ :=
    resolution_stays_below_root fun outer inner => nest.inside outer inner = true
  constructor
  · obtain ⟨trace, held, known⟩ :=
      nestRooted.held (Selector.resolve "div:has(p) button" (some 1)) ⟨[], []⟩
    have outcome : (nestRooted.outcome
        (Selector.resolve "div:has(p) button" (some 1)) ⟨[], []⟩).1 =
          .ok (.fallback "div:has(p) button" [5] "div (has descendant: p)") := by
      rw [Selector.resolve, Selector.resolve.fallbackFor]
      rfl
    rw [outcome] at held
    obtain ⟨_, same, inside⟩ :=
      resolved _ _ _ _ _ _ held fun turn member => inward_of_nestRooted (known turn member)
    cases same
    exact ⟨trace, _, _, held, rfl, (inside 5 (by decide)).2⟩
  · obtain ⟨trace, held, known⟩ := nestRooted.held (Guide.container "button") ⟨[], []⟩
    have outcome : (nestRooted.outcome (Guide.container "button") ⟨[], []⟩).1 = .ok 5 := by
      simp only [Guide.container, Selector.resolve]
      rfl
    rw [outcome] at held
    obtain ⟨area, looking, searching, rfl, rooted, offered, inside⟩ :=
      located _ _ _ _ _ held fun turn member => inward_of_nestRooted (known turn member)
    have rooted_here : nestRooted.outcome Control.contentRoot ⟨[], []⟩ = (.ok area, ⟨[], []⟩) :=
      Scene.outcome_of_held rooted fun turn member => known turn (List.mem_append_left _ member)
    obtain rfl : some 1 = area := Except.ok.inj (congrArg Prod.fst rooted_here)
    exact ⟨_, _, held, looking, searching, rfl, rooted, offered, inside 1 rfl⟩

end Walkthrough
