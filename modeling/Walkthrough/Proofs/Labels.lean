import Walkthrough.Proofs.Casing
import Walkthrough.Proofs.Sifting
/-!
The buttons that a label names. All buttons of the page are asked for, and then the text on each of
them, in order. Those are kept whose text holds the label, letter case and blanks around the label
aside. Only a label that is empty as it stands names no button without a question; one that is left
empty by trimming is held by every text, so it names every button.
-/

namespace Walkthrough

open Run Selector Text

def Turn.reading? : Turn → Option (Element × String)
  | ⟨.page (.renderedText button), .ok text⟩ => some (button, text)
  | _ => none

def readings (trace : List Turn) : List (Element × String) :=
  trace.filterMap Turn.reading?

namespace Label

def reading (told : Element × String) : Turn :=
  ⟨.page (.renderedText told.1), .ok told.2⟩

def unread (button : Element) (fault : Fault) : Turn :=
  ⟨.page (.renderedText button), .error fault⟩

/-- The buttons whose text holds the label, letter case and blanks around the label aside. -/
def holders (label : String) (told : List (Element × String)) : List Element :=
  (told.filter (includesFolded (trim label) ·.2)).map Prod.fst

/-- The buttons that are meant by a label: none, if nothing of it is left between the blanks. -/
def named (label : String) (told : List (Element × String)) : List Element :=
  if allBlank label then [] else holders label told

/-- What the search for the buttons with a label comes to. -/
inductive Scanned (label : String) : List Turn → Except Fault (List Element) → Prop where
  | unlabelled (empty : label = "") : Scanned label [] (.ok [])
  | whole (filled : label ≠ "") (told : List (Element × String)) :
      Scanned label (⟨.page (.query "button" none), .ok (told.map Prod.fst)⟩ :: told.map reading)
        (.ok (holders label told))
  | unasked (fault : Fault) :
      Scanned label [⟨.page (.query "button" none), .error fault⟩] (.error fault)
  | broken (buttons : List Element) (told : List (Element × String)) (button : Element)
      (fault : Fault) :
      Scanned label (⟨.page (.query "button" none), .ok buttons⟩ ::
        (told.map reading ++ [unread button fault])) (.error fault)

section Scanning

variable {label : String} {before after : Records} {trace : List Turn} {button : Element}
  {told : List (Element × String)} {buttons : List Element}

theorem checked_of_held {result : Except Fault Bool}
    (held : (isLabelled (trim (lower label)) button).Held before trace after result) :
    (∃ text, trace = [reading (button, text)] ∧
        result = .ok (includesFolded (trim label) text)) ∨
      ∃ fault, trace = [unread button fault] ∧ result = .error fault := by
  rw [trim_lower] at held
  exact held_judged held

theorem scanned_of_held {result : Except Fault (List Element)}
    (held : (buttonsLabelled label).Held before trace after result) :
    Scanned label trace result := by
  unfold buttonsLabelled at held
  split at held
  · next empty =>
      obtain ⟨rfl, -, rfl⟩ := held_pure.1 held
      exact .unlabelled empty
  · next filled =>
      -- nothing is rescued, so the first failure is the outcome
      rcases held_query_bind.1 held with ⟨buttons, _, tail, rfl⟩ | ⟨fault, rfl, -, rfl⟩
      · obtain ⟨told, rfl, rfl, rfl⟩ | ⟨told, button, fault, rfl, rfl⟩ :=
          held_filterRun checked_of_held tail
        · exact .whole filled told
        · exact .broken buttons told button fault
      · exact .unasked fault

theorem Scanned.raised {fault : Fault} (scanned : Scanned label trace (.error fault)) :
    ∃ turn ∈ trace, turn.Raised := by
  cases scanned with
  | unasked => exact ⟨_, List.mem_cons_self, _, _, rfl⟩
  | broken =>
      refine ⟨_, List.mem_cons_of_mem _ (List.mem_append_right _ List.mem_cons_self), _, _, rfl⟩

theorem readings_scanned (told : List (Element × String)) (given : Except Fault (List Element)) :
    readings (⟨.page (.query "button" none), given⟩ :: told.map reading) = told := by
  rw [readings, List.filterMap_cons_none rfl, List.filterMap_map]
  exact List.filterMap_some

theorem Scanned.sublist (scanned : Scanned label trace (.ok buttons)) :
    buttons.Sublist ((readings trace).map Prod.fst) := by
  cases scanned with
  | unlabelled => exact .refl _
  | whole filled told =>
      rw [readings_scanned]
      exact List.filter_sublist.map _

theorem Scanned.query_mem (scanned : Scanned label trace (.ok buttons)) (filled : label ≠ "") :
    (⟨.page (.query "button" none), .ok ((readings trace).map Prod.fst)⟩ : Turn) ∈ trace := by
  cases scanned with
  | unlabelled empty => exact absurd empty filled
  | whole _ told =>
      rw [readings_scanned]
      exact List.mem_cons_self

theorem includesFolded_of_empty (text : String) : includesFolded "" text = true := by
  rw [includesFolded_iff]
  exact List.nil_infix

theorem holders_of_blank (blank : allBlank label = true) (told : List (Element × String)) :
    holders label told = told.map Prod.fst := by
  unfold holders
  rw [trim_eq_empty_iff.2 blank,
    List.filter_eq_self.2 fun reading _ => includesFolded_of_empty reading.2]

theorem Scanned.named_of_visible (scanned : Scanned label trace (.ok buttons))
    (visible : allBlank label = false) : buttons = named label (readings trace) := by
  cases scanned with
  | unlabelled empty =>
      subst empty
      cases visible
  | whole filled told => rw [readings_scanned, named, if_neg (by simp [visible])]

/-- What a label names is what it means, unless it is made of blanks and there are buttons. -/
theorem Scanned.named_iff (scanned : Scanned label trace (.ok buttons)) :
    buttons = named label (readings trace) ↔
      (allBlank label = true → label = "" ∨ readings trace = []) := by
  cases blank : allBlank label with
  | false =>
      constructor
      · intro _ blank
        cases blank
      · exact fun _ => scanned.named_of_visible blank
  | true =>
      rw [named, if_pos blank]
      cases scanned with
      | unlabelled empty => simp [empty]
      | whole filled told =>
          rw [readings_scanned, holders_of_blank blank]
          simp [filled]

theorem Scanned.all_of_blank (scanned : Scanned label trace (.ok buttons)) (filled : label ≠ "")
    (blank : allBlank label = true) : buttons = (readings trace).map Prod.fst := by
  cases scanned with
  | unlabelled empty => exact absurd empty filled
  | whole _ told => rw [readings_scanned, holders_of_blank blank]

end Scanning

end Label

end Walkthrough
