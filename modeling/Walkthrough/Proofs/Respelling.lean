import Mathlib.Data.List.Pairwise
import Mathlib.Data.List.Perm.Basic
import Walkthrough.Proofs.Payloads
/-!
What a registry reads depends on the fields that an object gives, and neither on which of its
spellings a field is given under nor on the order of the fields. Where no field is given twice, the
keys can be spelled otherwise, those of inner actions too, and with all fields in another order the
outcome is the same.

Main statement: `Registry.read_up_to_spelling`.
-/

namespace Walkthrough

namespace Validation

variable {α : Type} {spellings : List Spelling} {spelling : Spelling}
  {fields others : List (String × Json)}

/-! A field that is given once. -/

namespace Spelling

def uses (spelling : Spelling) (fields : List (String × Json)) : List (String × Json) :=
  fields.filter fun entry => spelling.all.contains entry.1

/-- The object has the field under at most one of its spellings. -/
def Once (spelling : Spelling) (fields : List (String × Json)) : Prop :=
  (spelling.uses fields).length ≤ 1

instance (spelling : Spelling) (fields : List (String × Json)) :
    Decidable (spelling.Once fields) :=
  inferInstanceAs (Decidable (_ ≤ _))

theorem mem_uses {entry : String × Json} :
    entry ∈ spelling.uses fields ↔ entry ∈ fields ∧ entry.1 ∈ spelling.all := by
  simp [uses]

theorem mem_uses_of_find {entry : String × Json} (found : spelling.find fields = some entry) :
    entry ∈ spelling.uses fields := by
  obtain ⟨key, spelled, there⟩ := List.exists_of_findSome?_eq_some found
  obtain ⟨value, given, rfl⟩ := Option.map_eq_some_iff.1 there
  exact mem_uses.2 ⟨Fields.mem_of_lookup given, spelled⟩

theorem uses_of_find_eq_none (absent : spelling.find fields = none) :
    spelling.uses fields = [] := by
  rw [List.eq_nil_iff_forall_not_mem]
  intro entry member
  obtain ⟨there, spelled⟩ := mem_uses.1 member
  have unknown := List.findSome?_eq_none_iff.1 absent entry.1 spelled
  rw [Option.map_eq_none_iff, Fields.lookup_eq_none_iff] at unknown
  exact unknown (List.mem_map_of_mem there)

theorem Once.find_eq (once : spelling.Once fields) :
    spelling.find fields = (spelling.uses fields).head? := by
  cases found : spelling.find fields with
  | none => rw [uses_of_find_eq_none found, List.head?_nil]
  | some entry =>
      have member := mem_uses_of_find found
      unfold Once at once
      cases used : spelling.uses fields with
      | nil => simp [used] at member
      | cons first rest =>
          have alone : rest = [] := by simpa [used] using once
          obtain rfl : entry = first := by simpa [used, alone] using member
          rfl

end Spelling

theorem unknownKeys_eq_ok_iff (once : ∀ spelling ∈ spellings, spelling.Once fields) :
    unknownKeys spellings fields = .ok () ↔
      ∀ entry ∈ fields, ∃ spelling ∈ spellings, entry.1 ∈ spelling.all := by
  rw [unknownKeys_eq_ok]
  refine forall₂_congr fun entry member => exists_congr fun spelling => and_congr_right ?_
  intro listed
  constructor
  · intro used
    obtain ⟨there, found, same⟩ := Option.map_eq_some_iff.1 used
    rw [← same]
    exact (Spelling.mem_uses.1 (Spelling.mem_uses_of_find found)).2
  · intro spelled
    have there := Spelling.mem_uses.2 ⟨member, spelled⟩
    have single := once spelling listed
    have found := single.find_eq
    unfold Spelling.Once at single
    cases used : spelling.uses fields with
    | nil => simp [used] at there
    | cons first rest =>
        have alone : rest = [] := by simpa [used] using single
        obtain rfl : entry = first := by simpa [used, alone] using there
        simp [found, used]

/-! Objects with their keys spelled otherwise. -/

def Distinct (spellings : List Spelling) : Prop :=
  ∀ spelling ∈ spellings, ∀ other ∈ spellings, ∀ key, key ∈ spelling.all → key ∈ other.all →
    spelling = other

theorem distinct_of_nodup (fresh : (spellings.flatMap Spelling.all).Nodup) :
    Distinct spellings := by
  intro spelling listed other known key first second
  have turned : Std.Symm (Function.onFun List.Disjoint Spelling.all) :=
    ⟨fun _ _ apart _ first second => apart second first⟩
  by_contra different
  exact (List.nodup_flatMap.1 fresh).2.forall listed known different first second

/-- How fields may be given again: the spellings of each field, and the values that are equivalent
for the field of a name. -/
structure Respelling where
  spellings : List Spelling
  Alike : String → Json → Json → Prop
  distinct : Distinct spellings
  refl : ∀ name value, Alike name value value
  symm : ∀ {name value other}, Alike name value other → Alike name other value

namespace Respelling

variable {table : Respelling}

/-- One field as it may be given again: as it was, or under a spelling of the same field with an
equivalent value. -/
inductive Again (table : Respelling) : String × Json → String × Json → Prop where
  | same (entry : String × Json) : Again table entry entry
  | spelled {spelling : Spelling} {key again : String} {value other : Json}
      (listed : spelling ∈ table.spellings) (first : key ∈ spelling.all)
      (second : again ∈ spelling.all) (alike : table.Alike spelling.name value other) :
      Again table (key, value) (again, other)

/-- Each field is given again in its own way, and all of them in some order. -/
def Respelt (table : Respelling) (fields others : List (String × Json)) : Prop :=
  ∃ again, List.Forall₂ table.Again fields again ∧ again.Perm others

theorem Again.symm {entry other : String × Json} (again : table.Again entry other) :
    table.Again other entry := by
  cases again with
  | same => exact .same _
  | spelled listed first second alike => exact .spelled listed second first (table.symm alike)

theorem Respelt.symm (respelt : table.Respelt fields others) : table.Respelt others fields := by
  obtain ⟨again, each, perm⟩ := respelt
  have back : List.Forall₂ table.Again again fields :=
    (each.imp fun _ _ again => again.symm).flip
  exact List.perm_comp_forall₂ perm.symm back

theorem Again.spells_iff {entry other : String × Json} (again : table.Again entry other)
    (listed : spelling ∈ table.spellings) :
    entry.1 ∈ spelling.all ↔ other.1 ∈ spelling.all := by
  cases again with
  | same => rfl
  | @spelled own key respelled _ _ known first second =>
      constructor
      · intro member
        rwa [table.distinct spelling listed own known key member first]
      · intro member
        rwa [table.distinct spelling listed own known respelled member second]

namespace Respelt

variable (respelt : table.Respelt fields others) (listed : spelling ∈ table.spellings)
  (once : spelling.Once fields)
include respelt listed once

theorem uses :
    List.Forall₂ (fun entry other => table.Alike spelling.name entry.2 other.2)
      (spelling.uses fields) (spelling.uses others) := by
  obtain ⟨again, each, perm⟩ := respelt
  have among : List.Forall₂ table.Again (spelling.uses fields) (spelling.uses again) := by
    refine List.rel_filter ?_ each
    intro entry other again
    simpa using again.spells_iff listed
  have spelled : ∀ entry ∈ spelling.uses fields, entry.1 ∈ spelling.all :=
    fun entry member => (Spelling.mem_uses.1 member).2
  -- of one field or none there is only one order
  have ordered : spelling.uses again = spelling.uses others := by
    have perm : (spelling.uses again).Perm (spelling.uses others) := perm.filter _
    have short : (spelling.uses again).length ≤ 1 := by
      rw [← among.length_eq]
      exact once
    match used : spelling.uses again, short with
    | [], _ => exact (List.nil_perm.1 (used ▸ perm)).symm
    | [only], _ => exact (List.perm_singleton.1 (used ▸ perm.symm)).symm
  rw [← ordered]
  refine ((List.forall₂_and_left _ _).2 ⟨spelled, among⟩).imp ?_
  rintro entry other ⟨member, again⟩
  cases again with
  | same => exact table.refl _ _
  | @spelled own key _ _ _ known first _ alike =>
      rwa [table.distinct spelling listed own known key member first]

theorem once_again : spelling.Once others := by
  have lengths := (respelt.uses listed once).length_eq
  unfold Spelling.Once at once ⊢
  rwa [← lengths]

theorem find :
    Option.Rel (fun entry other => table.Alike spelling.name entry.2 other.2)
      (spelling.find fields) (spelling.find others) := by
  have each := respelt.uses listed once
  rw [once.find_eq, (respelt.once_again listed once).find_eq]
  generalize spelling.uses fields = first, spelling.uses others = second at each
  cases each with
  | nil => exact .none
  | cons here _ => exact .some here

theorem found_again {read : String → Json → Checked α} {found : α}
    (reads : ∀ entry other : String × Json, spelling.find fields = some entry →
      table.Alike spelling.name entry.2 other.2 →
      read entry.1 entry.2 = .ok found → read other.1 other.2 = .ok found)
    (told : ∃ entry, spelling.find fields = some entry ∧ read entry.1 entry.2 = .ok found) :
    ∃ other, spelling.find others = some other ∧ read other.1 other.2 = .ok found := by
  obtain ⟨entry, given, told⟩ := told
  have there := respelt.find listed once
  generalize spelling.find others = second at there ⊢
  rw [given] at there
  cases there with
  | some alike => exact ⟨_, rfl, reads _ _ given alike told⟩

theorem required {read : String → Json → Checked α} {found : α}
    (reads : ∀ entry other : String × Json, spelling.find fields = some entry →
      table.Alike spelling.name entry.2 other.2 →
      read entry.1 entry.2 = .ok found → read other.1 other.2 = .ok found)
    (told : Validation.required spelling read fields = .ok found) :
    Validation.required spelling read others = .ok found :=
  required_eq_ok.2 (respelt.found_again listed once reads (required_eq_ok.1 told))

theorem optional {read : String → Json → Checked α} {default found : α}
    (reads : ∀ entry other : String × Json, spelling.find fields = some entry →
      table.Alike spelling.name entry.2 other.2 →
      read entry.1 entry.2 = .ok found → read other.1 other.2 = .ok found)
    (told : Validation.optional spelling default read fields = .ok found) :
    Validation.optional spelling default read others = .ok found := by
  obtain ⟨absent, same⟩ | given := optional_eq_ok.1 told
  · have there := respelt.find listed once
    rw [absent] at there
    generalize missing : spelling.find others = second at there
    cases there
    exact optional_eq_ok.2 (.inl ⟨missing, same⟩)
  · exact optional_eq_ok.2 (.inr (respelt.found_again listed once reads given))

end Respelt

theorem Respelt.known (respelt : table.Respelt fields others) (subset : spellings ⊆ table.spellings)
    (once : ∀ spelling ∈ spellings, spelling.Once fields)
    (told : unknownKeys spellings fields = .ok ()) : unknownKeys spellings others = .ok () := by
  rw [unknownKeys_eq_ok_iff once] at told
  rw [unknownKeys_eq_ok_iff fun spelling listed =>
    respelt.once_again (subset listed) (once spelling listed)]
  obtain ⟨again, each, perm⟩ := respelt
  have spelled : ∀ entry ∈ again, ∃ spelling ∈ spellings, entry.1 ∈ spelling.all := by
    clear once perm
    induction each with
    | nil => simp
    | cons respells _ ih =>
        obtain ⟨⟨spelling, listed, first⟩, rest⟩ := List.forall_mem_cons.1 told
        have here := (respells.spells_iff (subset listed)).1 first
        exact List.forall_mem_cons.2 ⟨⟨spelling, listed, here⟩, ih rest⟩
  exact fun entry member => spelled entry (perm.mem_iff.2 member)

end Respelling

theorem scalar_of_eq {read : Json → Except Defect α} {found : α} {entry other : String × Json}
    (same : entry.2 = other.2) (told : scalar read entry.1 entry.2 = .ok found) :
    scalar read other.1 other.2 = .ok found := by
  rw [← same]
  exact located_eq_ok.2 (located_eq_ok.1 told)

end Validation

open Validation

/-! Inner actions, with their keys spelled otherwise. -/

theorem Spellings.distinct : Distinct Spellings.multi :=
  distinct_of_nodup (by decide)

namespace InnerAction

theorem spellings_subset : Spellings.inner ⊆ Spellings.multi := by
  simp [Spellings.inner, Spellings.multi, Spellings.plain]

def respelling : Respelling where
  spellings := Spellings.inner
  Alike _ value other := value = other
  distinct spelling listed other known :=
    Spellings.distinct spelling (spellings_subset listed) other (spellings_subset known)
  refl _ _ := rfl
  symm same := same.symm

/-- The same value, or the object of the same inner action. -/
inductive Alike : Json → Json → Prop where
  | same (value : Json) : Alike value value
  | respelt {fields others : List (String × Json)} (respelt : respelling.Respelt fields others) :
      Alike (.object fields) (.object others)

def Single (item : Json) : Prop :=
  ∀ fields, item = .object fields → ∀ spelling ∈ Spellings.inner, spelling.Once fields

namespace Alike

variable {item other : Json}

theorem symm (alike : Alike item other) : Alike other item := by
  cases alike with
  | same => exact .same _
  | respelt respelt => exact .respelt respelt.symm

theorem single (alike : Alike item other) (single : Single item) : Single other := by
  cases alike with
  | same => exact single
  | respelt respelt =>
      rintro _ ⟨⟩ spelling listed
      exact respelt.once_again listed (single _ rfl spelling listed)

theorem read {inner : InnerAction} (alike : Alike item other) (single : Single item)
    (told : InnerAction.read item = .ok inner) : InnerAction.read other = .ok inner := by
  cases alike with
  | same => exact told
  | @respelt fields others respelt =>
      have once := single fields rfl
      have whole := read_eq_ok.1 told
      have listed : ∀ spelling ∈ Spellings.inner, spelling ∈ respelling.spellings :=
        fun _ listed => listed
      simp only [Spellings.inner, List.forall_mem_cons] at listed once
      obtain ⟨action, target, value, requirements, -⟩ := listed
      obtain ⟨actionOnce, targetOnce, valueOnce, requirementsOnce, -⟩ := once
      exact read_eq_ok.2
        ⟨respelt.required action actionOnce (fun _ _ _ => scalar_of_eq) whole.action,
          respelt.optional target targetOnce (fun _ _ _ => scalar_of_eq) whole.target,
          respelt.optional value valueOnce (fun _ _ _ => scalar_of_eq) whole.value,
          respelt.optional requirements requirementsOnce (fun _ _ _ => scalar_of_eq)
            whole.requirements,
          respelt.known (List.Subset.refl _) (single fields rfl) whole.known⟩

end Alike

end InnerAction

/-! Steps, with their keys spelled otherwise. -/

namespace Step

/-- Two values of a field of a step are alike if they are the same, but the entries of custom data
may come in another order, and inner actions may be spelled otherwise. -/
inductive Alike (name : String) : Json → Json → Prop where
  | same (value : Json) : Alike name value value
  | custom {entries others : List (String × Json)} (named : name = Spellings.custom.name)
      (perm : entries.Perm others) : Alike name (.object entries) (.object others)
  | actions {given others : List Json} (named : name = Spellings.actions.name)
      (each : List.Forall₂ InnerAction.Alike given others) :
      Alike name (.list given) (.list others)

namespace Alike

variable {name : String} {value other : Json}

theorem symm (alike : Alike name value other) : Alike name other value := by
  cases alike with
  | same => exact .same _
  | custom named perm => exact .custom named perm.symm
  | actions named each => exact .actions named (each.imp fun _ _ alike => alike.symm).flip

theorem eq (alike : Alike name value other) (uncustomised : name ≠ Spellings.custom.name)
    (plain : name ≠ Spellings.actions.name) : value = other := by
  cases alike with
  | same => rfl
  | custom named => exact absurd named uncustomised
  | actions named => exact absurd named plain

end Alike

def respelling : Respelling where
  spellings := Spellings.multi
  Alike := Alike
  distinct := Spellings.distinct
  refl _ value := .same value
  symm alike := alike.symm

/-- The object gives no field of the model twice, and none of the inner actions does. -/
structure Model.Single (model : Model) (fields : List (String × Json)) : Prop where
  own : ∀ spelling ∈ model.spellings, spelling.Once fields
  inner : model = .multi → ∀ given, Spellings.actions.given fields = some (.list given) →
    ∀ item ∈ given, InnerAction.Single item

def Same (step other : Step) : Prop :=
  other = { step with custom := other.custom } ∧ step.custom.Perm other.custom

theorem Same.model_eq {step other : Step} (same : Same step other) : step.model = other.model := by
  rw [same.1]
  rfl

theorem reads_alike {given others : List Json} {actions : List InnerAction}
    (alike : List.Forall₂ InnerAction.Alike given others)
    (single : ∀ item ∈ given, InnerAction.Single item)
    (each : List.Forall₂ (fun item inner => InnerAction.read item = .ok inner) given actions) :
    List.Forall₂ (fun item inner => InnerAction.read item = .ok inner) others actions := by
  induction alike generalizing actions with
  | nil => exact each
  | cons first _ ih =>
      obtain ⟨here, rest⟩ := List.forall_mem_cons.1 single
      cases each with
      | cons told each => exact .cons (first.read here told) (ih rest each)

theorem readActions_alike {key again : String} {value other : Json} {actions : List InnerAction}
    (alike : Alike Spellings.actions.name value other)
    (single : ∀ given, value = .list given → ∀ item ∈ given, InnerAction.Single item)
    (told : readActions key value = .ok actions) : readActions again other = .ok actions := by
  obtain ⟨filled, given, rfl, each⟩ := actions_of_readActions told
  cases alike with
  | same => exact InnerAction.readActions_of_forall₂ filled each again
  | actions _ alike =>
      exact InnerAction.readActions_of_forall₂ filled
        (reads_alike alike (single given rfl) each) again

theorem textMapping_alike {key again : String} {value other : Json}
    {entries : List (String × String)} (alike : Alike Spellings.custom.name value other)
    (told : textMapping key value = .ok entries) :
    ∃ reordered, textMapping again other = .ok reordered ∧ entries.Perm reordered := by
  obtain rfl := textMapping_eq_ok.1 told
  cases alike with
  | same => exact ⟨entries, textMapping_eq_ok.2 rfl, List.Perm.refl _⟩
  | @custom _ others _ perm =>
      have mapped : Relation.Comp (· = List.map (fun field : String × String =>
          (field.1, Json.text field.2)) ·) List.Perm others entries := by
        rw [List.eq_map_comp_perm]
        exact perm.symm
      obtain ⟨reordered, rfl, same⟩ := mapped
      exact ⟨reordered, textMapping_eq_ok.2 rfl, same.symm⟩

variable {model : Model} {fields others : List (String × Json)} {step : Step}

theorem body_respelt {found : StepBody} (respelt : respelling.Respelt fields others)
    (single : model.Single fields) (told : readBody model fields = .ok found) :
    readBody model others = .ok found := by
  cases model with
  | plain => exact told
  | multi =>
      obtain ⟨_, delay, acting, delayed, same⟩ := also_eq_ok.1 told
      obtain ⟨_, actions, build, acts, rfl⟩ := also_eq_ok.1 acting
      have actionsListed : Spellings.actions ∈ Spellings.multi := by simp [Spellings.multi]
      have delayListed : Spellings.delay ∈ Spellings.multi := by simp [Spellings.multi]
      refine also_eq_ok.2 ⟨_, delay, also_eq_ok.2 ⟨_, actions, build, ?_, rfl⟩, ?_, same⟩
      · refine respelt.required actionsListed (single.own _ actionsListed) ?_ acts
        rintro ⟨_, value⟩ ⟨_, other⟩ found alike read
        refine readActions_alike alike ?_ read
        rintro given rfl
        exact single.inner rfl given (by simp [Spelling.given, found])
      · refine respelt.optional delayListed (single.own _ delayListed) ?_ delayed
        intro entry other _ alike
        exact scalar_of_eq (Alike.eq alike (by decide) (by decide))

theorem text_respelt {spelling : Spelling} {found : Option String}
    (respelt : respelling.Respelt fields others) (single : model.Single fields)
    (listed : spelling ∈ Spellings.texts) (own : spelling ∈ model.spellings)
    (told : optionalText spelling fields = .ok found) :
    optionalText spelling others = .ok found := by
  have named : ∀ spelling ∈ Spellings.texts, spelling.name ≠ Spellings.custom.name ∧
      spelling.name ≠ Spellings.actions.name := by
    simp [Spellings.texts, Spellings.value, Spellings.requirements, Spellings.objectives,
      Spellings.hints, Spellings.stepId, Spellings.sectionId, Spellings.custom, Spellings.actions]
  obtain ⟨uncustomised, plain⟩ := named spelling listed
  refine respelt.optional (texts_subset listed) (single.own _ own) ?_ told
  intro entry other _ alike
  exact scalar_of_eq (Alike.eq alike uncustomised plain)

theorem custom_respelt {found : List (String × String)} (respelt : respelling.Respelt fields others)
    (once : Spellings.custom.Once fields)
    (told : optional Spellings.custom [] textMapping fields = .ok found) :
    ∃ reordered, optional Spellings.custom [] textMapping others = .ok reordered ∧
      found.Perm reordered := by
  have there := respelt.find (by simp [respelling, Spellings.multi, Spellings.plain]) once
  unfold Validation.optional at told ⊢
  generalize Spellings.custom.find fields = first, Spellings.custom.find others = second
    at there told ⊢
  cases there with
  | none =>
      cases told
      exact ⟨[], rfl, List.Perm.refl _⟩
  | some alike => exact textMapping_alike alike told

theorem action_respelt (respelt : respelling.Respelt fields others)
    (once : Spellings.action.Once fields) {found : Action}
    (told : required Spellings.action (scalar readAction) fields = .ok found) :
    required Spellings.action (scalar readAction) others = .ok found := by
  refine respelt.required (by simp [respelling, Spellings.multi, Spellings.plain]) once ?_ told
  intro entry other _ alike
  exact scalar_of_eq (Alike.eq alike (by decide) (by decide))

theorem read_respelt (respelt : respelling.Respelt fields others) (single : model.Single fields)
    (told : Step.read model (.object fields) = .ok step) :
    ∃ other, Step.read model (.object others) = .ok other ∧ step.Same other := by
  obtain ⟨whole, known, accepts⟩ := read_eq_ok.1 told
  have own : ∀ spelling ∈ Spellings.plain, spelling ∈ model.spellings := by
    cases model with
    | plain => exact fun _ listed => listed
    | multi => exact fun _ listed => List.mem_append_left _ listed
  simp only [Spellings.plain, List.forall_mem_cons] at own
  obtain ⟨action, target, value, requirements, objectives, hints, stepId, sectionId, custom, -⟩ :=
    own
  obtain ⟨reordered, customised, perm⟩ := custom_respelt respelt (single.own _ custom) whole.custom
  have targeted : optional Spellings.target "" (scalar readText) others = .ok step.target := by
    refine respelt.optional (spellings_subset model target) (single.own _ target) ?_ whole.target
    intro entry other _ alike
    exact scalar_of_eq (Alike.eq alike (by decide) (by decide))
  have text {spelling : Spelling} {found : Option String} (listed : spelling ∈ Spellings.texts)
      (own : spelling ∈ model.spellings) (told : optionalText spelling fields = .ok found) :=
    text_respelt respelt single listed own told
  refine ⟨{ step with custom := reordered }, read_eq_ok.2 ⟨⟨⟨?_, ?_, ?_, ?_, ?_, ?_, ?_, ?_⟩,
    targeted, customised⟩, ?_, accepts⟩, rfl, perm⟩
  · exact action_respelt respelt (single.own _ action) whole.action
  · exact text (by simp [Spellings.texts]) value whole.value
  · exact text (by simp [Spellings.texts]) requirements whole.requirements
  · exact text (by simp [Spellings.texts]) objectives whole.objectives
  · exact text (by simp [Spellings.texts]) hints whole.hints
  · exact text (by simp [Spellings.texts]) stepId whole.stepId
  · exact text (by simp [Spellings.texts]) sectionId whole.sectionId
  · exact body_respelt respelt single whole.body
  · exact respelt.known (spellings_subset model) single.own known

end Step

/-! Registries. -/

namespace Registry

variable {registry : Registry} {fields others : List (String × Json)} {entry : Registration}
  {step : Step}

theorem read_of_get (found : registry.get (actionOf fields) = .ok entry)
    (told : Step.read entry.model (.object fields) = .ok step) :
    registry.read (.object fields) = .ok step := by
  have named := name_of_get found
  unfold Registry.read
  dsimp only
  rw [named] at found ⊢
  simp only [found, told]

theorem actionOf_of_read {model : Step.Model}
    (told : Step.read model (.object fields) = .ok step) :
    actionOf fields = .text step.action.name :=
  actionOf_of_readAction (Step.read_eq_ok.1 told).1.action

theorem read_payload {payload : Json} (told : registry.read payload = .ok step) :
    registry.read (.object step.payload) = .ok step := by
  obtain ⟨fields, entry, rfl, found, read⟩ := read_ok told
  have again := Step.read_payload read
  rw [actionOf_of_read read, ← actionOf_of_read again] at found
  exact read_of_get found again

/-- The object gives no field of the step that it describes twice. -/
structure Single (registry : Registry) (fields : List (String × Json)) : Prop where
  action : Spellings.action.Once fields
  model : ∀ entry, registry.get (actionOf fields) = .ok entry → entry.model.Single fields

/-- Two outcomes of reading: both objects are refused, or both are read as the same step. -/
inductive Agree : Except Fault Step → Except Fault Step → Prop where
  | refused (fault other : Fault) : Agree (.error fault) (.error other)
  | read {step other : Step} (same : step.Same other) (model : step.model = other.model) :
      Agree (.ok step) (.ok other)

theorem Agree.of_ok {outcome other : Except Fault Step}
    (there : ∀ step, outcome = .ok step → ∃ again, other = .ok again ∧ step.Same again)
    (back : ∀ step, other = .ok step → ∃ again, outcome = .ok again) : Agree outcome other := by
  cases outcome with
  | ok step =>
      obtain ⟨again, rfl, same⟩ := there step rfl
      exact .read same same.model_eq
  | error fault =>
      cases other with
      | ok step =>
          obtain ⟨again, impossible⟩ := back step rfl
          cases impossible
      | error other => exact .refused fault other

theorem read_respelt (respelt : Step.respelling.Respelt fields others)
    (found : registry.get (actionOf fields) = .ok entry) (single : entry.model.Single fields)
    (told : Step.read entry.model (.object fields) = .ok step) :
    ∃ other, registry.read (.object others) = .ok other ∧ step.Same other := by
  obtain ⟨other, read, same⟩ := Step.read_respelt respelt single told
  refine ⟨other, ?_, same⟩
  have acts : other.action = step.action := by rw [same.1]
  rw [actionOf_of_read told, ← acts, ← actionOf_of_read read] at found
  exact read_of_get found read

theorem singles_alike {given others : List Json}
    (alike : List.Forall₂ InnerAction.Alike given others)
    (single : ∀ item ∈ given, InnerAction.Single item) :
    ∀ item ∈ others, InnerAction.Single item := by
  induction alike with
  | nil => exact single
  | cons first _ ih =>
      obtain ⟨here, rest⟩ := List.forall_mem_cons.1 single
      exact List.forall_mem_cons.2 ⟨first.single here, ih rest⟩

theorem single_respelt {model : Step.Model} (respelt : Step.respelling.Respelt fields others)
    (single : model.Single fields) : model.Single others where
  own spelling listed :=
    respelt.once_again (Step.spellings_subset model listed) (single.own spelling listed)
  inner := by
    rintro rfl given there
    have listed : Spellings.actions ∈ Spellings.multi := by simp [Spellings.multi]
    have found := respelt.find listed (single.own _ listed)
    obtain ⟨⟨key, value⟩, again, rfl⟩ := Option.map_eq_some_iff.1 there
    rw [again] at found
    cases first : Spellings.actions.find fields with
    | none => simp [first] at found
    | some entry =>
        obtain ⟨own, value⟩ := entry
        rw [first] at found
        cases found with
        | some alike =>
            have alike : Step.Alike Spellings.actions.name value (.list given) := alike
            have inner := fun items => single.inner rfl items
            simp only [Spelling.given, first, Option.map_some, Option.some.injEq] at inner
            cases alike with
            | same => exact inner given rfl
            | actions _ each => exact singles_alike each (inner _ rfl)

/-- Steps survive being written out: the payload of a step reads back as the step. And the spelling
of an object does not matter: if it gives each field once, then another object that gives the same
fields, its keys spelled otherwise and in another order, is refused like it or is read as the same
step. -/
theorem read_up_to_spelling (registry : Registry) :
    (∀ payload step, registry.read payload = .ok step →
      registry.read (.object step.payload) = .ok step) ∧
    ∀ fields others, registry.Single fields → Step.respelling.Respelt fields others →
      Agree (registry.read (.object fields)) (registry.read (.object others)) := by
  refine ⟨fun _ _ => read_payload, fun fields others single respelt => .of_ok ?_ ?_⟩
  · intro step told
    obtain ⟨_, entry, ⟨⟩, found, read⟩ := read_ok told
    exact read_respelt respelt found (single.model entry found) read
  · intro step told
    obtain ⟨_, entry, ⟨⟩, found, read⟩ := read_ok told
    have once := respelt.once_again (by simp [Step.respelling, Spellings.multi, Spellings.plain])
      single.action
    -- the action is the same, and with it the model
    have action := Step.action_respelt respelt.symm once (Step.read_eq_ok.1 read).1.action
    have same : actionOf fields = actionOf others :=
      (actionOf_of_readAction action).trans (actionOf_of_read read).symm
    have own : entry.model.Single others :=
      single_respelt respelt (single.model entry (same ▸ found))
    obtain ⟨again, told, -⟩ := read_respelt respelt.symm found own read
    exact ⟨again, told⟩

def lesson : List (String × Json) :=
  [("targetAction", .text "multistep"), ("stepId", .text "lesson"), ("stepDelay", .int 20),
    ("customData", .object [("level", .text "easy"), ("topic", .text "tables")]),
    ("internalActions", .list [.object
      [("targetaction", .text "button"), ("refTarget", .text "Save")]])]

def lessonAgain : List (String × Json) :=
  [("internal_actions", .list [.object
      [("ref_target", .text "Save"), ("target_action", .text "button")]]),
    ("custom_data", .object [("topic", .text "tables"), ("level", .text "easy")]),
    ("step_delay_ms", .int 20), ("step_id", .text "lesson"), ("target_action", .text "multistep")]

def lessonStep : Step where
  action := .multistep
  target := ""
  value := none
  requirements := none
  objectives := none
  hints := none
  identity := .ofStep "lesson"
  custom := [("level", "easy"), ("topic", "tables")]
  body := .multiple [⟨.button, "Save", none, none⟩] (some 20)

theorem lesson_single : standard.Single lesson where
  action := by decide
  model entry found := by
    have multi : entry.model = .multi := by
      cases found
      rfl
    rw [multi]
    refine ⟨by decide, ?_⟩
    rintro - given listed item member
    cases listed
    obtain rfl := List.mem_singleton.1 member
    rintro _ ⟨⟩
    decide

theorem lesson_respelt : Step.respelling.Respelt lesson lessonAgain := by
  have again (spelling : Spelling) (listed : spelling ∈ Spellings.multi)
      {key respelled : String} {value other : Json} (first : key ∈ spelling.all)
      (second : respelled ∈ spelling.all) (alike : Step.Alike spelling.name value other) :
      Step.respelling.Again (key, value) (respelled, other) :=
    .spelled listed first second alike
  have inner (spelling : Spelling) (listed : spelling ∈ Spellings.inner)
      {key respelled : String} {value : Json} (first : key ∈ spelling.all)
      (second : respelled ∈ spelling.all) :
      InnerAction.respelling.Again (key, value) (respelled, value) :=
    .spelled listed first second rfl
  have press : InnerAction.Alike
      (.object [("targetaction", .text "button"), ("refTarget", .text "Save")])
      (.object [("ref_target", .text "Save"), ("target_action", .text "button")]) :=
    .respelt ⟨[("target_action", .text "button"), ("ref_target", .text "Save")],
      .cons (inner Spellings.action (by simp [Spellings.inner]) (by decide) (by decide))
        (.cons (inner Spellings.target (by simp [Spellings.inner]) (by decide) (by decide)) .nil),
      List.Perm.swap _ _ _⟩
  simp only [Spellings.multi, Spellings.plain] at again
  refine ⟨lessonAgain.reverse, ?_, List.reverse_perm _⟩
  refine .cons (again Spellings.action (by simp) (by decide) (by decide) (.same _)) ?_
  refine .cons (again Spellings.stepId (by simp) (by decide) (by decide) (.same _)) ?_
  refine .cons (again Spellings.delay (by simp) (by decide) (by decide) (.same _)) ?_
  refine .cons (again Spellings.custom (by simp) (by decide) (by decide)
    (.custom rfl (List.Perm.swap _ _ _))) ?_
  exact .cons (again Spellings.actions (by simp) (by decide) (by decide)
    (.actions rfl (.cons press .nil))) .nil

/-- The multi-step reads back from its payload, and reads the same by the names of its fields. -/
theorem lesson_survives :
    standard.read (.object lesson) = .ok lessonStep ∧
      standard.read (.object lessonStep.payload) = .ok lessonStep ∧ standard.Single lesson ∧
      Step.respelling.Respelt lesson lessonAgain ∧
      Agree (standard.read (.object lesson)) (standard.read (.object lessonAgain)) :=
  have told : standard.read (.object lesson) = .ok lessonStep := rfl
  ⟨told, (read_up_to_spelling standard).1 _ _ told, lesson_single, lesson_respelt,
    (read_up_to_spelling standard).2 _ _ lesson_single lesson_respelt⟩

end Registry

end Walkthrough
