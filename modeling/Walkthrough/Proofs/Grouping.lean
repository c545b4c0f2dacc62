import Walkthrough.Proofs.Identities
/-!
Controls in groups. The controls in the content root are read one after the other. One with an id
joins the group of its key, at the end of it; a key that is new opens a group behind all others. So
the groups divide the controls that have an id, as they stand in the document. Completing a step
marks the group of its key in one call and announces it with its first control; where there is no
such group nothing is marked.
Main statement: `completes_one_group`.
-/

namespace Walkthrough

/-! Talks in which no call of the page fails. -/

/-- A call of the page is answered, and what is set as the content root is a selector if it is
anything at all. -/
def Turn.served : Turn → Prop
  | ⟨.page _, reply⟩ => ∃ answer, reply = .ok answer
  | ⟨.settings, tuning⟩ => tuning.contentRootSelector.truthy = true →
      ∃ selector, tuning.contentRootSelector = .text selector
  | _ => True

namespace Run

variable {α β : Type} {before after : Records} {trace : List Turn} {result : Except Fault β}

/-- The run is held, and no call of the page fails in it. -/
def Served (run : Run α) (before : Records) (trace : List Turn) (after : Records)
    (result : Except Fault α) : Prop :=
  run.Held before trace after result ∧ ∀ turn ∈ trace, turn.served

theorem served_pure {value : β} :
    (pure value : Run β).Served before trace after result ↔
      trace = [] ∧ after = before ∧ result = .ok value := by
  unfold Served
  rw [held_pure]
  constructor
  · exact And.left
  · rintro ⟨rfl, rfl, rfl⟩
    exact ⟨⟨rfl, rfl, rfl⟩, by simp⟩

theorem served_throw {fault : Fault} :
    (throw fault : Run β).Served before trace after result ↔
      trace = [] ∧ after = before ∧ result = .error fault := by
  unfold Served
  rw [held_throw]
  constructor
  · exact And.left
  · rintro ⟨rfl, rfl, rfl⟩
    exact ⟨⟨rfl, rfl, rfl⟩, by simp⟩

theorem served_bind {run : Run α} {next : α → Run β} :
    (run >>= next).Served before trace after result ↔
      (∃ value first middle second, run.Served before first middle (.ok value) ∧
        (next value).Served middle second after result ∧ trace = first ++ second) ∨
      ∃ fault, run.Served before trace after (.error fault) ∧ result = .error fault := by
  unfold Served
  rw [held_bind]
  constructor
  · rintro ⟨⟨value, first, middle, second, head, last, rfl⟩ | ⟨fault, failed, rfl⟩, served⟩
    · obtain ⟨earlier, later⟩ := List.forall_mem_append.1 served
      exact .inl ⟨value, first, middle, second, ⟨head, earlier⟩, ⟨last, later⟩, rfl⟩
    · exact .inr ⟨fault, ⟨failed, served⟩, rfl⟩
  · rintro (⟨value, first, middle, second, ⟨head, earlier⟩, ⟨last, later⟩, rfl⟩ |
      ⟨fault, ⟨failed, served⟩, rfl⟩)
    · exact ⟨.inl ⟨value, first, middle, second, head, last, rfl⟩,
        List.forall_mem_append.2 ⟨earlier, later⟩⟩
    · exact ⟨.inr ⟨fault, failed, rfl⟩, served⟩

theorem served_page_bind {call : PageCall} {next : call.Answer → Run β} :
    (page call >>= next).Served before trace after result ↔
      ∃ answer rest, (next answer).Served before rest after result ∧
        trace = ⟨.page call, .ok answer⟩ :: rest := by
  unfold Served
  rw [held_bind]
  constructor
  · rintro ⟨⟨answer, _, _, rest, asked, tail, rfl⟩ | ⟨fault, failed, -⟩, served⟩
    · obtain ⟨rfl, rfl⟩ := held_page.1 asked
      exact ⟨answer, rest, ⟨tail, (List.forall_mem_append.1 served).2⟩, rfl⟩
    · obtain ⟨rfl, -⟩ := held_page.1 failed
      obtain ⟨_, same⟩ := served _ List.mem_cons_self
      cases same
  · rintro ⟨answer, rest, ⟨tail, later⟩, rfl⟩
    exact ⟨.inl ⟨answer, [_], before, rest, held_page.2 ⟨rfl, rfl⟩, tail, rfl⟩,
      List.forall_mem_cons.2 ⟨⟨answer, rfl⟩, later⟩⟩

end Run

namespace Control

open Run

/-! The groups of some controls. -/

/-- A control, and the attributes that were read from it. -/
abbrev Rendered := Element × List (String × String)

def keyed (rendered : List Rendered) : List (String × Element) :=
  rendered.filterMap fun control => (key? control.2).map fun key => (key, control.1)

def bearers (rendered : List Rendered) (key : String) : List Element :=
  (rendered.filter fun control => key? control.2 == some key).map Prod.fst

def Groups.members (groups : Groups) : List (String × Element) :=
  groups.flatMap fun group => group.2.map fun element => (group.1, element)

/-- The groups divide the controls that have an id: every one of them is in one group and in it
once, the groups are those of different keys, in the order in which these come up first, and a group
has the controls of its key in their order. -/
structure Divides (rendered : List Rendered) (groups : Groups) : Prop where
  once : groups.members.Perm (keyed rendered)
  distinct : (groups.map Prod.fst).Nodup
  order : groups.map Prod.fst = ((keyed rendered).map Prod.fst).eraseDups
  stable : ∀ group ∈ groups, group.2 = bearers rendered group.1

theorem key?_isSome_iff (attributes : List (String × String)) :
    (key? attributes).isSome = true ↔
      Text.allBlank ((attributeValue attributes "data-section-id").getD "") = false ∨
        Text.allBlank ((attributeValue attributes "data-step-id").getD "") = false := by
  simp only [← Bool.not_eq_true, ← Text.trim_eq_empty_iff]
  unfold key? keyOf?
  dsimp only
  by_cases ofSection : Text.trim ((attributeValue attributes "data-section-id").getD "") = ""
  · by_cases ofStep : Text.trim ((attributeValue attributes "data-step-id").getD "") = "" <;>
      simp [ofSection, ofStep]
  · simp [ofSection]

theorem mem_keys_iff {rendered : List Rendered} {key : String} :
    key ∈ (keyed rendered).map Prod.fst ↔ bearers rendered key ≠ [] := by
  simp only [keyed, bearers, List.mem_map, List.mem_filterMap, Option.map_eq_some_iff, ne_eq,
    List.map_eq_nil_iff, List.filter_eq_nil_iff, beq_iff_eq]
  constructor
  · rintro ⟨_, ⟨control, member, own, named, rfl⟩, rfl⟩ none
    exact none control member named
  · intro some
    simp only [not_forall, not_not] at some
    obtain ⟨control, member, named⟩ := some
    exact ⟨_, ⟨control, member, key, named, rfl⟩, rfl⟩

/-! A control that joins its group. -/

def join (groups : Groups) (control : Rendered) : Groups :=
  match key? control.2 with
  | some key => groups.add key control.1
  | none => groups

def gather (groups : Groups) (rendered : List Rendered) : Groups :=
  rendered.foldl join groups

section Joining

variable {groups : Groups} {key : String} {element : Element} {rendered : List Rendered}

theorem members_add (groups : Groups) (key : String) (element : Element) :
    (groups.add key element).members.Perm ((key, element) :: groups.members) := by
  induction groups with
  | nil => rfl
  | cons group rest ih =>
      unfold Groups.add
      split
      · next same =>
          subst same
          simp [Groups.members]
      · exact (ih.append_left _).trans List.perm_middle

theorem keys_add (groups : Groups) (key : String) (element : Element) :
    (groups.add key element).map Prod.fst =
      if key ∈ groups.map Prod.fst then groups.map Prod.fst else groups.map Prod.fst ++ [key] := by
  induction groups with
  | nil => rfl
  | cons group rest ih =>
      unfold Groups.add
      by_cases same : group.1 = key
      · simp [same]
      · rw [if_neg same, List.map_cons, ih]
        by_cases later : key ∈ rest.map Prod.fst <;> simp [later, Ne.symm same]

theorem mem_of_mem_add {group : String × List Element}
    (distinct : (groups.map Prod.fst).Nodup) (member : group ∈ groups.add key element) :
    group ∈ groups ∧ group.1 ≠ key ∨ group = (key, groups.get key ++ [element]) := by
  induction groups with
  | nil => exact .inr (List.mem_singleton.1 member)
  | cons first rest ih =>
      obtain ⟨apart, distinct⟩ := List.nodup_cons.1 distinct
      unfold Groups.add at member
      split at member
      · next same =>
          rcases List.mem_cons.1 member with rfl | later
          · exact .inr (by simp [Groups.get, same])
          · refine .inl ⟨List.mem_cons_of_mem _ later, ?_⟩
            rintro rfl
            exact apart (same ▸ List.mem_map_of_mem later)
      · next other =>
          rcases List.mem_cons.1 member with rfl | later
          · exact .inl ⟨List.mem_cons_self, other⟩
          · have found : Groups.get (first :: rest) key = Groups.get rest key := by
              simp [Groups.get, other]
            rw [found]
            exact (ih distinct later).imp (.imp_left (List.mem_cons_of_mem _)) id

namespace Divides

theorem get_eq (divides : Divides rendered groups) (key : String) :
    groups.get key = bearers rendered key := by
  unfold Groups.get
  cases found : groups.find? fun group => group.1 == key with
  | some group =>
      have same : group.1 = key := by simpa using List.find?_some found
      rw [← same]
      exact divides.stable group (List.mem_of_find?_eq_some found)
  | none =>
      by_contra some
      -- a key with controls is among the keys of the groups
      have known := mem_keys_iff.2 (Ne.symm some)
      rw [← List.mem_eraseDups, ← divides.order] at known
      obtain ⟨group, member, same⟩ := List.mem_map.1 known
      exact absurd same (by simpa using List.find?_eq_none.1 found group member)

theorem unique {others : Groups} (divides : Divides rendered groups)
    (again : Divides rendered others) : groups = others := by
  have spelled {all : Groups} (divides : Divides rendered all) :
      all = (all.map Prod.fst).map fun key => (key, bearers rendered key) := by
    rw [List.map_map]
    refine (List.map_id all).symm.trans (List.map_congr_left fun group member => ?_)
    exact Prod.ext rfl (divides.stable group member)
  rw [spelled divides, spelled again, divides.order, again.order]

theorem join (divides : Divides rendered groups) (control : Rendered) :
    Divides (rendered ++ [control]) (join groups control) := by
  unfold Control.join
  cases named : key? control.2 with
  -- a control without an id changes nothing
  | none =>
      have same : keyed (rendered ++ [control]) = keyed rendered := by simp [keyed, named]
      refine ⟨same ▸ divides.once, divides.distinct, same ▸ divides.order, ?_⟩
      intro group member
      simpa [bearers, named] using divides.stable group member
  | some key =>
      have more : keyed (rendered ++ [control]) = keyed rendered ++ [(key, control.1)] := by
        simp [keyed, named]
      dsimp only
      refine ⟨?_, ?_, ?_, ?_⟩
      · rw [more]
        exact (members_add _ _ _).trans
          ((divides.once.cons _).trans (List.perm_append_singleton _ _).symm)
      · rw [keys_add]
        split
        · exact divides.distinct
        · next fresh =>
            rw [List.nodup_append]
            refine ⟨divides.distinct, List.pairwise_singleton _ _, fun other old own listed => ?_⟩
            rintro rfl
            exact fresh (List.mem_singleton.1 listed ▸ old)
      · rw [keys_add, more, List.map_append, List.eraseDups_append, divides.order]
        by_cases old : key ∈ (keyed rendered).map Prod.fst
        · simp [old, List.removeAll]
        · simp [old, List.removeAll, List.eraseDups_cons]
      · intro group member
        rcases mem_of_mem_add divides.distinct member with ⟨member, other⟩ | rfl
        · simpa [bearers, named, Ne.symm other] using divides.stable group member
        · simp [divides.get_eq, bearers, named]

end Divides

theorem divides_gather (rendered : List Rendered) : Divides rendered (gather [] rendered) := by
  induction rendered using List.reverseRecOn with
  | nil => exact ⟨.rfl, .nil, rfl, by simp [gather]⟩
  | append_singleton rendered control ih =>
      have last : gather [] (rendered ++ [control]) = join (gather [] rendered) control := by
        simp [gather]
      rw [last]
      exact ih.join control

end Joining

/-! Reading the controls of a page. -/

section Surveying

variable {before after : Records} {trace : List Turn}

/-- How the content root is found: there is none if none is set, or no element is found for it. -/
inductive Rooted : List Turn → Option Element → Prop where
  | whole {tuning : Tuning} (unset : tuning.contentRootSelector.truthy = false) :
      Rooted [⟨.settings, tuning⟩] none
  | within {tuning : Tuning} {selector : String} {roots : List Element}
      (given : tuning.contentRootSelector = .text selector) (named : selector ≠ "") :
      Rooted [⟨.settings, tuning⟩, ⟨.page (.query selector none), .ok roots⟩] roots.head?

def survey (root : Option Element) (rendered : List Rendered) : List Turn :=
  ⟨.page (.query controlSelector root), .ok (rendered.map Prod.fst)⟩ ::
    rendered.map fun control => ⟨.page (.attributes control.1), .ok control.2⟩

theorem served_contentRoot {result : Except Fault (Option Element)} :
    contentRoot.Served before trace after result ↔
      ∃ root, Rooted trace root ∧ after = before ∧ result = .ok root := by
  constructor
  · rintro ⟨held, served⟩
    obtain ⟨tuning, rest, tail, rfl⟩ := held_settings_bind.1 held
    obtain ⟨given, served⟩ := List.forall_mem_cons.1 served
    have given : tuning.contentRootSelector.truthy = true →
        ∃ selector, tuning.contentRootSelector = .text selector := given
    dsimp only at tail
    by_cases set : tuning.contentRootSelector.truthy = true
    · obtain ⟨selector, text⟩ := given set
      have named : selector ≠ "" := by simpa [text, Json.truthy] using set
      rw [set, text] at tail
      obtain ⟨roots, _, ended, rfl⟩ := served_page_bind.1 ⟨tail, served⟩
      obtain ⟨rfl, rfl, rfl⟩ := served_pure.1 ended
      exact ⟨_, .within text named, rfl, rfl⟩
    · have unset : tuning.contentRootSelector.truthy = false := by simpa using set
      rw [unset] at tail
      obtain ⟨rfl, rfl, rfl⟩ := held_pure.1 tail
      exact ⟨none, .whole unset, rfl, rfl⟩
  · rintro ⟨root, rooted, rfl, rfl⟩
    cases rooted with
    | @whole tuning unset =>
        refine ⟨held_settings_bind.2 ⟨tuning, [], ?_, rfl⟩, ?_⟩
        · dsimp only
          rw [unset]
          exact held_pure.2 ⟨rfl, rfl, rfl⟩
        · simp [Turn.served, unset]
    | @within tuning selector roots given named =>
        have set : tuning.contentRootSelector.truthy = true := by simpa [given, Json.truthy]
        refine ⟨held_settings_bind.2 ⟨tuning, [⟨.page (.query selector none), .ok roots⟩], ?_, rfl⟩, ?_⟩
        · dsimp only
          rw [set, given]
          have asked : (Selector.query selector none >>= fun roots => pure roots.head?).Served after
              [⟨.page (.query selector none), .ok roots⟩] after (.ok roots.head?) :=
            served_page_bind.2 ⟨roots, [], served_pure.2 ⟨rfl, rfl, rfl⟩, rfl⟩
          exact asked.1
        · simp [Turn.served, given]

/-- By induction on the controls, of which each one is asked for its attributes. -/
theorem served_groupAll {all : Groups} {elements : List Element} {result : Except Fault Groups} :
    (groupAll all elements).Served before trace after result ↔
      ∃ rendered : List Rendered, rendered.map Prod.fst = elements ∧
        trace = (rendered.map fun control => ⟨.page (.attributes control.1), .ok control.2⟩) ∧
        after = before ∧ result = .ok (gather all rendered) := by
  induction elements generalizing all trace with
  | nil =>
      refine served_pure.trans ⟨?_, ?_⟩
      · rintro ⟨rfl, rfl, rfl⟩
        exact ⟨[], rfl, rfl, rfl, rfl⟩
      · rintro ⟨rendered, none, rfl, rfl, rfl⟩
        obtain rfl := List.map_eq_nil_iff.1 none
        exact ⟨rfl, rfl, rfl⟩
  | cons element rest ih =>
      have opened : groupAll all (element :: rest) = page (.attributes element) >>=
          fun attributes => groupAll (join all (element, attributes)) rest := by
        rw [groupAll]
        refine congrArg _ (funext fun attributes => ?_)
        cases named : key? attributes <;> simp [join, named]
      rw [opened, served_page_bind]
      constructor
      · rintro ⟨attributes, _, tail, rfl⟩
        obtain ⟨rendered, rfl, rfl, rfl, rfl⟩ := ih.1 tail
        exact ⟨(element, attributes) :: rendered, rfl, rfl, rfl, rfl⟩
      · rintro ⟨rendered, listed, rfl, rfl, rfl⟩
        obtain ⟨⟨_, attributes⟩, others, rfl, rfl, rfl⟩ := List.map_eq_cons_iff.1 listed
        exact ⟨attributes, _, ih.2 ⟨others, rfl, rfl, rfl, rfl⟩, rfl⟩

theorem served_groups {result : Except Fault Groups} :
    groups.Served before trace after result ↔
      ∃ opening root rendered all, Rooted opening root ∧ trace = opening ++ survey root rendered ∧
        after = before ∧ result = .ok all ∧ Divides rendered all := by
  unfold groups
  rw [served_bind]
  constructor
  · rintro (⟨root, opening, _, _, found, tail, rfl⟩ | ⟨_, failed, -⟩)
    · obtain ⟨_, rooted, rfl, same⟩ := served_contentRoot.1 found
      cases same
      obtain ⟨elements, _, reads, rfl⟩ := served_page_bind.1 tail
      obtain ⟨rendered, rfl, rfl, rfl, rfl⟩ := served_groupAll.1 reads
      exact ⟨opening, root, rendered, _, rooted, rfl, rfl, rfl, divides_gather rendered⟩
    · obtain ⟨_, -, -, same⟩ := served_contentRoot.1 failed
      cases same
  · rintro ⟨opening, root, rendered, all, rooted, rfl, rfl, rfl, divides⟩
    obtain rfl := divides.unique (divides_gather rendered)
    exact .inl ⟨root, opening, _, _, served_contentRoot.2 ⟨root, rooted, rfl, rfl⟩,
      served_page_bind.2 ⟨_, _, served_groupAll.2 ⟨rendered, rfl, rfl, rfl, rfl⟩, rfl⟩, rfl⟩

end Surveying

/-! Completing a step. -/

section Completing

variable {before after : Records} {trace : List Turn} {key : String}

def notFound (key : String) (all : Groups) : Fault :=
  .guide (.consistency ("Step not found for unique ID: " ++ key)
    [("unique_id", .text key), ("available", .texts all.sortedKeys)])

/-- What follows once the controls are known. -/
inductive Concluded (key : String) (rendered : List Rendered) :
    List Turn → Except Fault (List Element) → Prop where
  | marked {first others} (found : bearers rendered key = first :: others) :
      Concluded key rendered
        [⟨.page (.markCompleted (first :: others)), .ok ()⟩, ⟨.page .settle, .ok ()⟩,
          ⟨.page (.completionEvent first "completed"), .ok ()⟩]
        (.ok (first :: others))
  | stray {all} (none : bearers rendered key = []) (divides : Divides rendered all) :
      Concluded key rendered [] (.error (notFound key all))

theorem groupOf_eq (named : key ≠ "") :
    groupOf (some key) = groups >>= fun all =>
      if (all.get key).isEmpty then throw (notFound key all) else pure (all.get key) := by
  unfold groupOf
  split
  · next none => cases none
  · next empty => exact absurd (Option.some.inj empty) named
  · next same =>
      cases same
      rfl

theorem served_groupOf (named : key ≠ "") {result : Except Fault (List Element)} :
    (groupOf (some key)).Served before trace after result ↔
      ∃ opening root rendered, Rooted opening root ∧ trace = opening ++ survey root rendered ∧
        after = before ∧
        (bearers rendered key ≠ [] ∧ result = .ok (bearers rendered key) ∨
          bearers rendered key = [] ∧ ∃ all, Divides rendered all ∧
            result = .error (notFound key all)) := by
  rw [groupOf_eq named, served_bind]
  constructor
  · rintro (⟨all, _, _, _, found, picks, rfl⟩ | ⟨_, failed, -⟩)
    · obtain ⟨opening, root, rendered, _, rooted, rfl, rfl, same, divides⟩ := served_groups.1 found
      cases same
      rw [divides.get_eq] at picks
      refine ⟨opening, root, rendered, rooted, ?_⟩
      split at picks
      · next none =>
          obtain ⟨rfl, rfl, rfl⟩ := served_throw.1 picks
          exact ⟨by simp, rfl, .inr ⟨by simpa using none, all, divides, rfl⟩⟩
      · next some =>
          obtain ⟨rfl, rfl, rfl⟩ := served_pure.1 picks
          exact ⟨by simp, rfl, .inl ⟨by simpa using some, rfl⟩⟩
    · obtain ⟨_, _, _, _, -, -, -, same, -⟩ := served_groups.1 failed
      cases same
  · rintro ⟨opening, root, rendered, rooted, rfl, rfl, picked⟩
    have found {all : Groups} (divides : Divides rendered all) :
        groups.Served after (opening ++ survey root rendered) after (.ok all) :=
      served_groups.2 ⟨opening, root, rendered, all, rooted, rfl, rfl, rfl, divides⟩
    rcases picked with ⟨some, rfl⟩ | ⟨none, all, divides, rfl⟩
    · have divides := divides_gather rendered
      refine .inl ⟨_, _, after, [], found divides, ?_, by simp⟩
      rw [divides.get_eq, if_neg (by simpa using some)]
      exact served_pure.2 ⟨rfl, rfl, rfl⟩
    · refine .inl ⟨_, _, after, [], found divides, ?_, by simp⟩
      rw [divides.get_eq, if_pos (by simpa using none)]
      exact served_throw.2 ⟨rfl, rfl, rfl⟩

theorem served_marking {first : Element} {others : List Element}
    {result : Except Fault (List Element)} :
    (page (.markCompleted (first :: others)) >>= fun _ => page .settle >>= fun _ =>
      page (.completionEvent first "completed") >>= fun _ =>
        (pure (first :: others) : Run (List Element))).Served before trace after result ↔
      trace = [⟨.page (.markCompleted (first :: others)), .ok ()⟩, ⟨.page .settle, .ok ()⟩,
          ⟨.page (.completionEvent first "completed"), .ok ()⟩] ∧
        after = before ∧ result = .ok (first :: others) := by
  rw [served_page_bind]
  constructor
  · rintro ⟨_, _, marked, rfl⟩
    obtain ⟨_, _, settled, rfl⟩ := served_page_bind.1 marked
    obtain ⟨_, _, announced, rfl⟩ := served_page_bind.1 settled
    obtain ⟨rfl, rfl, rfl⟩ := served_pure.1 announced
    exact ⟨rfl, rfl, rfl⟩
  · rintro ⟨rfl, rfl, rfl⟩
    exact ⟨(), _, served_page_bind.2 ⟨(), _, served_page_bind.2 ⟨(), _,
      served_pure.2 ⟨rfl, rfl, rfl⟩, rfl⟩, rfl⟩, rfl⟩

theorem served_markCompleted (named : key ≠ "") {result : Except Fault (List Element)} :
    (markCompleted (some key)).Served before trace after result ↔
      ∃ opening root rendered closing, Rooted opening root ∧
        trace = opening ++ survey root rendered ++ closing ∧ after = before ∧
        Concluded key rendered closing result := by
  unfold markCompleted
  rw [served_bind]
  constructor
  · rintro (⟨controls, _, _, closing, found, marks, rfl⟩ | ⟨_, failed, rfl⟩)
    · obtain ⟨opening, root, rendered, rooted, rfl, rfl, ⟨some, same⟩ | ⟨-, _, -, same⟩⟩ :=
        (served_groupOf named).1 found
      · cases same
        obtain ⟨first, others, group⟩ := List.exists_cons_of_ne_nil some
        rw [group] at marks
        obtain ⟨rfl, rfl, rfl⟩ := served_marking.1 marks
        exact ⟨opening, root, rendered, _, rooted, rfl, rfl, .marked group⟩
      · cases same
    · obtain ⟨opening, root, rendered, rooted, rfl, rfl, ⟨-, same⟩ | ⟨none, all, divides, same⟩⟩ :=
        (served_groupOf named).1 failed
      · cases same
      · cases same
        exact ⟨opening, root, rendered, [], rooted, by simp, rfl, .stray none divides⟩
  · rintro ⟨opening, root, rendered, closing, rooted, rfl, rfl, concluded⟩
    cases concluded with
    | marked group =>
        refine .inl ⟨_, _, after, _, (served_groupOf named).2 ⟨opening, root, rendered, rooted, rfl,
          rfl, .inl ⟨by simp [group], rfl⟩⟩, ?_, rfl⟩
        rw [group]
        exact served_marking.2 ⟨rfl, rfl, rfl⟩
    | stray none divides =>
        refine .inr ⟨_, (served_groupOf named).2 ⟨opening, root, rendered, rooted, by simp, rfl,
          .inr ⟨none, _, divides, rfl⟩⟩, rfl⟩

theorem held_markCompleted_nameless {key : Option String} (nameless : key.getD "" = "")
    {result : Except Fault (List Element)} :
    (markCompleted key).Held before trace after result ↔
      trace = [] ∧ after = before ∧
        result = .error (.guide (.consistency "Interactive step missing required unique step ID" [])) := by
  have refused : markCompleted key = throw (.guide (.consistency
      "Interactive step missing required unique step ID" [])) := by
    cases key with
    | none => rfl
    | some key =>
        obtain rfl : key = "" := nameless
        rfl
  rw [refused]
  exact held_throw

theorem bearers_empty (rendered : List Rendered) : bearers rendered "" = [] := by
  refine List.map_eq_nil_iff.2 (List.filter_eq_nil_iff.2 fun control _ named => ?_)
  obtain ⟨identity, -, same⟩ := trimmed_of_key? (eq_of_beq named)
  exact identity.key_ne_empty same

/-- In every talk in which no call of the page fails: whatever controls there are in the content
root, the groups are those that divide the controls with an id, and there is one way to divide
them. A step with a key has the controls of this key marked in one call, the page is settled, and
the first of them is announced; if there is no such control, the step is refused after its controls
were looked for. A step without a key, which no control has, is refused at once. -/
theorem completes_one_group :
    (∀ attributes key, Control.key (textFields attributes) = .ok key ↔ key? attributes = some key) ∧
    (∀ attributes, (key? attributes).isSome = true ↔
      Text.allBlank ((attributeValue attributes "data-section-id").getD "") = false ∨
        Text.allBlank ((attributeValue attributes "data-step-id").getD "") = false) ∧
    (∀ rendered, ∃! all, Divides rendered all) ∧
    (∀ before trace after result, groups.Served before trace after result ↔
      ∃ opening root rendered all, Rooted opening root ∧ trace = opening ++ survey root rendered ∧
        after = before ∧ result = .ok all ∧ Divides rendered all) ∧
    (∀ key, key ≠ "" → ∀ before trace after result,
      (markCompleted (some key)).Served before trace after result ↔
        ∃ opening root rendered closing, Rooted opening root ∧
          trace = opening ++ survey root rendered ++ closing ∧ after = before ∧
          Concluded key rendered closing result) ∧
    ∀ key : Option String, key.getD "" = "" → (∀ rendered, bearers rendered (key.getD "") = []) ∧
      ∀ before trace after result, (markCompleted key).Held before trace after result ↔
        trace = [] ∧ after = before ∧ result = .error (.guide
          (.consistency "Interactive step missing required unique step ID" [])) := by
  refine ⟨fun attributes key => ?_, key?_isSome_iff, fun rendered => ?_,
    fun _ _ _ _ => served_groups, fun _ named _ _ _ _ => served_markCompleted named,
    fun key nameless => ⟨fun rendered => ?_, fun _ _ _ _ => held_markCompleted_nameless nameless⟩⟩
  · rw [Guide.key_textFields]
    cases key? attributes <;> simp
  · exact ⟨_, divides_gather rendered, fun _ divides => divides.unique (divides_gather rendered)⟩
  · rw [nameless]
    exact bearers_empty rendered

def lineup : List Rendered :=
  [(4, signpost), (5, [("data-requirements", "")]),
    (6, [("data-section-id", "tour"), ("data-step-id", "detour")]),
    (8, [("data-step-id", " detour ")])]

def lineupTurns : List Turn :=
  ⟨.settings, Scene.unhurried 3⟩ :: survey none lineup

theorem lineup_completed :
    Divides lineup [("step-detour", [4, 8]), ("section-tour", [6])] ∧
    (markCompleted (some "step-detour")).Served ⟨[], []⟩
      (lineupTurns ++ [⟨.page (.markCompleted [4, 8]), .ok ()⟩, ⟨.page .settle, .ok ()⟩,
        ⟨.page (.completionEvent 4 "completed"), .ok ()⟩]) ⟨[], []⟩ (.ok [4, 8]) ∧
    (markCompleted (some "step-tour")).Served ⟨[], []⟩ (lineupTurns ++ []) ⟨[], []⟩
      (.error (.guide (.consistency "Step not found for unique ID: step-tour"
        [("unique_id", .text "step-tour"),
          ("available", .texts ["section-tour", "step-detour"])]))) := by
  have divides : Divides lineup [("step-detour", [4, 8]), ("section-tour", [6])] :=
    divides_gather lineup
  have rooted : Rooted [⟨.settings, Scene.unhurried 3⟩] none := .whole rfl
  have keys : Groups.sortedKeys [("step-detour", [4, 8]), ("section-tour", [6])] =
      ["section-tour", "step-detour"] := by simp [Groups.sortedKeys, List.mergeSort]
  have stray : bearers lineup "step-tour" = [] := rfl
  have refused := Concluded.stray stray divides
  rw [notFound, keys] at refused
  have completes := completes_one_group.2.2.2.2.1
  exact ⟨divides,
    (completes "step-detour" (by decide) _ _ _ _).2
      ⟨_, none, lineup, _, rooted, rfl, rfl, .marked rfl⟩,
    (completes "step-tour" (by decide) _ _ _ _).2
      ⟨_, none, lineup, _, rooted, rfl, rfl, refused⟩⟩

end Completing

end Control

end Walkthrough
