import Walkthrough.Proofs.Publishing
import Walkthrough.Proofs.Tours
/-!
A sequence is looked over before it is walked. The inspection asks for the container and reads every
control inside; it ends with the steps that were found, or at the first thing that is wrong. If it
fails, the sequence fails: nothing was carried out by then, no other entry has changed, and what was
published tells of the sequence only.
-/

namespace Walkthrough

/-- Requests that carry nothing out, and write about no step but the one with the key. -/
def Request.keepsTo (key : String) : Request → Prop
  | page call => call.looks = true
  | announce _ | pause _ => False
  | move asked => asked.step = key
  | setIndex step _ => step = key
  | _ => True

theorem Run.returns_tryCatch {α : Type} {run : Run α} {rescue : Fault → Run α}
    (rescues : ∀ fault, (rescue fault).Returns) : (tryCatch run rescue).Returns := by
  intro before trace after result held
  rcases held_tryCatch.1 held with ⟨value, -, rfl⟩ | ⟨fault, _, _, _, -, rescued, -⟩
  · exact ⟨value, rfl⟩
  · exact rescues fault rescued

namespace Guide

open Run

theorem keepsTo_of_looks {α : Type} {run : Run α} {key : String} (looks : run.Asks (·.looks)) :
    run.Asks (·.keepsTo key) := by
  refine asks_mono looks fun request looks => ?_
  cases request <;> simp_all [Request.looks, Request.keepsTo]

theorem begin_keepsTo (key : String) : (begin key).Asks (·.keepsTo key) :=
  asks_begin trivial rfl rfl

variable {before after : Records} {trace : List Turn} {step : Step} {key selector : String}

/-! What the inspection finds. -/

def filled (attributes : List (String × String)) : Bool :=
  isFilled attributes "data-targetaction" && isFilled attributes "data-reftarget"

def unnamed (attributes : List (String × String)) : Fault :=
  .guide (.consistency
    ("Interactive element missing required unique step ID: reftarget="
      ++ Control.shownValue (textFields attributes) "data-reftarget" ++ ", targetaction="
      ++ Control.shownValue (textFields attributes) "data-targetaction")
    [("attributes", .object (textFields attributes))])

/-- What can be wrong with a filled element: it has no unique id, or it is no valid step. -/
inductive Flaw (selector : String) (attributes : List (String × String)) : Fault → Prop where
  | unnamed (missing : Control.key? attributes = none) :
      Flaw selector attributes (unnamed attributes)
  | rejected {failure} (invalid : Step.ofAttributes attributes = .error failure) :
      Flaw selector attributes (.guide (.general
        s!"Invalid interactive element in sequence {selector}: {firstIssue failure}"
        "VALIDATION" [("attributes", .pairs attributes)]))

/-- The elements that were read without a flaw, each with its turn, and the steps among them. -/
inductive Legible : List Element → List Turn → List Step → Prop where
  | none : Legible [] [] []
  | passed {element attributes elements turns steps} (unfilled : filled attributes = false)
      (rest : Legible elements turns steps) :
      Legible (element :: elements) (⟨.page (.attributes element), .ok attributes⟩ :: turns) steps
  | step {element attributes key step elements turns steps} (filled : filled attributes = true)
      (named : Control.key? attributes = some key) (valid : Step.ofAttributes attributes = .ok step)
      (rest : Legible elements turns steps) :
      Legible (element :: elements) (⟨.page (.attributes element), .ok attributes⟩ :: turns)
        (step :: steps)

def miscounted (selector : String) (count : Nat) : Fault :=
  .guide (.resolution
    (if count = 0 then "No interactive sequence container found matching selector: " ++ selector
    else s!"{count} interactive sequence containers found matching selector: {selector}"
      ++ " - this is not supported (must be exactly 1)") selector count)

def unfilled (selector : String) : Fault :=
  .guide (.resolution
    ("No interactive elements found within sequence container: " ++ selector) selector 1)

def Located (selector : String) (records : Records) (trace : List Turn) (inside : Element) :
    Prop :=
  ∃ root first resolution second, trace = first ++ second ∧
    Control.contentRoot.Held records first records (.ok root) ∧
    (Selector.resolve selector root).Held records second records (.ok resolution) ∧
    resolution.elements = [inside]

def listing (inside : Element) (reply : Except Fault (List Element)) : Turn :=
  ⟨.page (.query childSelector (some inside)), reply⟩

/-- Either all elements are legible, or the first one that is not ends the reading: its attributes
cannot be had, or they have a flaw. -/
inductive Reading (selector : String) (elements : List Element) :
    List Turn → Except Fault (List Step) → Prop where
  | all {turns steps} (legible : Legible elements turns steps) :
      Reading selector elements turns (.ok steps)
  | unread {before element after turns steps fault} (split : elements = before ++ element :: after)
      (legible : Legible before turns steps) :
      Reading selector elements (turns ++ [⟨.page (.attributes element), .error fault⟩])
        (.error fault)
  | flawed {before element after turns steps attributes fault}
      (split : elements = before ++ element :: after) (legible : Legible before turns steps)
      (filled : filled attributes = true) (flaw : Flaw selector attributes fault) :
      Reading selector elements (turns ++ [⟨.page (.attributes element), .ok attributes⟩])
        (.error fault)

/-- The inspection of a container, with its turns and what it comes to. -/
inductive Inspected (selector : String) (records : Records) :
    List Turn → Except Fault (List Step) → Prop where
  | unrooted {trace fault}
      (root : Control.contentRoot.Held records trace records (.error fault)) :
      Inspected selector records trace (.error fault)
  | miscounted {root first resolution second}
      (rooted : Control.contentRoot.Held records first records (.ok root))
      (resolves : (Selector.resolve selector root).Held records second records (.ok resolution))
      (count : resolution.elements.length ≠ 1) :
      Inspected selector records (first ++ second)
        (.error (miscounted selector resolution.elements.length))
  | unlisted {opening inside fault} (located : Located selector records opening inside) :
      Inspected selector records (opening ++ [listing inside (.error fault)]) (.error fault)
  | illegible {opening inside elements turns fault}
      (located : Located selector records opening inside)
      (reading : Reading selector elements turns (.error fault)) :
      Inspected selector records (opening ++ listing inside (.ok elements) :: turns)
        (.error fault)
  | empty {opening inside elements turns}
      (located : Located selector records opening inside)
      (reading : Reading selector elements turns (.ok [])) :
      Inspected selector records (opening ++ listing inside (.ok elements) :: turns)
        (.error (unfilled selector))
  | found {opening inside elements turns step steps}
      (located : Located selector records opening inside)
      (reading : Reading selector elements turns (.ok (step :: steps))) :
      Inspected selector records (opening ++ listing inside (.ok elements) :: turns)
        (.ok (step :: steps))

/-! Every inspection is one of these. -/

theorem resolve_returns (selector : String) (root : Option Element) :
    (Selector.resolve selector root).Returns := by
  rw [Selector.resolve]
  exact returns_tryCatch fun _ => returns_pure _

theorem held_container {result : Except Fault Element}
    (held : (container selector).Held before trace after result) :
    after = before ∧
      ((∃ inside, result = .ok inside ∧ Located selector before trace inside) ∨
        ∃ fault, result = .error fault ∧ Inspected selector before trace (.error fault)) := by
  obtain rfl := held.looked (container_looks _)
  refine ⟨rfl, ?_⟩
  rcases held_bind.1 held with ⟨root, first, _, rest, rooted, tail, rfl⟩ | ⟨fault, failed, rfl⟩
  · obtain rfl := rooted.looked Control.contentRoot_looks
    obtain ⟨resolution, second, last, resolves, ended, rfl⟩ :=
      (held_looking_bind (Selector.resolve_looks _ _) (resolve_returns _ _)).1 tail
    have refused := Inspected.miscounted rooted resolves
    cases elements : resolution.elements with
    | nil =>
        rw [elements] at ended refused
        obtain ⟨rfl, -, rfl⟩ := held_throw.1 ended
        rw [List.append_nil]
        exact .inr ⟨_, rfl, refused (by simp)⟩
    | cons only others =>
        cases others with
        | nil =>
            rw [elements] at ended
            obtain ⟨rfl, -, rfl⟩ := held_pure.1 ended
            exact .inl ⟨only, rfl, root, first, resolution, second, by simp, rooted, resolves,
              elements⟩
        | cons next others =>
            rw [elements] at ended refused
            obtain ⟨rfl, -, rfl⟩ := held_throw.1 ended
            rw [List.append_nil]
            exact .inr ⟨_, rfl, refused (by simp)⟩
  · exact .inr ⟨fault, rfl, .unrooted failed⟩

theorem lookup_textFields (attributes : List (String × String)) (name : String) :
    Fields.lookup (textFields attributes) name =
      (attributeValue attributes name).map Json.text := by
  induction attributes with
  | nil => rfl
  | cons entry rest ih =>
      unfold Fields.lookup textFields attributeValue at ih ⊢
      rw [List.map_cons, List.find?_cons, List.find?_cons]
      cases entry.1 == name with
      | true => rfl
      | false => exact ih

theorem idIn_textFields (attributes : List (String × String)) (name : String) :
    Control.idIn (textFields attributes) name =
      .ok (Text.trim ((attributeValue attributes name).getD "")) := by
  unfold Control.idIn
  rw [lookup_textFields]
  cases attributeValue attributes name with
  | none => rfl
  | some value => rfl

theorem key_textFields (attributes : List (String × String)) :
    Control.key (textFields attributes) =
      match Control.key? attributes with
      | some key => .ok key
      | none => .error (unnamed attributes) := by
  unfold Control.key Control.key?
  rw [idIn_textFields, idIn_textFields]
  rfl

theorem child?_cases (selector : String) (attributes : List (String × String)) :
    match child? selector attributes with
    | .ok none => filled attributes = false
    | .ok (some step) => filled attributes = true ∧
        (∃ key, Control.key? attributes = some key) ∧ Step.ofAttributes attributes = .ok step
    | .error fault => filled attributes = true ∧ Flaw selector attributes fault := by
  cases full : filled attributes with
  | false =>
      have passed : child? selector attributes = .ok none :=
        if_neg (ne_true_of_eq_false full)
      rw [passed]
  | true =>
      have complete : (isFilled attributes "data-targetaction" &&
          isFilled attributes "data-reftarget") = true := full
      unfold child?
      rw [if_pos complete, key_textFields]
      cases named : Control.key? attributes with
      | none => exact ⟨rfl, .unnamed named⟩
      | some key =>
          cases read : Step.ofAttributes attributes with
          | ok step => exact ⟨rfl, ⟨key, rfl⟩, rfl⟩
          | error failure => exact ⟨rfl, .rejected read⟩

namespace Reading

variable {element : Element} {elements : List Element} {attributes : List (String × String)}
variable {turns : List Turn} {result : Except Fault (List Step)}

theorem passed (unfilled : filled attributes = false)
    (reading : Reading selector elements turns result) :
    Reading selector (element :: elements)
      (⟨.page (.attributes element), .ok attributes⟩ :: turns) result := by
  cases reading with
  | all legible => exact .all (.passed unfilled legible)
  | unread split legible => exact .unread (by rw [split]; rfl) (.passed unfilled legible)
  | flawed split legible full flaw =>
      exact .flawed (by rw [split]; rfl) (.passed unfilled legible) full flaw

theorem kept (full : filled attributes = true) (named : Control.key? attributes = some key)
    (valid : Step.ofAttributes attributes = .ok step)
    (reading : Reading selector elements turns result) :
    Reading selector (element :: elements)
      (⟨.page (.attributes element), .ok attributes⟩ :: turns) (result.map (step :: ·)) := by
  cases reading with
  | all legible => exact .all (.step full named valid legible)
  | unread split legible => exact .unread (by rw [split]; rfl) (.step full named valid legible)
  | flawed split legible other flaw =>
      exact .flawed (by rw [split]; rfl) (.step full named valid legible) other flaw

end Reading

/-- By induction on the elements, of which each is asked for its attributes. -/
theorem held_readChildren {elements : List Element} {result : Except Fault (List Step)}
    (held : (readChildren selector elements).Held before trace after result) :
    Reading selector elements trace result := by
  induction elements generalizing before trace after result with
  | nil =>
      obtain ⟨rfl, -, rfl⟩ := held_pure.1 held
      exact .all .none
  | cons element rest ih =>
      rcases held_bind.1 held with ⟨attributes, _, start, later, asked, tail, rfl⟩ | ⟨fault, failed, rfl⟩
      · obtain ⟨rfl, rfl⟩ := held_page.1 asked
        have child := child?_cases selector attributes
        cases read : child? selector attributes with
        | error fault =>
            rw [read] at tail child
            obtain ⟨rfl, -, rfl⟩ := held_throw.1 tail
            have first : element :: rest = [] ++ element :: rest := rfl
            exact .flawed first .none child.1 child.2
        | ok found =>
            rw [read] at tail child
            cases found with
            | none => exact (ih tail).passed child
            | some step =>
                obtain ⟨full, ⟨key, named⟩, valid⟩ := child
                have mapped : ((step :: ·) <$> readChildren selector rest).Held start later after
                    result := by
                  rw [← bind_pure_comp]
                  exact tail
                obtain ⟨inner, others, rfl⟩ := held_map.1 mapped
                exact (ih others).kept full named valid
      · obtain ⟨rfl, rfl⟩ := held_page.1 failed
        have first : element :: rest = [] ++ element :: rest := rfl
        exact .unread first .none

def inspect (selector : String) : Run (List Step) := do
  children (← container selector) selector

theorem inspect_looks (selector : String) : (inspect selector).Asks (·.looks) :=
  asks_bind (container_looks _) fun _ => children_looks _ _

theorem inspected_of_held {result : Except Fault (List Step)}
    (held : (inspect selector).Held before trace after result) :
    after = before ∧ Inspected selector before trace result := by
  rcases held_bind.1 held with ⟨inside, opening, _, _, first, tail, rfl⟩ | ⟨fault, failed, rfl⟩
  · obtain ⟨rfl, located⟩ := held_container first
    obtain rfl := tail.looked (children_looks _ _)
    refine ⟨rfl, ?_⟩
    obtain ⟨_, same, located⟩ | ⟨_, same, -⟩ := located
    · cases same
      rcases held_bind.1 tail with ⟨elements, _, _, _, asked, reads, rfl⟩ | ⟨fault, failed, rfl⟩
      · obtain ⟨rfl, rfl⟩ := held_page.1 asked
        rcases held_bind.1 reads with ⟨steps, turns, _, _, read, ended, rfl⟩ | ⟨fault, failed, rfl⟩
        · have reading := held_readChildren read
          cases steps with
          | nil =>
              obtain ⟨rfl, -, rfl⟩ := held_throw.1 ended
              rw [List.append_nil]
              exact .empty located reading
          | cons step steps =>
              obtain ⟨rfl, -, rfl⟩ := held_pure.1 ended
              rw [List.append_nil]
              exact .found located reading
        · exact .illegible located (held_readChildren failed)
      · obtain ⟨rfl, -⟩ := held_page.1 failed
        exact .unlisted located
    · cases same
  · obtain ⟨rfl, located⟩ := held_container failed
    obtain ⟨_, same, -⟩ | ⟨_, same, inspected⟩ := located
    · cases same
    · cases same
      exact ⟨rfl, inspected⟩

/-! The run of a sequence. -/

variable {showOnly : Bool}

theorem walk_eq_inspect (step : Step) (showOnly : Bool) :
    walk step showOnly = inspect step.target >>= fun steps =>
      (if showOnly then showAll step.key 0 steps else doAll step.key 0 steps) >>= fun _ =>
        discard (Control.markCompleted (some step.key)) := by
  cases showOnly <;> simp [walk, inspect, bind_assoc]

theorem held_walk {result : Except Fault Unit}
    (held : (walk step showOnly).Held before trace after result) :
    ∃ looks rest verdict, trace = looks ++ rest ∧
      (inspect step.target).Held before looks before verdict ∧
      ∀ fault, verdict = .error fault → rest = [] ∧ after = before ∧ result = .error fault := by
  rw [walk_eq_inspect] at held
  rcases held_bind.1 held with ⟨steps, looks, _, rest, inspects, -, rfl⟩ | ⟨fault, failed, rfl⟩
  · obtain rfl := inspects.looked (inspect_looks _)
    exact ⟨looks, rest, _, rfl, inspects, by simp⟩
  · obtain rfl := failed.looked (inspect_looks _)
    refine ⟨trace, [], _, by simp, failed, ?_⟩
    rintro _ ⟨⟩
    exact ⟨rfl, rfl, rfl⟩

theorem held_enclosed_inspects {result : Except Fault Unit}
    (live : before.status step.key ≠ .running)
    (held : (enclosed step showOnly).Held before trace after result) :
    ∃ opening begun looks rest verdict, trace = opening ++ (looks ++ rest) ∧
      (begin step.key).Held before opening begun (.ok ()) ∧
      (inspect step.target).Held begun looks begun verdict ∧
      ∀ fault, verdict = .error fault → result = .error fault ∧
        ∃ reply, rest = [⟨.move ⟨step.key, .error, some fault.words, none⟩, reply⟩] ∧
          begun.Moves ⟨step.key, .error, some fault.words, none⟩ reply after := by
  rcases held_bind.1 held with ⟨⟨⟩, opening, begun, tail, begins, body, rfl⟩ | ⟨fault, failed, -⟩
  · rcases held_bind.1 body with ⟨⟨⟩, walking, _, last, attempt, ended, rfl⟩ | ⟨fault, failed, rfl⟩
    · rcases held_failing attempt with ⟨_, walks, -⟩ | ⟨_, _, _, reply, _, -, -, told, refused⟩
      · obtain ⟨looks, rest, verdict, rfl, inspects, fails⟩ := held_walk walks
        refine ⟨opening, begun, looks, rest ++ last, verdict, by simp, begins, inspects, ?_⟩
        intro fault same
        obtain ⟨-, -, failed⟩ := fails fault same
        cases failed
      · cases reply with
        | ok state => cases told ⟨_, rfl⟩
        | error error => cases refused error rfl
    · rcases held_failing failed with
        ⟨_, -, same⟩ | ⟨cause, first, middle, reply, walks, moves, rfl, told, -⟩
      · cases same
      · obtain ⟨looks, rest, verdict, rfl, inspects, fails⟩ := held_walk walks
        refine ⟨opening, begun, looks, _, verdict, by rw [List.append_assoc], begins, inspects, ?_⟩
        intro other failure
        obtain ⟨rfl, rfl, same⟩ := fails other failure
        cases same
        -- nothing has touched the sequence since it began, so the move to its error is accepted
        have accepted := moves.of_mayBecome (by rw [(held_begin_ok begins).2.1]; rfl)
        exact ⟨told ⟨_, accepted.1⟩, reply, rfl, moves⟩
  · rcases held_begin failed with ⟨running, -⟩ | ⟨-, same, -⟩
    · exact absurd running live
    · cases same

/-- A sequence that failed before anything was done: what is left of it is its own error, which
listeners were told about. -/
structure Rejected (step : Step) (before : Records) (trace : List Turn) (after : Records)
    (fault : Fault) : Prop where
  untouched : ∀ turn ∈ trace, turn.asked.keepsTo step.key
  others : ∀ key, key ≠ step.key → after.store.find? key = before.store.find? key
  told : before.published trace = startChanges step.key (before.store.get step.key) ++
    [⟨step.key, .running, .error, some fault.words, (before.store.get step.key).resumed⟩]
  active : after.active = before.active

theorem leave_enter {records : Records} {selector : String}
    (inactive : records.active.contains selector = false) :
    ((records.enter selector).leave selector).active = records.active := by
  have missing : selector ∉ records.active := by simpa using inactive
  have entered : (records.enter selector).active = records.active ++ [selector] := by
    simp [Records.enter, missing]
  unfold Records.leave
  rw [entered, List.filter_append, List.filter_eq_self.2]
  · simp
  · intro other member
    have distinct : other ≠ selector := ne_of_mem_of_not_mem member missing
    simpa using distinct

theorem published_failing {opening looks : List Turn} {begun : Records} {fault : Fault}
    (begins : (begin key).Held before opening begun (.ok ()))
    (inspects : (inspect selector).Held begun looks begun (.error fault))
    (reply : Except GuideError StepState) :
    before.published
        (opening ++ (looks ++ [⟨.move ⟨key, .error, some fault.words, none⟩, reply⟩])) =
      startChanges key (before.store.get key) ++
        [⟨key, .running, .error, some fault.words, (before.store.get key).resumed⟩] := by
  obtain ⟨began, state⟩ := published_begin begins
  have running := (held_begin_ok begins).2.1
  have quiet : begun.published looks = [] := by
    apply Records.published_of_passes
    intro turn member
    exact Request.passes_of_looks _ (inspects.asked (inspect_looks selector) turn member)
  have may : (begun.status key).mayBecome .error = true := by
    rw [running]
    rfl
  rw [begins.published_append, began, inspects.published_append, quiet,
    Records.published_move _ may, running, state]
  rfl

theorem inspection_keepsTo {opening looks : List Turn} {begun : Records}
    {verdict : Except Fault (List Step)} (begins : (begin key).Held before opening begun (.ok ()))
    (inspects : (inspect selector).Held begun looks begun verdict) :
    ∀ turn ∈ opening ++ looks, turn.asked.keepsTo key := by
  have looking : (inspect selector).Asks (·.keepsTo key) := keepsTo_of_looks (inspect_looks _)
  intro turn member
  rcases List.mem_append.1 member with opened | looked
  · exact begins.asked (begin_keepsTo key) turn opened
  · exact inspects.asked looking turn looked

theorem rejected_of_inspects {opening looks : List Turn} {begun failed : Records} {fault : Fault}
    {reply : Except GuideError StepState}
    (inactive : before.active.contains step.target = false)
    (begins : (begin step.key).Held (before.enter step.target) opening begun (.ok ()))
    (inspects : (inspect step.target).Held begun looks begun (.error fault))
    (moves : begun.Moves ⟨step.key, .error, some fault.words, none⟩ reply failed) :
    Rejected step before (⟨.activeSequences, before.active⟩ :: ⟨.enterSequence step.target, ()⟩ ::
      (opening ++ (looks ++ [⟨.move ⟨step.key, .error, some fault.words, none⟩, reply⟩]) ++
        [⟨.leaveSequence step.target, ()⟩])) (failed.leave step.target) fault where
  untouched := by
    have inside := inspection_keepsTo begins inspects
    intro turn member
    simp only [List.mem_cons, List.mem_append, List.not_mem_nil, or_false] at member
    rcases member with rfl | rfl | (opened | looked | rfl) | rfl
    · trivial
    · trivial
    · exact inside turn (List.mem_append_left _ opened)
    · exact inside turn (List.mem_append_right _ looked)
    · rfl
    · trivial
  others := by
    intro key other
    have entered := begins.find?_eq (begin_avoids (Ne.symm other))
    rw [enter_store] at entered
    rw [← entered]
    exact moves.find?_eq (Ne.symm other)
  told := by
    have told := published_failing begins inspects reply
    rw [enter_store] at told
    rw [← told]
    exact Records.published_concat (fun _ => rfl) _ _
  active := by
    have began := (held_begin_ok begins).2.2.active
    have failing : failed.active = (before.enter step.target).active := by
      rw [moves.sameBut.active, began]
    rw [← leave_enter inactive]
    unfold Records.leave
    rw [failing]

/-- A sequence that is not being walked, and not running, is looked over before anything is done.
The inspection fails if the container is not exactly one element, if no step is inside, if a query
or a reading fails, or if any filled element inside has a flaw. The sequence then fails in the same
way: no command was announced, no other entry has changed, listeners were told of its start and its
error only, and the sequences that are being walked are those of before. -/
theorem runSequence_inspects {result : Except Fault String}
    (inactive : before.active.contains step.target = false)
    (live : before.status step.key ≠ .running)
    (held : (runSequence step showOnly).Held before trace after result) :
    ∃ opening begun looks rest verdict, trace = opening ++ (looks ++ rest) ∧
      begun.status step.key = .running ∧ (∀ turn ∈ opening ++ looks, turn.asked.keepsTo step.key) ∧
      (inspect step.target).Held begun looks begun verdict ∧
      Inspected step.target begun looks verdict ∧
      ∀ fault, verdict = .error fault →
        result = .error fault ∧ Rejected step before trace after fault := by
  obtain ⟨_, middle, inner, encloses, rfl, rfl, rfl⟩ := held_runSequence inactive held
  have free : (before.enter step.target).status step.key ≠ .running := by
    unfold Records.status
    rw [enter_store]
    exact live
  obtain ⟨opening, begun, looks, rest, verdict, rfl, begins, inspects, fails⟩ :=
    held_enclosed_inspects free encloses
  refine ⟨⟨.activeSequences, before.active⟩ :: ⟨.enterSequence step.target, ()⟩ :: opening, begun,
    looks, rest ++ [⟨.leaveSequence step.target, ()⟩], verdict, by simp,
    (held_begin_ok begins).2.1, ?_, inspects, (inspected_of_held inspects).2, ?_⟩
  · have inside := inspection_keepsTo begins inspects
    intro turn member
    rcases List.mem_cons.1 member with rfl | member
    · trivial
    · rcases List.mem_cons.1 member with rfl | member
      · trivial
      · exact inside turn member
  · intro fault same
    obtain ⟨rfl, reply, rfl, moves⟩ := fails fault same
    subst same
    exact ⟨rfl, rejected_of_inspects inactive begins inspects moves⟩

def barricade : Scene where
  page
    | .query selector root =>
        if selector = childSelector then .ok [1, 2] else crossroads.page (.query selector root)
    | .attributes element =>
        if element = 2 then .ok [("data-targetaction", "navigate"), ("data-reftarget", "/nowhere")]
        else crossroads.page (.attributes element)
    | call => crossroads.page call
  tuning := Scene.unhurried 3

theorem barricade_inspect (records : Records) :
    ∃ fault, barricade.outcome (inspect detours.target) records = (.error fault, records) := by
  simp only [inspect, container, Selector.resolve]
  exact ⟨_, rfl⟩

theorem barricade_rejects :
    ∃ trace after fault, (runSequence detours false).Held ⟨[], []⟩ trace after (.error fault) ∧
      (⟨[], []⟩ : Records).active.contains detours.target = false ∧
      (⟨[], []⟩ : Records).status detours.key ≠ .running ∧
      Rejected detours ⟨[], []⟩ trace after fault := by
  obtain ⟨trace, held, known⟩ := barricade.held (runSequence detours false) ⟨[], []⟩
  have idle : (⟨[], []⟩ : Records).status detours.key ≠ .running := Status.noConfusion
  obtain ⟨opening, begun, looks, rest, verdict, rfl, -, -, inspects, -, fails⟩ :=
    runSequence_inspects rfl idle held
  have gave : ∀ turn ∈ looks, barricade.Gave turn := by
    intro turn member
    exact known turn (by simp [member])
  obtain ⟨fault, outcome⟩ := barricade_inspect begun
  have same := outcome.symm.trans (Scene.outcome_of_held inspects gave)
  cases same
  obtain ⟨result, rejected⟩ := fails fault rfl
  rw [result] at held
  exact ⟨_, _, fault, held, rfl, idle, rejected⟩

end Guide

end Walkthrough
