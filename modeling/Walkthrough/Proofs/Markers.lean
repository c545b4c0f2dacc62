import Walkthrough.Proofs.Course
import Walkthrough.Proofs.Contents
import Walkthrough.Proofs.Rendering
/-!
The marks on the controls, and the states of the steps. A step that was completed stays marked
until it is reset. A run that makes it idle again takes no marks off, so from then on its marks and
its state differ; there is no other way in which they come to differ.
-/

namespace Walkthrough

/-- What became of a step since it was last reset: it was not completed, or it was and still is, or
it was and has been moved since. -/
inductive Standing where
  | fresh
  | done
  | undone
deriving DecidableEq, Repr

def Standing.moved : Standing → Standing
  | fresh => fresh
  | done | undone => undone

def Turn.stand (key : String) (standing : Standing) (turn : Turn) : Standing :=
  match turn with
  | ⟨.move move, .ok _⟩ =>
      if move.step = key then
        if move.status = .completed then .done else standing.moved
      else standing
  | _ => standing

def Turn.mark (element : Element) (marked : Bool) (turn : Turn) : Bool :=
  match turn with
  | ⟨.page (.markCompleted elements), .ok _⟩ => marked || elements.contains element
  | ⟨.page (.clearCompleted elements), .ok _⟩ => marked && !elements.contains element
  | _ => marked

/-- The mark tells that the step was completed, the status that it still is. -/
structure Coherent (standing : Standing) (marked : Bool) (status : Status) : Prop where
  marked_iff : marked = true ↔ standing ≠ .fresh
  completed_iff : status = .completed ↔ standing = .done

theorem Coherent.move {standing : Standing} {marked : Bool} {before after : Status}
    (coherent : Coherent standing marked before) (other : after ≠ .completed) :
    Coherent standing.moved marked after := by
  constructor
  · rw [coherent.marked_iff]
    cases standing <;> simp [Standing.moved]
  · cases standing <;> simp [Standing.moved, other]

theorem Coherent.agree_iff {standing : Standing} {marked : Bool} {status : Status}
    (coherent : Coherent standing marked status) :
    (marked = true ↔ status = .completed) ↔ standing ≠ .undone := by
  rw [coherent.marked_iff, coherent.completed_iff]
  cases standing <;> simp

namespace Guide

open Run

variable {key own : String} {element : Element} {standing : Standing} {marked : Bool}
variable {rendering : Rendering} {step : Step} {before after : Records} {trace : List Turn}
variable {history : List Turn}

/-! Turns. -/

/-- The turns so far, from a standing and a mark on, are coherent with the status. -/
def Marks (key : String) (element : Element) (standing : Standing) (marked : Bool) : Invariant :=
  fun history statuses =>
    Coherent (history.foldl (Turn.stand key) standing) (history.foldl (Turn.mark element) marked)
      (statuses key)

theorem marks_append {statuses : String → Status} :
    Marks key element standing marked (history ++ trace) statuses ↔
      Marks key element (history.foldl (Turn.stand key) standing)
        (history.foldl (Turn.mark element) marked) trace statuses := by
  unfold Marks
  rw [List.foldl_append, List.foldl_append]

theorem stand_of_idles {turn : Turn} (idles : turn.asked.idles = true) :
    turn.stand key standing = standing := by
  obtain ⟨asked, reply⟩ := turn
  cases asked with
  | move move => cases idles
  | _ => rfl

theorem mark_of_idles {turn : Turn} (idles : turn.asked.idles = true) :
    turn.mark element marked = marked := by
  obtain ⟨asked, reply⟩ := turn
  cases asked with
  | page call =>
      cases call with
      | markCompleted | clearCompleted => cases idles
      | _ => rfl
  | _ => rfl

theorem foldl_stand_of_idles (idles : ∀ turn ∈ trace, turn.asked.idles = true) :
    trace.foldl (Turn.stand key) standing = standing := by
  induction trace with
  | nil => rfl
  | cons turn rest ih =>
      rw [List.foldl_cons, stand_of_idles (idles turn List.mem_cons_self)]
      exact ih fun other member => idles other (List.mem_cons_of_mem _ member)

theorem foldl_mark_of_idles (idles : ∀ turn ∈ trace, turn.asked.idles = true) :
    trace.foldl (Turn.mark element) marked = marked := by
  induction trace with
  | nil => rfl
  | cons turn rest ih =>
      rw [List.foldl_cons, mark_of_idles (idles turn List.mem_cons_self)]
      exact ih fun other member => idles other (List.mem_cons_of_mem _ member)

theorem marks_append_of_idles {statuses : String → Status}
    (idles : ∀ turn ∈ trace, turn.asked.idles = true)
    (kept : Marks key element standing marked history statuses) :
    Marks key element standing marked (history ++ trace) statuses := by
  rw [marks_append]
  unfold Marks
  rw [foldl_stand_of_idles idles, foldl_mark_of_idles idles]
  exact kept

theorem lasting_marks (calm : Turn → Prop) :
    Lasting calm (Marks key element standing marked) := by
  intro history statuses turn idles _ kept
  apply marks_append_of_idles _ kept
  intro other member
  rw [List.mem_singleton.1 member]
  exact idles

theorem marks_accepts {move : Move} {turn : Turn} (accepts : before.Accepts move turn after)
    (other : move.status ≠ .completed)
    (kept : Marks key element standing marked history before.status) :
    Marks key element standing marked (history ++ [turn]) after.status := by
  obtain ⟨⟨state, rfl⟩, status, same⟩ := accepts
  rw [marks_append]
  by_cases here : move.step = key
  · subst here
    have unlike : after.status move.step ≠ .completed := by
      rw [status]
      exact other
    have moved := kept.move unlike
    simpa [Marks, Turn.stand, Turn.mark, other] using moved
  · unfold Marks at kept
    rw [← same.status (Ne.symm here)] at kept
    simpa [Marks, Turn.stand, Turn.mark, here] using kept

theorem marks_move {move : Move} {reply : Except GuideError StepState}
    (moves : before.Moves move reply after) (other : move.status ≠ .completed)
    (kept : Marks key element standing marked history before.status) :
    Marks key element standing marked (history ++ [⟨.move move, reply⟩]) after.status := by
  rcases moves.cases with ⟨may, -⟩ | ⟨-, ⟨error, rfl, -⟩, rfl⟩
  · exact marks_accepts (moves.accepts may) other kept
  · rw [marks_append]
    exact kept

def modest (asked : Request) : Prop :=
  asked.idles = true ∨ ∃ move, asked = .move move ∧ move.status ≠ .completed

theorem modest_of_quietly {asked : Request} (quiet : quietly asked) : modest asked := by
  rcases quiet with ⟨idles, -⟩ | move
  · exact .inl idles
  · exact .inr move

theorem keeps_of_modest {α : Type} {run : Run α} {calm : Turn → Prop} (asks : run.Asks modest) :
    run.Keeps calm (Marks key element standing marked) := by
  refine keeps_of_asks asks ?_
  rintro history before ⟨asked, reply⟩ after (idles | ⟨move, rfl, other⟩) calmly answered kept
  · rw [Records.status_of_idles idles answered]
    exact lasting_marks calm idles calmly kept
  · exact marks_move answered other kept

/-! Completions. -/

theorem idles_of_announces {asked : Request} (announces : Control.announces asked) :
    asked.idles = true := by
  rcases announces with rfl | ⟨control, rfl⟩
  · rfl
  · rfl

theorem idles_of_looks {asked : Request} (looks : asked.looks = true) : asked.idles = true :=
  Request.idles_of_passes asked (Request.passes_of_looks asked looks)

theorem marks_marking {controls : List Element} {more : List Turn} {statuses : String → Status}
    (rendered : element ∈ rendering.group key)
    (held : (Control.markCompleted (some own)).Held before trace after (.ok controls))
    (steady : ∀ turn ∈ trace, rendering.Steady turn) :
    Marks key element standing marked (trace ++ more) statuses ↔
      Marks key element standing (marked || own == key) more statuses := by
  rcases Control.held_markCompleted held steady with
    ⟨_, same, -⟩ | ⟨seeking, later, -, -, rfl, looks, announces⟩
  · cases same
  · have seeking_idles := fun turn member => idles_of_looks (looks turn member)
    have later_idles := fun turn member => idles_of_announces (announces turn member)
    have inside : (rendering.group own).contains element = (own == key) := by
      rw [Bool.eq_iff_iff, List.contains_iff_mem, beq_iff_eq]
      constructor
      · exact fun member => Rendering.key_eq_of_mem member rendered
      · rintro rfl
        exact rendered
    rw [List.append_assoc, List.cons_append, marks_append, foldl_stand_of_idles seeking_idles,
      foldl_mark_of_idles seeking_idles, ← inside]
    change Marks key element standing (marked || (rendering.group own).contains element)
      (later ++ more) statuses ↔ _
    rw [marks_append, foldl_stand_of_idles later_idles, foldl_mark_of_idles later_idles]

theorem marks_unmarked {fault : Fault} {statuses : String → Status}
    (held : (Control.markCompleted (some own)).Held before trace after (.error fault))
    (steady : ∀ turn ∈ trace, rendering.Steady turn)
    (kept : Marks key element standing marked history statuses) :
    Marks key element standing marked (history ++ trace) statuses := by
  rcases Control.held_markCompleted held steady with ⟨_, -, looks, -⟩ | ⟨_, _, same, -⟩
  · exact marks_append_of_idles (fun turn member => idles_of_looks (looks turn member)) kept
  · cases same

theorem marks_completion {controls : List Element} {idle : Records} {turn : Turn}
    (rendered : element ∈ rendering.group key)
    (held : (Control.markCompleted (some own)).Held idle trace idle (.ok controls))
    (steady : ∀ turn ∈ trace, rendering.Steady turn)
    (ending : idle.Accepts ⟨own, .completed, none, none⟩ turn after)
    (kept : Marks key element standing marked history idle.status) :
    Marks key element standing marked (history ++ (trace ++ [turn])) after.status := by
  obtain ⟨⟨state, rfl⟩, status, same⟩ := ending
  rw [marks_append, marks_marking rendered held steady]
  by_cases here : own = key
  · subst here
    constructor
    · simp [Turn.stand, Turn.mark]
    · simpa [Turn.stand] using status
  · have unlike : (own == key) = false := by simpa using here
    unfold Marks at kept
    rw [← same.status (Ne.symm here)] at kept
    simpa [Marks, Turn.stand, Turn.mark, here, unlike] using kept

theorem marks_ending {controls : List Element} {reply : Except GuideError StepState}
    (rendered : element ∈ rendering.group key)
    (held : (Control.markCompleted (some own)).Held before trace before (.ok controls))
    (steady : ∀ turn ∈ trace, rendering.Steady turn) (whole : before.status own ≠ .error)
    (moves : before.Moves ⟨own, .completed, none, none⟩ reply after)
    (kept : Marks key element standing marked history before.status) :
    Marks key element standing marked
      (history ++ (trace ++ [⟨.move ⟨own, .completed, none, none⟩, reply⟩])) after.status := by
  rcases moves.cases with ⟨may, -⟩ | ⟨may, ⟨error, rfl, -⟩, rfl⟩
  · exact marks_completion rendered held steady (moves.accepts may) kept
  · have already : after.status own = .completed := by
      cases status : after.status own with
      | completed => rfl
      | error => exact absurd status whole
      | idle | running => simp [status, Status.mayBecome, Status.next] at may
    rw [marks_append, marks_marking rendered held steady]
    by_cases here : own = key
    · subst here
      -- the completion has left its marks before
      have before : history.foldl (Turn.mark element) marked = true := by
        rw [kept.marked_iff, kept.completed_iff.1 already]
        exact Standing.noConfusion
      rw [before, Bool.true_or, ← before]
      exact kept
    · have unlike : (own == key) = false := by simpa using here
      rw [unlike, Bool.or_false]
      exact kept

/-! Runs of steps. -/

/-- Modest runs keep the marks coherent, whatever the page answers. -/
theorem marks_of_modest {α : Type} {run : Run α} {result : Except Fault α}
    (held : run.Held before trace after result) (asks : run.Asks modest)
    (kept : Marks key element standing marked history before.status) :
    Marks key element standing marked (history ++ trace) after.status := by
  have keeps : run.Keeps (fun _ => True) (Marks key element standing marked) :=
    keeps_of_modest asks
  exact keeps held (fun _ _ => trivial) kept

theorem begin_modest (key : String) : (begin key).Asks modest :=
  asks_mono (begin_quietly key) fun _ => modest_of_quietly

theorem reset_modest (key : String) : (Run.reset key).Asks modest :=
  asks_mono (reset_quietly key) fun _ => modest_of_quietly

theorem clearing_modest (key : String) : (clearing key).Asks modest :=
  asks_mono (clearing_quietly key) fun _ => modest_of_quietly

theorem perform_modest (command : Command) : command.perform.Asks modest :=
  asks_mono (perform_passes command) fun asked passes => .inl (Request.idles_of_passes asked passes)

theorem held_bookkeeping {result : Except Fault Unit}
    (held : (bookkeeping own).Held before trace after result)
    (steady : ∀ turn ∈ trace, rendering.Steady turn) :
    ∃ inner books, (Control.markCompleted (some own)).Held before books after inner ∧
      result = inner.map (fun _ => ()) ∧ trace = ⟨.page .settle, .ok ()⟩ :: books ∧
      ∀ turn ∈ books, rendering.Steady turn := by
  obtain ⟨books, marking, rfl, onward⟩ :=
    Control.held_duty_bind _ held steady fun _ answered => answered
  obtain ⟨inner, marks, rfl⟩ := held_discard.1 marking
  exact ⟨inner, books, marks, rfl, rfl, onward⟩

theorem runStep_marks (rendered : element ∈ rendering.group key) (step : Step) (mode : Mode) :
    (runStep step mode).Keeps rendering.Steady (Marks key element standing marked) := by
  intro history before trace after result held steady kept
  obtain ⟨progress, course, -⟩ := course_of_held held
  have tried {opening acting : List Turn} {begun : Records} {command : Command}
      {result : Except Fault Performance}
      (begins : (begin step.key).Held before opening begun (.ok ()))
      (acts : command.perform.Held begun acting begun result) :
      Marks key element standing marked (history ++ opening ++ acting) begun.status := by
    have begun := marks_of_modest begins (begin_modest _) kept
    exact marks_of_modest acts (perform_modest command) begun
  cases course with
  | refused _ begins => exact marks_of_modest begins (begin_modest _) kept
  | broke begins acts ending | shown begins acts ending =>
      rw [← List.append_assoc, ← List.append_assoc]
      exact marks_accepts ending Status.noConfusion (tried begins acts)
  | late begins acts books ending =>
      have onward := (Control.steady_append (Control.steady_append steady).2).2
      obtain ⟨inner, marks, marking, same, rfl, marks_steady⟩ :=
        held_bookkeeping books (Control.steady_append onward).1
      cases inner with
      | ok controls => cases same
      | error fault =>
          have settled := lasting_marks rendering.Steady rfl (onward _ List.mem_cons_self)
            (tried begins acts)
          have unmarked := marks_unmarked marking marks_steady settled
          have ended := marks_accepts ending Status.noConfusion unmarked
          simpa only [List.append_assoc, List.cons_append, List.nil_append] using ended
  | completed begins acts books ending =>
      have onward := (Control.steady_append (Control.steady_append steady).2).2
      obtain ⟨inner, marks, marking, same, rfl, marks_steady⟩ :=
        held_bookkeeping books (Control.steady_append onward).1
      cases inner with
      | error fault => cases same
      | ok controls =>
          have settled := lasting_marks rendering.Steady rfl (onward _ List.mem_cons_self)
            (tried begins acts)
          have ended := marks_completion rendered marking marks_steady ending settled
          simpa only [List.append_assoc, List.cons_append, List.nil_append] using ended

/-- A step that is no multi-step is marked whenever its objectives complete it. -/
theorem completeByObjectives_marks (rendered : element ∈ rendering.group key)
    (single : step.body = .single) :
    (completeByObjectives step).Keeps rendering.Steady (Marks key element standing marked) := by
  intro history before trace after result held steady kept
  have multiple : isMultiple step = false := by simp [isMultiple, single]
  cases shortcut_of_held held with
  | already => exact marks_append_of_idles (by simp [Request.idles]) kept
  | unmarked clears _ marking =>
      have cleared := marks_of_modest clears (clearing_modest _) kept
      rw [← List.append_assoc]
      exact marks_unmarked marking (Control.steady_append steady).2 cleared
  | completed clears _ marking ending =>
      obtain ⟨controls, marking⟩ := marking multiple
      have cleared := marks_of_modest clears (clearing_modest _) kept
      have onward := (Control.steady_append (Control.steady_append steady).2).1
      rw [← List.append_assoc]
      exact marks_completion rendered marking onward ending cleared

/-! Sequences. -/

theorem reset_marks (own : String) :
    (Run.reset own).Keeps rendering.Steady (Marks key element standing marked) :=
  keeps_of_modest (reset_modest own)

theorem tour_marks (rendered : element ∈ rendering.group key) (step : Step) (showOnly : Bool) :
    (tour step showOnly).Keeps rendering.Steady (Marks key element standing marked) := by
  have lasting : Lasting rendering.Steady (Marks key element standing marked) := lasting_marks _
  have mended (child : Step) :
      Mended rendering.Steady (Marks key element standing marked)
        (Marks key element standing marked) child :=
    mended_of_keeps lasting (runStep_marks rendered child) (reset_marks child.key)
  apply (tour_leads lasting (.refl _) _ _ _ step showOnly).keeps
  · intro child single
    exact prepare_leads lasting (.refl _) ((reset_marks _).leads (.refl _))
      ((completeByObjectives_marks rendered single).leads (.refl _))
  · exact fun child _ patience => showAttempts_leads (mended child) patience 0
  · exact fun child _ isLast patience => doAttempts_leads (mended child) isLast patience 0

def Sound (key : String) : Invariant :=
  fun _ statuses => statuses key ≠ .error

def Torn (key : String) (step : Step) : Invariant :=
  fun _ statuses => statuses key = .error → key = step.key

theorem runStep_sound (step : Step) (mode : Mode) :
    (runStep step mode).Leads (fun _ => True) (Sound key) (Sound key) (Torn key step) := by
  intro history before trace after result held _ sound
  obtain ⟨progress, course, rfl⟩ := course_of_held held
  -- a run that succeeds ends idle or completed, any other one in an error of its own step
  by_cases own : key = step.key
  · cases progress with
    | ended =>
        have status := course.status_eq
        rw [← own] at status
        cases mode <;> simp [Progress.result, Sound, status]
    | _ => exact fun _ => own
  · have same := course.sameBut.status own
    cases progress with
    | ended =>
        intro failed
        exact sound (same ▸ failed)
    | _ =>
        intro failed
        exact absurd (same ▸ failed) sound

theorem reset_sound (step : Step) :
    (Run.reset step.key).Leads (fun _ => True) (Torn key step) (Sound key) (Torn key step) := by
  intro history before trace after result held _ torn
  obtain ⟨⟨state, rfl⟩, idle, same, -⟩ := held_reset held
  intro failed
  by_cases own : key = step.key
  · rw [own, idle] at failed
    cases failed
  · rw [same.status own] at failed
    exact own (torn failed)

theorem completeByObjectives_sound (step : Step) :
    (completeByObjectives step).Keeps (fun _ => True) (Sound key) := by
  intro history before trace after result held _ sound
  have shortcut := shortcut_of_held held
  intro failed
  by_cases own : key = step.key
  · rw [own, shortcut.status_eq] at failed
    cases result <;> cases failed
  · rw [shortcut.sameBut.status own] at failed
    exact sound failed

/-- A tour that succeeds leaves no error behind, not even in the sequence itself if one of its steps
goes by the same name. -/
theorem tour_sound (step : Step) (showOnly : Bool) :
    (tour step showOnly).Leads (fun _ => True) (Sound key) (Sound key) fun _ _ => True := by
  have lasting : Lasting (fun _ => True) (Sound key) := fun _ _ _ _ _ sound => sound
  have lost {invariant : Invariant} : invariant.Implies fun _ _ => True := fun _ _ _ => trivial
  have tears (child : Step) : (Sound key).Implies (Torn key child) :=
    fun _ _ sound failed => absurd failed sound
  have mended (child : Step) : Mended (fun _ => True) (Sound key) (Torn key child) child :=
    ⟨lasting, tears child, runStep_sound child, reset_sound child⟩
  apply tour_leads lasting lost
  · intro child _
    have resets : (Run.reset child.key).Leads (fun _ => True) (Sound key) (Sound key)
        (Torn key child) :=
      fun _ _ _ _ _ held calmly sound => reset_sound child held calmly (tears child sound)
    exact (prepare_leads lasting (tears child) resets
      ((completeByObjectives_sound child).leads (tears child))).weaken lost
  · exact fun child _ patience => (showAttempts_leads (mended child) patience 0).weaken lost
  · exact fun child _ isLast patience =>
      (doAttempts_leads (mended child) isLast patience 0).weaken lost

theorem walk_marks (rendered : element ∈ rendering.group key) (step : Step) (showOnly : Bool) :
    (walk step showOnly).Leads rendering.Steady (Marks key element standing marked)
      (fun _ _ => True) (Marks key element standing marked) := by
  rw [walk_eq_tour]
  refine leads_bind ((tour_marks rendered step showOnly).leads (.refl _)) fun _ => ?_
  intro history before trace after result held steady kept
  obtain ⟨inner, marking, rfl⟩ := held_discard.1 held
  obtain rfl := marking.spared (markCompleted_spares _)
  cases inner with
  | ok controls => trivial
  | error fault => exact marks_unmarked marking steady kept

theorem walked_marks {showOnly : Bool} {last : List Turn} {inside : Records}
    {result : Except Fault Unit}
    (rendered : element ∈ rendering.group key) (running : before.status step.key = .running)
    (held : (walk step showOnly).Held before trace inside (.ok ()))
    (moved : (Run.moveTo step.key .completed).Held inside last after result)
    (steady : ∀ turn ∈ trace, rendering.Steady turn)
    (kept : Marks key element standing marked history before.status) :
    Marks key element standing marked (history ++ (trace ++ last)) after.status := by
  obtain ⟨reply, moves, rfl, -⟩ := held_moveTo.1 moved
  rw [walk_eq_tour] at held
  obtain ⟨⟨⟩, touring, _, books, toured, marking, rfl⟩ := held_bind_ok.1 held
  obtain ⟨inner, marking, same⟩ := held_discard.1 marking
  cases inner with
  | error fault => cases same
  | ok controls =>
      obtain rfl := marking.spared (markCompleted_spares _)
      -- from an error the sequence could not be completed, though it is marked
      have sound : inside.status step.key ≠ .error :=
        @tour_sound step.key step showOnly history _ _ _ _ toured (fun _ _ => trivial)
          (by rw [Sound, running]; exact Status.noConfusion)
      have kept := tour_marks rendered step showOnly toured (Control.steady_append steady).1 kept
      have ended := marks_ending rendered marking (Control.steady_append steady).2 sound moves kept
      simpa only [List.append_assoc] using ended

theorem enclosed_marks (rendered : element ∈ rendering.group key) (step : Step)
    (showOnly : Bool) :
    (enclosed step showOnly).Keeps rendering.Steady (Marks key element standing marked) := by
  intro history before trace after result held steady kept
  rcases held_bind.1 held with ⟨⟨⟩, opening, begun, _, begins, inner, rfl⟩ | ⟨fault, refused, -⟩
  · have onward := (Control.steady_append steady).2
    have kept := marks_of_modest begins (begin_modest _) kept
    rw [← List.append_assoc]
    rcases held_bind.1 inner with ⟨⟨⟩, walking, inside, _, walked, moved, rfl⟩ | ⟨fault, failed, -⟩
    · have running : begun.status step.key = .running := by
        rcases held_begin begins with ⟨-, -, _, -, same⟩ | ⟨-, -, running, -⟩
        · cases same
        · exact running
      have walked : (walk step showOnly).Held begun walking inside (.ok ()) := by
        rcases held_failing walked with ⟨⟨⟩, walked, -⟩ | ⟨_, _, _, reply, -, -, -, told, refused⟩
        · exact walked
        · cases reply with
          | ok state => cases told ⟨state, rfl⟩
          | error error => cases refused error rfl
      exact walked_marks rendered running walked moved (Control.steady_append onward).1 kept
    · rcases held_failing failed with ⟨_, -, same⟩ | ⟨_, walking, _, reply, walked, moves, rfl, -⟩
      · cases same
      · have kept := walk_marks rendered step showOnly walked (Control.steady_append onward).1 kept
        rw [← List.append_assoc]
        exact marks_move moves Status.noConfusion kept
  · exact marks_of_modest refused (begin_modest _) kept

/-! Operations. -/

theorem foldl_clearing {result : Except Fault (List Element)}
    (rendered : element ∈ rendering.group key)
    (held : (Control.clearCompleted own).Held before trace after result)
    (steady : ∀ turn ∈ trace, rendering.Steady turn) :
    (∀ standing, trace.foldl (Turn.stand key) standing = standing) ∧
      ∀ marked, trace.foldl (Turn.mark element) marked = (marked && own != key) := by
  obtain ⟨-, seeking, later, rfl, looks, closing⟩ := Control.held_clearCompleted held steady
  have seeking_idles := fun turn member => idles_of_looks (looks turn member)
  simp only [List.foldl_append, foldl_stand_of_idles seeking_idles,
    foldl_mark_of_idles seeking_idles]
  by_cases here : own = key
  · subst here
    have there : rendering.group own ≠ [] := List.ne_nil_of_mem rendered
    rw [if_neg there] at closing
    subst closing
    constructor
    · exact fun _ => rfl
    · simp [Turn.mark, rendered]
  · have outside : element ∉ rendering.group own :=
      fun member => here (Rendering.key_eq_of_mem member rendered)
    split at closing
    · subst closing
      simp [here]
    · subst closing
      simp [Turn.stand, Turn.mark, outside, here]

inductive Operation where
  | trigger (step : Step) (mode : Mode)
  | reset (key : String)

namespace Operation

def run : Operation → Run Unit
  | trigger step mode => discard (Guide.trigger step mode)
  | reset key => discard (Guide.reset key)

def plain : Operation → Prop
  | trigger step _ => step.body = .single
  | reset _ => True

end Operation

/-- An operation with the turns it took. -/
structure Deed where
  operation : Operation
  turns : List Turn

def Deed.stand (key : String) (standing : Standing) (deed : Deed) : Standing :=
  match deed.operation with
  | .trigger .. => deed.turns.foldl (Turn.stand key) standing
  | .reset own => if own = key then .fresh else deed.turns.foldl (Turn.stand key) standing

def Deed.mark (element : Element) (marked : Bool) (deed : Deed) : Bool :=
  deed.turns.foldl (Turn.mark element) marked

/-- Deeds one after the other, from an empty store on, whatever comes of each one. -/
inductive History : List Deed → Records → Prop where
  | start : History [] ⟨[], []⟩
  | later {past before turns after result} {operation : Operation} (earlier : History past before)
      (held : operation.run.Held before turns after result) :
      History (past ++ [⟨operation, turns⟩]) after

def standingAfter (key : String) (past : List Deed) : Standing :=
  past.foldl (Deed.stand key) .fresh

def markedAfter (element : Element) (past : List Deed) : Bool :=
  past.foldl (Deed.mark element) false

theorem trigger_marks (rendered : element ∈ rendering.group key) (mode : Mode)
    (single : step.body = .single) :
    (trigger step mode).Keeps rendering.Steady (Marks key element standing marked) := by
  apply trigger_keeps (lasting_marks _) mode (completeByObjectives_marks rendered single)
  · intro multiple
    simp [isMultiple, single] at multiple
  · exact runSequence_keeps (lasting_marks _) (enclosed_marks rendered step _)
  · exact runStep_marks rendered step mode

theorem reset_coherent {result : Except Fault StepState} (rendered : element ∈ rendering.group key)
    (held : (Guide.reset own).Held before trace after result)
    (steady : ∀ turn ∈ trace, rendering.Steady turn)
    (coherent : Coherent standing marked (before.status key)) :
    Coherent (Deed.stand key standing ⟨.reset own, trace⟩)
      (Deed.mark element marked ⟨.reset own, trace⟩) (after.status key) := by
  rcases held_bind.1 held with ⟨_, opening, idle, _, reset, tail, rfl⟩ | ⟨_, failed, -⟩
  · -- making the step idle takes no mark off; what follows does
    have kept : Marks key element standing marked ([] ++ opening) idle.status :=
      marks_of_modest reset (reset_modest own) coherent
    have onward := (Control.steady_append steady).2
    rcases held_bind.1 tail with ⟨_, clearing, _, _, clears, ended, rfl⟩ | ⟨_, failed, -⟩
    · obtain ⟨rfl, rfl, -⟩ := held_pure.1 ended
      obtain ⟨_, clears, -⟩ := held_discard.1 clears
      obtain ⟨stood, unmarked⟩ :=
        foldl_clearing rendered clears (Control.steady_append onward).1
      obtain rfl := clears.spared (asks_mono (Control.clearCompleted_keepsBooks own)
        Request.spares_of_keepsBooks)
      unfold Deed.stand Deed.mark
      simp only [List.append_nil, List.foldl_append, stood, unmarked]
      by_cases here : own = key
      · subst here
        have status : after.status own = .idle := (held_reset reset).2.1
        rw [if_pos rfl]
        constructor
        · simp
        · simp [status]
      · have unlike : (own != key) = true := by simpa using here
        rw [if_neg here, unlike, Bool.and_true]
        exact kept
    · obtain ⟨_, failed, same⟩ := held_discard.1 failed
      obtain ⟨rfl, -⟩ := Control.held_clearCompleted failed onward
      cases same
  · obtain ⟨⟨_, same⟩, -⟩ := held_reset failed
    cases same

theorem deed_coherent {operation : Operation} {result : Except Fault Unit}
    (rendered : element ∈ rendering.group key)
    (held : operation.run.Held before trace after result) (plain : operation.plain)
    (steady : ∀ turn ∈ trace, rendering.Steady turn)
    (coherent : Coherent standing marked (before.status key)) :
    Coherent (Deed.stand key standing ⟨operation, trace⟩)
      (Deed.mark element marked ⟨operation, trace⟩) (after.status key) := by
  cases operation with
  | trigger step mode =>
      obtain ⟨_, held, -⟩ := held_discard.1 held
      have start : Marks key element standing marked [] before.status := coherent
      have kept := trigger_marks rendered mode plain held steady start
      exact kept
  | reset own =>
      obtain ⟨_, held, -⟩ := held_discard.1 held
      exact reset_coherent rendered held steady coherent

/-- After every history the controls of a step are marked exactly if it was completed since it was
last reset. So the marks agree with its status exactly if it was not made idle again since, other
than by a reset. -/
theorem marks_agree_iff {past : List Deed} {records : Records} (history : History past records)
    (steady : ∀ deed ∈ past, ∀ turn ∈ deed.turns, rendering.Steady turn)
    (plain : ∀ deed ∈ past, deed.operation.plain) (rendered : element ∈ rendering.group key) :
    (markedAfter element past = true ↔ standingAfter key past ≠ .fresh) ∧
      (records.status key = .completed ↔ standingAfter key past = .done) ∧
      ((markedAfter element past = true ↔ records.status key = .completed) ↔
        standingAfter key past ≠ .undone) := by
  have coherent : Coherent (standingAfter key past) (markedAfter element past)
      (records.status key) := by
    induction history with
    | start =>
        have fresh : Coherent .fresh false .idle := by constructor <;> simp
        exact fresh
    | later earlier held ih =>
        obtain ⟨steady, last_steady⟩ := List.forall_mem_append.1 steady
        obtain ⟨plain, last_plain⟩ := List.forall_mem_append.1 plain
        unfold standingAfter markedAfter
        rw [List.foldl_append, List.foldl_append]
        exact deed_coherent rendered held (last_plain _ List.mem_cons_self)
          (last_steady _ List.mem_cons_self) (ih steady plain)
  exact ⟨coherent.marked_iff, coherent.completed_iff, coherent.agree_iff⟩

def roadway : Rendering where
  rootSelector := ""
  roots := [0]
  controls := [0]
  key _ := some "step-detour"

/-- A scene with one control that has the key of the detour, whatever else is written on it. -/
theorem steady_of_posted {scene : Scene}
    (tuned : scene.tuning.contentRootSelector = .text "")
    (queries : ∀ selector root, scene.page (.query selector root) = .ok [0])
    (signs : ∀ control, ∃ attributes, scene.page (.attributes control) = .ok attributes ∧
      Control.key? attributes = some "step-detour")
    (marks : ∀ controls, scene.page (.markCompleted controls) = .ok ())
    (clears : ∀ controls, scene.page (.clearCompleted controls) = .ok ())
    (tells : ∀ control state, scene.page (.completionEvent control state) = .ok ())
    (settles : scene.page .settle = .ok ()) (known : ∀ turn ∈ trace, scene.Gave turn) :
    ∀ turn ∈ trace, roadway.Steady turn := by
  rintro ⟨asked, reply⟩ member
  obtain ⟨met, same⟩ := known _ member
  cases asked with
  | settings =>
      obtain rfl : reply = scene.tuning := same
      exact tuned
  | page call =>
      obtain rfl : reply = scene.page call := same
      cases call with
      | query selector root =>
          exact ⟨fun _ _ => queries selector root, fun _ _ => queries selector root⟩
      | attributes control => exact fun _ => signs control
      | markCompleted controls => exact marks controls
      | clearCompleted controls => exact clears controls
      | completionEvent control state => exact tells control state
      | settle => exact settles
      | _ => trivial
  | _ => trivial

theorem steady_of_roadside (known : ∀ turn ∈ trace, roadside.Gave turn) :
    ∀ turn ∈ trace, roadway.Steady turn :=
  steady_of_posted rfl (fun _ _ => rfl) (fun _ => ⟨signpost, rfl, by decide⟩) (fun _ => rfl)
    (fun _ => rfl) (fun _ _ => rfl) rfl known

theorem detour_marks_agree :
    ∃ past records, History past records ∧
      (∀ deed ∈ past, ∀ turn ∈ deed.turns, roadway.Steady turn) ∧
      (∀ deed ∈ past, deed.operation.plain) ∧ 0 ∈ roadway.group "step-detour" ∧
      past.map Deed.operation = [.trigger detour .commit, .reset "step-detour"] ∧
      (markedAfter 0 past = true ↔ standingAfter "step-detour" past ≠ .fresh) ∧
      (records.status "step-detour" = .completed ↔ standingAfter "step-detour" past = .done) ∧
      ((markedAfter 0 past = true ↔ records.status "step-detour" = .completed) ↔
        standingAfter "step-detour" past ≠ .undone) := by
  obtain ⟨first, triggered, first_known⟩ :=
    roadside.held (Operation.trigger detour .commit).run ⟨[], []⟩
  obtain ⟨second, reset, second_known⟩ :=
    roadside.held (Operation.reset "step-detour").run
      (roadside.outcome (Operation.trigger detour .commit).run ⟨[], []⟩).2
  have history := History.later (.later .start triggered) reset
  have steady : ∀ deed ∈ [] ++ [Deed.mk (.trigger detour .commit) first] ++
      [Deed.mk (.reset "step-detour") second], ∀ turn ∈ deed.turns, roadway.Steady turn := by
    simp only [List.nil_append, List.cons_append, List.forall_mem_cons]
    exact ⟨steady_of_roadside first_known, steady_of_roadside second_known, by simp⟩
  have plain : ∀ deed ∈ [] ++ [Deed.mk (.trigger detour .commit) first] ++
      [Deed.mk (.reset "step-detour") second], deed.operation.plain := by
    simp only [List.nil_append, List.cons_append, List.forall_mem_cons]
    exact ⟨rfl, trivial, by simp⟩
  have rendered : 0 ∈ roadway.group "step-detour" := by decide
  exact ⟨_, _, history, steady, plain, rendered, rfl,
    marks_agree_iff history steady plain rendered⟩

end Guide

end Walkthrough
