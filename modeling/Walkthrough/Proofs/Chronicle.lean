import Mathlib.Data.List.Induction
import Walkthrough.Store.Channel
/-!
What happens around the store of the steps. Listeners may fail, begin and end subscriptions and
move steps themselves in the midst of a telling, and a listener is told more each time, so that its
reactions may be any at all. A chronicle takes down what happens, one thing after the other.
Whatever the listeners do, only moves of the table are written down, and each of them is told once
to everyone who was subscribed when its telling began.
-/

namespace Walkthrough

/-- An accepted move, with the serial numbers of those who are subscribed then. -/
structure Publication where
  change : StateChange
  audience : List Nat
deriving DecidableEq

inductive Happening where
  | published (publication : Publication)
  | told (number : Nat) (notice : Notice)
  | subscribed (serial : Nat)
  | unsubscribed (serial : Nat)
  | indexed (step : String) (index : Int)
deriving DecidableEq

def Happening.publication? : Happening → Option Publication
  | published publication => some publication
  | _ => none

def Happening.notice? : Happening → Option Notice
  | told _ notice => some notice
  | _ => none

def Happening.recipient? (number : Nat) : Happening → Option Nat
  | told other notice => if other = number then some notice.serial else none
  | _ => none

def publications (past : List Happening) : List Publication :=
  past.filterMap Happening.publication?

def changes (past : List Happening) : List StateChange :=
  (publications past).map Publication.change

def recipients (number : Nat) (past : List Happening) : List Nat :=
  past.filterMap (Happening.recipient? number)

@[simp] theorem publications_append (first second : List Happening) :
    publications (first ++ second) = publications first ++ publications second :=
  List.filterMap_append

@[simp] theorem changes_append (first second : List Happening) :
    changes (first ++ second) = changes first ++ changes second := by
  simp [changes]

theorem publications_concat {happening : Happening} (past : List Happening)
    (silent : happening.publication? = none) :
    publications (past ++ [happening]) = publications past := by
  simp [publications, silent]

theorem changes_concat {happening : Happening} (past : List Happening)
    (silent : happening.publication? = none) : changes (past ++ [happening]) = changes past := by
  rw [changes, publications_concat past silent]
  rfl

@[simp] theorem recipients_append (number : Nat) (first second : List Happening) :
    recipients number (first ++ second) = recipients number first ++ recipients number second :=
  List.filterMap_append

/-- How a board comes about, starting from the empty one. Only accepted moves are written down;
everyone who is subscribed then is the audience, and what is told is one of the publications. -/
inductive History : List Happening → Board → Prop where
  | empty : History [] Board.empty
  | published {past board move change store} (earlier : History past board)
      (accepted : board.store.transition move = .ok (change, store)) :
      History (past ++ [.published ⟨change, board.listeners.map Listener.serial⟩])
        { board with store := store }
  | told {past board number publication serial} (earlier : History past board)
      (known : (publications past)[number]? = some publication) :
      History (past ++ [.told number ⟨serial, publication.change⟩])
        { board with notices := board.notices ++ [⟨serial, publication.change⟩] }
  | subscribed {past board} (earlier : History past board) (listener : Listener) :
      History (past ++ [.subscribed listener.serial]) (board.subscribe listener)
  | unsubscribed {past board} (earlier : History past board) (serial : Nat) :
      History (past ++ [.unsubscribed serial]) (board.unsubscribe serial)
  | indexed {past board} (earlier : History past board) (step : String) (index : Int) :
      History (past ++ [.indexed step index]) (board.setIndex step index)

variable {past segment : List Happening} {board : Board}

/-! What is true of every history. -/

/-- Changes that follow upon each other by moves of the table. -/
inductive Follows : Status → List StateChange → Status → Prop where
  | done {status} : Follows status [] status
  | next {status change rest last} (previous : change.previous = status)
      (may : status.mayBecome change.status = true) (others : Follows change.status rest last) :
      Follows status (change :: rest) last

theorem Follows.concat {first last : Status} {path : List StateChange} {change : StateChange}
    (follows : Follows first path last) (previous : change.previous = last)
    (may : last.mayBecome change.status = true) :
    Follows first (path ++ [change]) change.status := by
  induction follows with
  | done => exact .next previous may .done
  | next same moves others ih => exact .next same moves (ih previous may)

def changesOf (key : String) (path : List StateChange) : List StateChange :=
  path.filter fun change => change.step == key

theorem changesOf_append (key : String) (first second : List StateChange) :
    changesOf key (first ++ second) = changesOf key first ++ changesOf key second :=
  List.filter_append ..

theorem changesOf_other {key : String} {change : StateChange} (distinct : key ≠ change.step) :
    changesOf key [change] = [] := by
  simp [changesOf, Ne.symm distinct]

theorem changesOf_own (change : StateChange) : changesOf change.step [change] = [change] := by
  simp [changesOf]

namespace Store

variable {store after : Store} {move : Move} {change : StateChange}

theorem transition_ok (accepted : store.transition move = .ok (change, after)) :
    change.step = move.step ∧ change.previous = store.status move.step ∧
      change.status = move.status ∧ (store.status move.step).mayBecome move.status = true ∧
      after = store.put move.step (moved (store.get move.step) move) := by
  unfold transition at accepted
  dsimp only at accepted
  split at accepted
  · next may =>
      cases accepted
      exact ⟨rfl, rfl, rfl, may, rfl⟩
  · cases accepted

theorem status_put_other {key step : String} (state : StepState) (distinct : key ≠ step) :
    (store.put step state).status key = store.status key := by
  unfold status
  rw [get_put_other store state distinct]

theorem status_setIndex (step key : String) (index : Int) :
    (store.setIndex step index).status key = store.status key := by
  by_cases same : key = step
  · subst same
    simp [setIndex, status, get_put_same]
  · exact status_put_other _ same

theorem follows_transition {key : String} {path : List StateChange}
    (follows : Follows .idle (changesOf key path) (store.status key))
    (accepted : store.transition move = .ok (change, after)) :
    Follows .idle (changesOf key (path ++ [change])) (after.status key) := by
  obtain ⟨step, previous, status, may, rfl⟩ := transition_ok accepted
  rw [changesOf_append]
  by_cases same : key = change.step
  · subst same
    rw [changesOf_own]
    have reached : (store.put move.step (moved (store.get move.step) move)).status change.step =
        change.status := by
      rw [step, status, Store.status, get_put_same]
      rfl
    rw [reached]
    rw [← step] at may previous
    exact follows.concat previous (by rw [status]; exact may)
  · rw [changesOf_other same, List.append_nil, status_put_other _ (by rw [← step]; exact same)]
    exact follows

end Store

namespace History

theorem follows (history : History past board) (key : String) :
    Follows .idle (changesOf key (changes past)) (board.store.status key) := by
  induction history with
  | empty => exact .done
  | published earlier accepted ih =>
      rw [changes_append]
      exact Store.follows_transition ih accepted
  | told _ _ ih | subscribed _ _ ih | unsubscribed _ _ ih =>
      rw [changes_concat _ rfl]
      exact ih
  | indexed earlier step index ih =>
      rw [changes_concat _ rfl, Board.setIndex, Store.status_setIndex]
      exact ih

theorem error_only (history : History past board) (key : String)
    (text : (board.store.get key).error ≠ none) : board.store.status key = .error := by
  induction history with
  | empty => exact absurd rfl text
  | @published _ board move _ _ earlier accepted ih =>
      obtain ⟨-, -, -, -, rfl⟩ := Store.transition_ok accepted
      by_cases same : key = move.step
      · subst same
        dsimp only at text ⊢
        rw [Store.status, Store.get_put_same]
        rw [Store.get_put_same] at text
        apply Classical.byContradiction
        intro other
        -- Whatever the text of the move, its state keeps none.
        have other : move.status ≠ .error := other
        exact text (if_neg other)
      · rw [Store.status_put_other _ same]
        rw [Store.get_put_other _ _ same] at text
        exact ih text
  | told _ _ ih | subscribed _ _ ih | unsubscribed _ _ ih => exact ih text
  | @indexed _ board earlier step index ih =>
      rw [Board.setIndex, Store.status_setIndex]
      apply ih
      by_cases same : key = step
      · subst same
        simpa [Board.setIndex, Store.setIndex, Store.get_put_same] using text
      · simpa [Board.setIndex, Store.setIndex, Store.get_put_other _ _ same] using text

theorem notices_eq (history : History past board) :
    board.notices = past.filterMap Happening.notice? := by
  induction history with
  | empty => rfl
  | told _ _ ih => simp [ih, Happening.notice?]
  | published _ _ ih | subscribed _ _ ih | unsubscribed _ _ ih | indexed _ _ _ ih =>
      rw [List.filterMap_append]
      exact ih.trans (List.append_nil _).symm

theorem told_published (history : History past board) {number : Nat} {notice : Notice}
    (told : .told number notice ∈ past) :
    ∃ publication, (publications past)[number]? = some publication ∧
      notice.change = publication.change := by
  induction history with
  | empty => cases told
  | told earlier known ih =>
      rw [publications_concat _ rfl]
      rcases List.mem_append.1 told with before | now
      · exact ih before
      · cases List.mem_singleton.1 now
        exact ⟨_, known, rfl⟩
  | published earlier accepted ih =>
      rcases List.mem_append.1 told with before | now
      · obtain ⟨publication, found, same⟩ := ih before
        refine ⟨publication, ?_, same⟩
        rw [publications_append,
          List.getElem?_append_left (List.getElem?_eq_some_iff.1 found).1, found]
      · cases List.mem_singleton.1 now
  | subscribed earlier _ ih | unsubscribed earlier _ ih | indexed earlier _ _ ih =>
      rw [publications_concat _ rfl]
      rcases List.mem_append.1 told with before | now
      · exact ih before
      · cases List.mem_singleton.1 now

theorem of_concat {last : Happening} (history : History (past ++ [last]) board) :
    ∃ before, History past before := by
  generalize whole : past ++ [last] = found at history
  cases history with
  | empty => simp at whole
  | published earlier | told earlier | subscribed earlier | unsubscribed earlier
  | indexed earlier =>
      obtain ⟨rfl, -⟩ := List.append_inj' whole rfl
      exact ⟨_, earlier⟩

theorem of_append (later : List Happening) (history : History (past ++ later) board) :
    ∃ before, History past before := by
  induction later using List.reverseRecOn generalizing board with
  | nil => exact ⟨board, by simpa using history⟩
  | append_singleton rest last ih =>
      rw [← List.append_assoc] at history
      obtain ⟨before, earlier⟩ := history.of_concat
      exact ih earlier

end History

/-- Where a board stands after a history. -/
structure Lawful (past : List Happening) (board : Board) : Prop where
  history : History past board
  follows : ∀ key, Follows .idle (changesOf key (changes past)) (board.store.status key)
  error_only : ∀ key, (board.store.get key).error ≠ none → board.store.status key = .error
  notices_eq : board.notices = past.filterMap Happening.notice?
  published : ∀ number notice, .told number notice ∈ past →
    ∃ publication, (publications past)[number]? = some publication ∧
      notice.change = publication.change

theorem History.lawful (history : History past board) : Lawful past board :=
  ⟨history, history.follows, history.error_only, history.notices_eq,
    fun _ _ told => history.told_published told⟩

/-! What is told. -/

/-- In what happens after `count` publications, each new one is told to its audience, once to each
in order; of the earlier ones only those are told whose telling is pending. -/
structure Delivers (pending : Nat → Prop) (count : Nat) (segment : List Happening) : Prop where
  own : ∀ number notice, .told number notice ∈ segment →
    pending number ∨ count ≤ number ∧ number < count + (publications segment).length
  each : ∀ number publication, (publications segment)[number]? = some publication →
    recipients (count + number) segment = publication.audience

namespace Delivers

variable {pending wider : Nat → Prop} {count : Nat}

theorem of_silent (silent : publications segment = [])
    (own : ∀ number notice, .told number notice ∈ segment → pending number) :
    Delivers pending count segment where
  own number notice member := .inl (own number notice member)
  each number publication found := by simp [silent] at found

theorem nil : Delivers pending count [] :=
  of_silent rfl (by simp)

theorem mono (delivers : Delivers pending count segment)
    (included : ∀ number, pending number → wider number) : Delivers wider count segment where
  own number notice member := (delivers.own number notice member).imp_left (included number)
  each := delivers.each

theorem nobody {number : Nat} (delivers : Delivers pending count segment)
    (settled : ¬pending number)
    (outside : number < count ∨ count + (publications segment).length ≤ number) :
    recipients number segment = [] := by
  rw [recipients, List.filterMap_eq_nil_iff]
  intro happening member
  cases happening with
  | told other notice =>
      have distinct : other ≠ number := by
        rintro rfl
        rcases delivers.own other notice member with waiting | range
        · exact settled waiting
        · omega
      exact if_neg distinct
  | _ => rfl

theorem append {first second : List Happening} (earlier : ∀ number, pending number → number < count)
    (before : Delivers pending count first)
    (after : Delivers pending (count + (publications first).length) second) :
    Delivers pending count (first ++ second) where
  own number notice member := by
    rw [publications_append, List.length_append]
    rcases List.mem_append.1 member with here | later
    · exact (before.own number notice here).imp_right fun range => by omega
    · exact (after.own number notice later).imp_right fun range => by omega
  each number publication found := by
    have settled : ¬pending (count + number) := by
      intro waiting
      have := earlier _ waiting
      omega
    rw [publications_append] at found
    rw [recipients_append]
    by_cases early : number < (publications first).length
    · rw [List.getElem?_append_left early] at found
      have none_later : recipients (count + number) second = [] :=
        after.nobody settled (.inl (by omega))
      rw [before.each number publication found, none_later, List.append_nil]
    · rw [List.getElem?_append_right (by omega)] at found
      have none_earlier : recipients (count + number) first = [] :=
        before.nobody settled (.inr (by omega))
      have told := after.each _ publication found
      have same : count + (publications first).length + (number - (publications first).length) =
          count + number := by
        omega
      rw [same] at told
      rw [none_earlier, List.nil_append, told]

end Delivers

/-- The telling of one publication, with what the listeners do in the midst of it. What each of them
does is a stretch of which the same holds, and those who are quiet publish nothing. -/
inductive Tells (quiet : Nat → Prop) (holds : Nat → List Happening → Prop) (first : Nat) :
    Nat → List Nat → List Happening → Prop where
  | done {count} : Tells quiet holds first count [] []
  | next {count serial change rest inner later} (reacts : holds count inner)
      (calm : quiet serial → publications inner = [])
      (others : Tells quiet holds first (count + (publications inner).length) rest later) :
      Tells quiet holds first count (serial :: rest)
        (.told first ⟨serial, change⟩ :: (inner ++ later))

/-- What holds of a stretch that begins after `count` publications because it holds of its parts. -/
structure Composes (quiet : Nat → Prop) (holds : Nat → List Happening → Prop) : Prop where
  nil : ∀ count, holds count []
  append : ∀ {count first second}, holds count first →
    holds (count + (publications first).length) second → holds count (first ++ second)
  note : ∀ {count happening}, happening.publication? = none →
    (∀ number notice, happening ≠ .told number notice) → holds count [happening]
  published : ∀ {count publication segment},
    Tells quiet holds count (count + 1) publication.audience segment →
      holds count (.published publication :: segment)

section Delivering

variable {quiet : Nat → Prop} {holds : Nat → List Happening → Prop}
variable (sends : ∀ {count segment}, holds count segment →
  Delivers (fun _ => False) count segment)

include sends

/-- By induction on the telling: what happens in the midst of it tells nothing of it. -/
theorem Tells.delivers {first count : Nat} {audience : List Nat} (fresh : first < count)
    (tells : Tells quiet holds first count audience segment) :
    recipients first segment = audience ∧ Delivers (· = first) count segment := by
  induction tells with
  | done => exact ⟨rfl, .nil⟩
  | @next count serial change rest inner later reacts calm others ih =>
      obtain ⟨told, delivers⟩ := ih (by omega)
      have reacts := sends reacts
      -- What a listener sets off in the midst of it comes after the publication.
      have none_inner : recipients first inner = [] := reacts.nobody id (.inl fresh)
      rw [← List.singleton_append]
      constructor
      · rw [recipients_append, recipients_append, none_inner, told]
        simp [recipients, Happening.recipient?]
      · have notes : Delivers (· = first) count [.told first ⟨serial, change⟩] := by
          apply Delivers.of_silent rfl
          simp
        have earlier : ∀ number, number = first → number < count := by omega
        exact notes.append earlier ((reacts.mono (by simp)).append earlier delivers)

theorem Tells.published {count : Nat} {publication : Publication}
    (tells : Tells quiet holds count (count + 1) publication.audience segment) :
    Delivers (fun _ => False) count (.published publication :: segment) := by
  obtain ⟨told, delivers⟩ := tells.delivers sends (Nat.lt_succ_self count)
  have published : publications (.published publication :: segment) =
      publication :: publications segment := rfl
  have heard (number : Nat) : recipients number (.published publication :: segment) =
      recipients number segment := rfl
  constructor
  · intro number notice member
    rw [published, List.length_cons]
    rcases List.mem_cons.1 member with here | inside
    · cases here
    · rcases delivers.own number notice inside with same | range <;> omega
  · intro number other found
    rw [published] at found
    rw [heard]
    cases number with
    | zero =>
        rw [List.getElem?_cons_zero, Option.some.injEq] at found
        subst found
        exact told
    | succ number =>
        rw [List.getElem?_cons_succ] at found
        have same : count + (number + 1) = count + 1 + number := by omega
        rw [same]
        exact delivers.each number other found

end Delivering

theorem delivers_composes (quiet : Nat → Prop) :
    Composes quiet (Delivers fun _ => False) where
  nil _ := .nil
  append before after := before.append (by simp) after
  note silent mute := by
    apply Delivers.of_silent
    · simp [publications, silent]
    · intro number notice member
      exact absurd (List.mem_singleton.1 member).symm (mute number notice)
  published tells := tells.published id

/-! The same, written down as it happens. -/

/-- A board together with what has happened to it. -/
structure Chronicle where
  past : List Happening
  board : Board

inductive Board.Operation where
  | transition (move : Move)
  | setIndex (step : String) (index : Int)
  | reset (step : String)
  | subscribe (listener : Listener)
  | unsubscribe (serial : Nat)

namespace Board

def perform (depth : Nat) (board : Board) : Operation → Board
  | .transition move => (board.move depth move).1
  | .setIndex step index => board.setIndex step index
  | .reset step => (board.reset depth step).1
  | .subscribe listener => board.subscribe listener
  | .unsubscribe serial => board.unsubscribe serial

def performAll (depth : Nat) (operations : List Operation) : Board :=
  operations.foldl (perform depth) empty

end Board

namespace Chronicle

def empty : Chronicle := ⟨[], .empty⟩

def note (chronicle : Chronicle) (happening : Happening) (board : Board) : Chronicle :=
  ⟨chronicle.past ++ [happening], board⟩

def subscribe (chronicle : Chronicle) (listener : Listener) : Chronicle :=
  chronicle.note (.subscribed listener.serial) (chronicle.board.subscribe listener)

def unsubscribe (chronicle : Chronicle) (serial : Nat) : Chronicle :=
  chronicle.note (.unsubscribed serial) (chronicle.board.unsubscribe serial)

def setIndex (chronicle : Chronicle) (step : String) (index : Int) : Chronicle :=
  chronicle.note (.indexed step index) (chronicle.board.setIndex step index)

def reactAll (noteAgain : Chronicle → Move → Chronicle) (chronicle : Chronicle) :
    List Reaction → Chronicle
  | [] => chronicle
  | .fail :: _ => chronicle
  | .subscribe listener :: rest => reactAll noteAgain (chronicle.subscribe listener) rest
  | .unsubscribe serial :: rest => reactAll noteAgain (chronicle.unsubscribe serial) rest
  | .move move :: rest => reactAll noteAgain (noteAgain chronicle move) rest
  | .setIndex step index :: rest => reactAll noteAgain (chronicle.setIndex step index) rest

def hear (chronicle : Chronicle) (number : Nat) (notice : Notice) : Chronicle :=
  chronicle.note (.told number notice)
    { chronicle.board with notices := chronicle.board.notices ++ [notice] }

def tell (noteAgain : Chronicle → Move → Chronicle) (number : Nat) (change : StateChange)
    (chronicle : Chronicle) (listener : Listener) : Chronicle :=
  let noted := chronicle.hear number ⟨listener.serial, change⟩
  reactAll noteAgain noted (listener.react (noted.board.told listener.serial))

def moveWith (noteAgain : Chronicle → Move → Chronicle) (chronicle : Chronicle) (move : Move) :
    Chronicle :=
  match chronicle.board.store.transition move with
  | .error _ => chronicle
  | .ok (change, store) =>
      chronicle.board.listeners.foldl
        (tell noteAgain (publications chronicle.past).length change)
        (chronicle.note (.published ⟨change, chronicle.board.listeners.map Listener.serial⟩)
          { chronicle.board with store := store })

def move : Nat → Chronicle → Move → Chronicle
  | 0, chronicle, request => moveWith (fun chronicle _ => chronicle) chronicle request
  | depth + 1, chronicle, request => moveWith (move depth) chronicle request

def perform (depth : Nat) (chronicle : Chronicle) : Board.Operation → Chronicle
  | .transition request => chronicle.move depth request
  | .setIndex step index => chronicle.setIndex step index
  | .reset step =>
      if chronicle.board.store.status step = .idle then chronicle
      else chronicle.move depth ⟨step, .idle, none, none⟩
  | .subscribe listener => chronicle.subscribe listener
  | .unsubscribe serial => chronicle.unsubscribe serial

def performAll (depth : Nat) (operations : List Board.Operation) : Chronicle :=
  operations.foldl (perform depth) empty

/-! Writing it down changes nothing. -/

section Nested

variable {noteAgain : Chronicle → Move → Chronicle} {moveAgain : Board → Move → Board}
variable (again : ∀ chronicle move, (noteAgain chronicle move).board = moveAgain chronicle.board move)

include again

theorem board_reactAll (reactions : List Reaction) (chronicle : Chronicle) :
    (chronicle.reactAll noteAgain reactions).board =
      chronicle.board.reactAll moveAgain reactions := by
  induction reactions generalizing chronicle with
  | nil => rfl
  | cons reaction rest ih =>
      cases reaction with
      | fail => rfl
      | subscribe listener => exact ih (chronicle.subscribe listener)
      | unsubscribe serial => exact ih (chronicle.unsubscribe serial)
      | move move =>
          rw [reactAll, Board.reactAll, ih, again]
      | setIndex step index => exact ih (chronicle.setIndex step index)

theorem board_foldl_tell (number : Nat) (change : StateChange) (listeners : List Listener)
    (chronicle : Chronicle) :
    (listeners.foldl (tell noteAgain number change) chronicle).board =
      listeners.foldl (Board.tell moveAgain change) chronicle.board := by
  induction listeners generalizing chronicle with
  | nil => rfl
  | cons listener rest ih =>
      have told : (chronicle.tell noteAgain number change listener).board =
          Board.tell moveAgain change chronicle.board listener :=
        board_reactAll again _ (chronicle.hear number ⟨listener.serial, change⟩)
      rw [List.foldl_cons, List.foldl_cons, ih, told]

theorem board_moveWith (chronicle : Chronicle) (move : Move) :
    (chronicle.moveWith noteAgain move).board = (chronicle.board.moveWith moveAgain move).1 := by
  unfold moveWith Board.moveWith
  cases chronicle.board.store.transition move with
  | error error => rfl
  | ok pair => exact board_foldl_tell again _ _ _ _

end Nested

theorem board_move (depth : Nat) (chronicle : Chronicle) (move : Move) :
    (chronicle.move depth move).board = (chronicle.board.move depth move).1 := by
  induction depth generalizing chronicle move with
  | zero => exact board_moveWith (fun _ _ => rfl) chronicle move
  | succ depth ih => exact board_moveWith ih chronicle move

theorem board_perform (depth : Nat) (chronicle : Chronicle) (operation : Board.Operation) :
    (chronicle.perform depth operation).board = chronicle.board.perform depth operation := by
  cases operation with
  | transition move => exact board_move depth chronicle move
  | reset step =>
      by_cases idle : chronicle.board.store.status step = .idle
      · simp [perform, Board.perform, Board.reset, idle]
      · simpa [perform, Board.perform, Board.reset, idle] using board_move depth chronicle _
  | setIndex | subscribe | unsubscribe => rfl

theorem board_performAll (depth : Nat) (operations : List Board.Operation) :
    (performAll depth operations).board = Board.performAll depth operations :=
  (List.foldl_hom board fun chronicle operation =>
    (board_perform depth chronicle operation).symm).symm

theorem move_refused {chronicle : Chronicle} {move : Move} {error : GuideError}
    (refused : chronicle.board.store.transition move = .error error) (depth : Nat) :
    chronicle.move depth move = chronicle ∧
      chronicle.board.move depth move = (chronicle.board, .error error) := by
  cases depth with
  | zero | succ => simp [Chronicle.move, moveWith, Board.move, Board.moveWith, refused]

def Sound (chronicle : Chronicle) : Prop :=
  History chronicle.past chronicle.board

end Chronicle

def Reaction.Still : Reaction → Prop
  | .move _ => False
  | _ => True

def Listener.Still (listener : Listener) : Prop :=
  ∀ told, ∀ reaction ∈ listener.react told, reaction.Still

/-- A listener brings itself, and whatever those bring that it subscribes. -/
inductive Listener.Brings : Listener → Listener → Prop where
  | itself {listener} : Listener.Brings listener listener
  | through {listener inner other told} (subscribes : .subscribe inner ∈ listener.react told)
      (brings : Listener.Brings inner other) : Listener.Brings listener other

/-- The quiet ones among those that a listener brings move no step. -/
def Listener.Calm (quiet : Nat → Prop) (listener : Listener) : Prop :=
  ∀ other, listener.Brings other → quiet other.serial → other.Still

theorem Listener.Calm.still {quiet : Nat → Prop} {listener : Listener}
    (calm : listener.Calm quiet) : quiet listener.serial → listener.Still :=
  calm listener .itself

theorem Listener.Calm.brought {quiet : Nat → Prop} {listener inner : Listener}
    {told : List StateChange} (calm : listener.Calm quiet)
    (subscribes : .subscribe inner ∈ listener.react told) : inner.Calm quiet :=
  fun other brings => calm other (.through subscribes brings)

def Calm (quiet : Nat → Prop) (listeners : List Listener) : Prop :=
  ∀ listener ∈ listeners, listener.Calm quiet

/-! What is written down is a history, put together from stretches. -/

/-- Whatever it does to a chronicle that is a history, carries the history on by a stretch of which
that holds, as long as nobody moves a step who is quiet. -/
def Unfolds (quiet : Nat → Prop) (holds : Nat → List Happening → Prop)
    (act : Chronicle → Chronicle) : Prop :=
  ∀ ⦃chronicle⦄, chronicle.Sound → Calm quiet chronicle.board.listeners →
    (act chronicle).Sound ∧ Calm quiet (act chronicle).board.listeners ∧
      ∃ segment, (act chronicle).past = chronicle.past ++ segment ∧
        holds (publications chronicle.past).length segment

section Unfolding

variable {quiet : Nat → Prop} {holds : Nat → List Happening → Prop}
variable (composes : Composes quiet holds)

include composes

theorem unfolds_id : Unfolds quiet holds fun chronicle => chronicle :=
  fun _ sound calm => ⟨sound, calm, [], (List.append_nil _).symm, composes.nil _⟩

theorem Unfolds.comp {first second : Chronicle → Chronicle} (before : Unfolds quiet holds first)
    (after : Unfolds quiet holds second) :
    Unfolds quiet holds fun chronicle => second (first chronicle) := by
  intro chronicle sound calm
  obtain ⟨middle, still, opening, past, told⟩ := before sound calm
  obtain ⟨ending, calm, closing, later, others⟩ := after middle still
  rw [past] at later others
  rw [publications_append, List.length_append] at others
  exact ⟨ending, calm, opening ++ closing, by rw [later, List.append_assoc],
    composes.append told others⟩

theorem unfolds_note {happening : Happening} {act : Board → Board}
    (silent : happening.publication? = none)
    (mute : ∀ number notice, happening ≠ .told number notice)
    (happens : ∀ ⦃past board⦄, History past board → History (past ++ [happening]) (act board))
    (calms : ∀ ⦃board : Board⦄, Calm quiet board.listeners → Calm quiet (act board).listeners) :
    Unfolds quiet holds fun chronicle => chronicle.note happening (act chronicle.board) :=
  fun _ sound calm => ⟨happens sound, calms calm, [happening], rfl, composes.note silent mute⟩

theorem unfolds_subscribe {listener : Listener} (own : listener.Calm quiet) :
    Unfolds quiet holds fun chronicle => chronicle.subscribe listener := by
  apply unfolds_note composes rfl (by simp) fun _ _ history => history.subscribed listener
  intro board calm
  exact List.forall_mem_append.2 ⟨calm, List.forall_mem_singleton.2 own⟩

theorem unfolds_unsubscribe (serial : Nat) :
    Unfolds quiet holds fun chronicle => chronicle.unsubscribe serial :=
  unfolds_note composes rfl (by simp) (fun _ _ history => history.unsubscribed serial)
    fun _ calm listener member => calm listener (List.eraseP_subset member)

theorem unfolds_setIndex (step : String) (index : Int) :
    Unfolds quiet holds fun chronicle => chronicle.setIndex step index :=
  unfolds_note composes rfl (by simp) (fun _ _ history => history.indexed step index)
    fun _ calm => calm

section Telling

variable {noteAgain : Chronicle → Move → Chronicle}
variable (again : ∀ move, Unfolds quiet holds fun chronicle => noteAgain chronicle move)

include again

/-- By induction on the reactions of a listener. -/
theorem unfolds_reactAll {reactions : List Reaction}
    (own : ∀ inner, .subscribe inner ∈ reactions → inner.Calm quiet) :
    Unfolds quiet holds fun chronicle => chronicle.reactAll noteAgain reactions := by
  induction reactions with
  | nil => exact unfolds_id composes
  | cons reaction rest ih =>
      have ih := ih fun inner member => own inner (List.mem_cons_of_mem _ member)
      cases reaction with
      | fail => exact unfolds_id composes
      | subscribe listener =>
          exact (unfolds_subscribe composes (own listener List.mem_cons_self)).comp composes ih
      | unsubscribe serial => exact (unfolds_unsubscribe composes serial).comp composes ih
      | move move => exact (again move).comp composes ih
      | setIndex step index => exact (unfolds_setIndex composes step index).comp composes ih

omit composes again in
theorem publications_reactAll {reactions : List Reaction}
    (still : ∀ reaction ∈ reactions, reaction.Still) (chronicle : Chronicle) :
    publications (chronicle.reactAll noteAgain reactions).past = publications chronicle.past := by
  induction reactions generalizing chronicle with
  | nil => rfl
  | cons reaction rest ih =>
      rw [List.forall_mem_cons] at still
      cases reaction with
      | fail => rfl
      | subscribe | unsubscribe | setIndex =>
          rw [Chronicle.reactAll, ih still.2]
          exact publications_concat _ rfl
      | move move => exact still.1.elim

theorem unfolds_tell {number : Nat} {publication : Publication} {listener : Listener}
    (own : listener.Calm quiet) {chronicle : Chronicle}
    (sound : chronicle.Sound) (calm : Calm quiet chronicle.board.listeners)
    (known : (publications chronicle.past)[number]? = some publication) :
    let after := chronicle.tell noteAgain number publication.change listener
    after.Sound ∧ Calm quiet after.board.listeners ∧ ∃ inner,
      after.past = chronicle.past ++ .told number ⟨listener.serial, publication.change⟩ :: inner ∧
        holds (publications chronicle.past).length inner ∧
        (quiet listener.serial → publications inner = []) := by
  have heard : (chronicle.hear number ⟨listener.serial, publication.change⟩).Sound :=
    History.told sound known
  have count : publications (chronicle.hear number ⟨listener.serial, publication.change⟩).past =
      publications chronicle.past := publications_concat _ rfl
  obtain ⟨reacted, still, inner, past, reacts⟩ :=
    unfolds_reactAll composes again (fun _ subscribes => own.brought subscribes) heard calm
  rw [count] at reacts
  refine ⟨reacted, still, inner, ?_, reacts, ?_⟩
  · rw [← List.singleton_append, ← List.append_assoc]
    exact past
  · intro hushed
    have same := congrArg publications past
    dsimp only at same
    rw [publications_reactAll (own.still hushed _), publications_append] at same
    exact List.self_eq_append_right.1 same

/-- By induction on the listeners who are told. -/
theorem tells_of_foldl {number : Nat} {publication : Publication} {listeners : List Listener}
    (own : Calm quiet listeners) {chronicle : Chronicle} (sound : chronicle.Sound)
    (calm : Calm quiet chronicle.board.listeners)
    (known : (publications chronicle.past)[number]? = some publication) :
    let after := listeners.foldl (Chronicle.tell noteAgain number publication.change) chronicle
    after.Sound ∧ Calm quiet after.board.listeners ∧ ∃ segment,
      after.past = chronicle.past ++ segment ∧
        Tells quiet holds number (publications chronicle.past).length
          (listeners.map Listener.serial) segment := by
  induction listeners generalizing chronicle with
  | nil => exact ⟨sound, calm, [], (List.append_nil _).symm, .done⟩
  | cons listener rest ih =>
      obtain ⟨first, others⟩ := List.forall_mem_cons.1 own
      obtain ⟨told, still, inner, past, reacts, hushed⟩ :=
        unfolds_tell composes again first sound calm known
      have count : publications (chronicle.tell noteAgain number publication.change listener).past =
          publications chronicle.past ++ publications inner := by
        rw [past, publications_append]
        rfl
      -- The publication keeps its number, whatever is published in the midst of its telling.
      have known_still : (publications (chronicle.tell noteAgain number publication.change
          listener).past)[number]? = some publication := by
        rw [count, List.getElem?_append_left (List.getElem?_eq_some_iff.1 known).1, known]
      obtain ⟨ended, calm, later, ending, others⟩ := ih others told still known_still
      rw [count, List.length_append] at others
      refine ⟨ended, calm, .told number ⟨listener.serial, publication.change⟩ :: (inner ++ later),
        ?_, .next reacts hushed others⟩
      rw [List.foldl_cons, ending, past]
      simp

theorem published_moveWith {chronicle : Chronicle} {move : Move} {change : StateChange}
    {store : Store} (sound : chronicle.Sound) (calm : Calm quiet chronicle.board.listeners)
    (accepted : chronicle.board.store.transition move = .ok (change, store)) :
    let publication := ⟨change, chronicle.board.listeners.map Listener.serial⟩
    let after := chronicle.moveWith noteAgain move
    after.Sound ∧ Calm quiet after.board.listeners ∧ ∃ segment,
      after.past = chronicle.past ++ .published publication :: segment ∧
        holds (publications chronicle.past).length (.published publication :: segment) := by
  intro publication after
  have same : after = chronicle.board.listeners.foldl
      (Chronicle.tell noteAgain (publications chronicle.past).length change)
      (chronicle.note (.published publication) { chronicle.board with store := store }) := by
    simp [after, publication, Chronicle.moveWith, accepted]
  have published : (chronicle.note (.published publication)
      { chronicle.board with store := store }).Sound := History.published sound accepted
  have one_more : publications (chronicle.past ++ [.published publication]) =
      publications chronicle.past ++ [publication] := by
    simp [publications, Happening.publication?]
  have known : (publications (chronicle.past ++ [.published publication]))[
      (publications chronicle.past).length]? = some publication := by
    rw [one_more, List.getElem?_concat_length]
  obtain ⟨ended, still, segment, past, tells⟩ :=
    tells_of_foldl composes again calm published calm known
  rw [← same] at ended still past
  dsimp only [Chronicle.note] at tells past
  rw [one_more, List.length_append] at tells
  rw [List.append_assoc] at past
  exact ⟨ended, still, segment, past, composes.published tells⟩

theorem unfolds_moveWith (move : Move) :
    Unfolds quiet holds fun chronicle => chronicle.moveWith noteAgain move := by
  intro chronicle sound calm
  cases accepted : chronicle.board.store.transition move with
  | error error =>
      have same : chronicle.moveWith noteAgain move = chronicle := by
        simp [Chronicle.moveWith, accepted]
      dsimp only
      rw [same]
      exact unfolds_id composes sound calm
  | ok pair =>
      obtain ⟨ended, still, segment, past, told⟩ :=
        published_moveWith composes again sound calm accepted
      exact ⟨ended, still, _, past, told⟩

end Telling

theorem unfolds_move (depth : Nat) (move : Move) :
    Unfolds quiet holds fun chronicle => chronicle.move depth move := by
  induction depth generalizing move with
  | zero => exact unfolds_moveWith composes (fun _ => unfolds_id composes) move
  | succ depth ih => exact unfolds_moveWith composes ih move

theorem unfolds_perform (depth : Nat) {operation : Board.Operation}
    (own : ∀ listener, operation = .subscribe listener → listener.Calm quiet) :
    Unfolds quiet holds fun chronicle => chronicle.perform depth operation := by
  cases operation with
  | transition move => exact unfolds_move composes depth move
  | setIndex step index => exact unfolds_setIndex composes step index
  | reset step =>
      intro chronicle sound calm
      by_cases idle : chronicle.board.store.status step = .idle
      · simpa [Chronicle.perform, idle] using unfolds_id composes sound calm
      · simpa [Chronicle.perform, idle] using unfolds_move composes depth _ sound calm
  | subscribe listener => exact unfolds_subscribe composes (own listener rfl)
  | unsubscribe serial => exact unfolds_unsubscribe composes serial

theorem unfolds_foldl (depth : Nat) {operations : List Board.Operation}
    (own : ∀ listener, .subscribe listener ∈ operations → listener.Calm quiet) :
    Unfolds quiet holds fun chronicle => operations.foldl (Chronicle.perform depth) chronicle := by
  induction operations with
  | nil => exact unfolds_id composes
  | cons operation rest ih =>
      apply (unfolds_perform composes depth ?here).comp composes (ih ?later)
      case here =>
        rintro listener rfl
        exact own listener List.mem_cons_self
      case later => exact fun listener member => own listener (List.mem_cons_of_mem _ member)

end Unfolding

/-! Everything is delivered. -/

theorem Listener.calm_of_none (listener : Listener) : listener.Calm fun _ => False :=
  fun _ _ => False.elim

theorem calm_of_none (listeners : List Listener) : Calm (fun _ => False) listeners :=
  fun listener _ => listener.calm_of_none

theorem published_move {chronicle : Chronicle} {move : Move} {change : StateChange} {store : Store}
    (sound : chronicle.Sound)
    (accepted : chronicle.board.store.transition move = .ok (change, store)) (depth : Nat) :
    ∃ segment, (chronicle.move depth move).past = chronicle.past ++
      .published ⟨change, chronicle.board.listeners.map Listener.serial⟩ :: segment := by
  have calm := calm_of_none chronicle.board.listeners
  have composes := delivers_composes fun _ => False
  cases depth with
  | zero =>
      obtain ⟨-, -, segment, past, -⟩ :=
        published_moveWith composes (fun _ => unfolds_id composes) sound calm accepted
      exact ⟨segment, past⟩
  | succ depth =>
      obtain ⟨-, -, segment, past, -⟩ :=
        published_moveWith composes (unfolds_move composes depth) sound calm accepted
      exact ⟨segment, past⟩

theorem chronicled_foldl (depth : Nat) (operations : List Board.Operation)
    {chronicle : Chronicle} (sound : chronicle.Sound) :
    let after := operations.foldl (Chronicle.perform depth) chronicle
    after.Sound ∧ ∃ segment, after.past = chronicle.past ++ segment ∧
      Delivers (fun _ => False) (publications chronicle.past).length segment := by
  obtain ⟨ended, -, segment⟩ := unfolds_foldl (delivers_composes _) depth
    (fun listener _ => listener.calm_of_none) sound (calm_of_none _)
  exact ⟨ended, segment⟩

end Walkthrough
