import Walkthrough.Rehearsal.Desk
import Walkthrough.Proofs.Chronicle
/-!
A log that is told of everything. It subscribes before anything happens and does nothing but write
a line for each change it is told of, as long as the index of the change can be written. As long as
no listener moves steps in the midst of a telling, it is told of the changes in their order, and if
all of them can be written, its lines add up to what the store holds.
Main statement: `performAll_chronicled`, on the store, the listeners and the log at once.
-/

namespace Walkthrough

namespace EventLog

def recordAll (log : EventLog) (told : List StateChange) : EventLog :=
  told.foldl (fun log change => (log.record change).1) log

/-- The changes that can be written, each with its number among all of them. -/
def numbered (run : String) (first : Nat) (told : List StateChange) : List LogLine :=
  ((told.zipIdx first).filter fun entry => entry.1.isWritable).map fun entry =>
    ⟨run, entry.2, entry.1⟩

theorem recordAll_lines (log : EventLog) (told : List StateChange) (unclosed : log.closed = false) :
    (log.recordAll told).lines = log.lines ++ numbered log.run (log.number + 1) told := by
  induction told generalizing log with
  | nil => simp [recordAll, numbered]
  | cons change rest ih =>
      have step : log.recordAll (change :: rest) = (log.record change).1.recordAll rest := rfl
      rw [step]
      by_cases writable : change.isWritable = true
      · rw [ih _ (by simp [record, writable, unclosed])]
        simp [record, writable, unclosed, numbered]
      · rw [ih _ (by simp [record, writable, unclosed])]
        simp [record, writable, numbered]

theorem recordAll_start (run : String) (told : List StateChange) :
    ((start run).recordAll told).lines = numbered run 1 told := by
  rw [recordAll_lines _ _ rfl]
  rfl

theorem numbered_of_writable {told : List StateChange}
    (writable : ∀ change ∈ told, change.isWritable = true) (run : String) (first : Nat) :
    (numbered run first told).map LogLine.change = told ∧
      (numbered run first told).map LogLine.number = List.range' first told.length := by
  have all : (told.zipIdx first).filter (fun entry => entry.1.isWritable) = told.zipIdx first := by
    rw [List.filter_eq_self]
    intro entry member
    exact writable _ (List.fst_mem_of_mem_zipIdx member)
  simp [numbered, all, Function.comp_def]

end EventLog

/-- Lines that are numbered from one on, and lead every step to where the store has it. -/
structure EventLog.Accounts (log : EventLog) (store : Store) : Prop where
  numbers : log.lines.map LogLine.number = List.range' 1 log.lines.length
  follows : ∀ key, Follows .idle (changesOf key (log.lines.map LogLine.change)) (store.status key)

theorem EventLog.accounts_of_follows {told : List StateChange} {store : Store}
    (follows : ∀ key, Follows .idle (changesOf key told) (store.status key))
    (writable : ∀ change ∈ told, change.isWritable = true) (run : String) :
    ((start run).recordAll told).Accounts store := by
  obtain ⟨same, numbers⟩ := numbered_of_writable writable run 1
  rw [← recordAll_start] at same numbers
  have length := congrArg List.length same
  rw [List.length_map] at length
  constructor
  · rw [numbers, length]
  · intro key
    rw [same]
    exact follows key

def Reaction.Aloof (serial : Nat) : Reaction → Prop
  | .subscribe listener => listener.serial ≠ serial
  | .unsubscribe other => other ≠ serial
  | .move _ | .setIndex .. => False
  | .fail => True

theorem Listener.Brings.eq {listener other : Listener} (brings : listener.Brings other)
    (alone : ∀ told inner, .subscribe inner ∉ listener.react told) : other = listener := by
  cases brings with
  | itself => rfl
  | through subscribes => exact absurd subscribes (alone _ _)

/-- Neither a listener nor any that it brings calls back. -/
def Listener.Aloof (serial : Nat) (listener : Listener) : Prop :=
  ∀ other, listener.Brings other → ∀ told, ∀ reaction ∈ other.react told, reaction.Aloof serial

theorem Listener.Aloof.brought {serial : Nat} {listener inner : Listener} {told : List StateChange}
    (aloof : listener.Aloof serial) (subscribes : .subscribe inner ∈ listener.react told) :
    inner.Aloof serial :=
  fun other brings => aloof other (.through subscribes brings)

/-- Operations that leave a subscription alone and add no listener that calls back. -/
def Board.Operation.Aloof (serial : Nat) : Board.Operation → Prop
  | .subscribe listener => listener.serial ≠ serial ∧ listener.Aloof serial
  | .unsubscribe other => other ≠ serial
  | _ => True

namespace Board

variable {serial : Nat} {before after : Board}

theorem told_reverse (board : Board) (serial : Nat) :
    (board.told serial).reverse =
      (board.notices.filter fun notice => notice.serial == serial).map Notice.change := by
  simp [told]

/-- Other subscriptions may have come and gone, but that one is still there. -/
structure Spared (serial : Nat) (before after : Board) : Prop where
  store_eq : after.store = before.store
  kept : after.listeners.filter (·.serial == serial) = before.listeners.filter (·.serial == serial)
  aloof : (∀ listener ∈ before.listeners, listener.Aloof serial) →
    ∀ listener ∈ after.listeners, listener.Aloof serial

theorem Spared.refl (serial : Nat) (board : Board) : Spared serial board board :=
  ⟨rfl, rfl, id⟩

theorem Spared.trans {middle : Board} (first : Spared serial before middle)
    (second : Spared serial middle after) : Spared serial before after :=
  ⟨second.store_eq.trans first.store_eq, second.kept.trans first.kept,
    fun aloof => second.aloof (first.aloof aloof)⟩

theorem spared_subscribe {listener : Listener} (distinct : listener.serial ≠ serial)
    (aloof : listener.Aloof serial) (board : Board) :
    Spared serial board (board.subscribe listener) where
  store_eq := rfl
  kept := by simp [subscribe, List.filter_append, distinct]
  aloof others := List.forall_mem_append.2 ⟨others, List.forall_mem_singleton.2 aloof⟩

theorem filter_eraseP_other {other : Nat} (distinct : other ≠ serial) (listeners : List Listener) :
    (listeners.eraseP fun listener => listener.serial == other).filter (·.serial == serial) =
      listeners.filter (·.serial == serial) := by
  induction listeners with
  | nil => rfl
  | cons listener rest ih =>
      by_cases erased : listener.serial = other
      · have unlike : listener.serial ≠ serial := by
          rw [erased]
          exact distinct
        simp [erased, distinct]
      · simp [erased, List.filter_cons, ih]

theorem spared_unsubscribe {other : Nat} (distinct : other ≠ serial) (board : Board) :
    Spared serial board (board.unsubscribe other) :=
  ⟨rfl, filter_eraseP_other distinct _,
    fun aloof listener member => aloof listener (List.eraseP_subset member)⟩

theorem spared_reactAll (moveAgain : Board → Move → Board) {reactions : List Reaction}
    (aloof : ∀ reaction ∈ reactions, reaction.Aloof serial)
    (brought : ∀ inner, .subscribe inner ∈ reactions → inner.Aloof serial) (board : Board) :
    Spared serial board (board.reactAll moveAgain reactions) ∧
      (board.reactAll moveAgain reactions).notices = board.notices := by
  induction reactions generalizing board with
  | nil => exact ⟨.refl _ _, rfl⟩
  | cons reaction rest ih =>
      rw [List.forall_mem_cons] at aloof
      have ih := ih aloof.2 fun inner member => brought inner (List.mem_cons_of_mem _ member)
      cases reaction with
      | fail => exact ⟨.refl _ _, rfl⟩
      | subscribe listener =>
          obtain ⟨spared, notices⟩ := ih (board.subscribe listener)
          have begins := spared_subscribe aloof.1 (brought listener List.mem_cons_self) board
          exact ⟨begins.trans spared, notices⟩
      | unsubscribe other =>
          obtain ⟨spared, notices⟩ := ih (board.unsubscribe other)
          exact ⟨(spared_unsubscribe aloof.1 board).trans spared, notices⟩
      | move | setIndex => exact aloof.1.elim

theorem spared_tell (moveAgain : Board → Move → Board) {listener : Listener}
    (aloof : listener.Aloof serial) (change : StateChange) (board : Board) :
    Spared serial board (tell moveAgain change board listener) ∧
      (tell moveAgain change board listener).notices =
        board.notices ++ [⟨listener.serial, change⟩] := by
  obtain ⟨⟨store_eq, kept, aloof⟩, notices⟩ := spared_reactAll moveAgain
    (aloof listener .itself _) (fun _ subscribes => aloof.brought subscribes)
    { board with notices := board.notices ++ [⟨listener.serial, change⟩] }
  exact ⟨⟨store_eq, kept, aloof⟩, notices⟩

theorem spared_tellAll (moveAgain : Board → Move → Board) {listeners : List Listener}
    (aloof : ∀ listener ∈ listeners, listener.Aloof serial) (change : StateChange)
    (board : Board) :
    Spared serial board (listeners.foldl (tell moveAgain change) board) ∧
      (listeners.foldl (tell moveAgain change) board).notices =
        board.notices ++ listeners.map fun listener => ⟨listener.serial, change⟩ := by
  induction listeners generalizing board with
  | nil => exact ⟨.refl _ _, (List.append_nil _).symm⟩
  | cons listener rest ih =>
      rw [List.forall_mem_cons] at aloof
      obtain ⟨told, noted⟩ := spared_tell moveAgain aloof.1 change board
      obtain ⟨others, notices⟩ := ih aloof.2 (tell moveAgain change board listener)
      refine ⟨told.trans others, ?_⟩
      rw [List.foldl_cons, notices, noted]
      simp

/-- One subscription that is told of everything: it is there once, nobody disturbs it, and what it
was told follows the table up to where the store stands. -/
structure Logged (serial : Nat) (board : Board) : Prop where
  once : (board.listeners.filter (·.serial == serial)).length = 1
  aloof : ∀ listener ∈ board.listeners, listener.Aloof serial
  follows : ∀ key, Follows .idle (changesOf key (board.told serial).reverse)
    (board.store.status key)

theorem Logged.spare (logged : Logged serial before) (spared : Spared serial before after)
    (same : after.notices = before.notices) : Logged serial after where
  once := by rw [spared.kept, logged.once]
  aloof := spared.aloof logged.aloof
  follows key := by
    rw [spared.store_eq, told_reverse, same, ← told_reverse]
    exact logged.follows key

theorem filter_notices (listeners : List Listener) (change : StateChange) :
    (((listeners.map fun listener => (⟨listener.serial, change⟩ : Notice)).filter
      fun notice => notice.serial == serial).map Notice.change) =
        List.replicate (listeners.filter (·.serial == serial)).length change := by
  induction listeners with
  | nil => rfl
  | cons listener rest ih =>
      by_cases own : listener.serial = serial
      · simp [own, ih, List.replicate_succ]
      · simp [own, ih]

theorem Logged.moveWith (logged : Logged serial board) (moveAgain : Board → Move → Board)
    (move : Move) :
    Logged serial (board.moveWith moveAgain move).1 := by
  cases accepted : board.store.transition move with
  | error error => simpa [Board.moveWith, accepted] using logged
  | ok pair =>
      obtain ⟨change, store⟩ := pair
      have same : (board.moveWith moveAgain move).1 =
          board.listeners.foldl (tell moveAgain change) { board with store := store } := by
        simp [Board.moveWith, accepted]
      obtain ⟨spared, notices⟩ := spared_tellAll moveAgain logged.aloof change
        { board with store := store }
      rw [same]
      constructor
      · rw [spared.kept]
        exact logged.once
      · exact spared.aloof logged.aloof
      · intro key
        -- It is told of this change once, because it is subscribed once.
        rw [spared.store_eq, told_reverse, notices, List.filter_append, List.map_append,
          filter_notices, logged.once, List.replicate_one, ← told_reverse]
        exact Store.follows_transition (logged.follows key) accepted

theorem Logged.move (logged : Logged serial board) (depth : Nat) (move : Move) :
    Logged serial (board.move depth move).1 := by
  cases depth with
  | zero => exact logged.moveWith _ move
  | succ depth => exact logged.moveWith _ move

theorem Logged.perform (logged : Logged serial board) (depth : Nat) {operation : Operation}
    (aloof : operation.Aloof serial) : Logged serial (board.perform depth operation) := by
  cases operation with
  | transition move => exact logged.move depth move
  | setIndex step index =>
      refine ⟨logged.once, logged.aloof, fun key => ?_⟩
      change Follows _ _ ((board.store.setIndex step index).status key)
      rw [Store.status_setIndex]
      exact logged.follows key
  | reset step =>
      by_cases idle : board.store.status step = .idle
      · simpa [Board.perform, reset, idle] using logged
      · simpa [Board.perform, reset, idle] using logged.move depth ⟨step, .idle, none, none⟩
  | subscribe listener => exact logged.spare (spared_subscribe aloof.1 aloof.2 board) rfl
  | unsubscribe other => exact logged.spare (spared_unsubscribe aloof board) rfl

theorem Logged.performs (logged : Logged serial board) (depth : Nat)
    {operations : List Operation} (aloof : ∀ operation ∈ operations, operation.Aloof serial) :
    Logged serial (operations.foldl (Board.perform depth) board) := by
  induction operations generalizing board with
  | nil => exact logged
  | cons operation rest ih =>
      rw [List.forall_mem_cons] at aloof
      exact ih (logged.perform depth aloof.1) aloof.2

theorem logged_subscribe (serial : Nat) :
    Logged serial (empty.subscribe ⟨serial, fun _ => []⟩) where
  once := by simp [empty, subscribe]
  aloof listener member := by
    obtain rfl : listener = ⟨serial, fun _ => []⟩ := by simpa [empty, subscribe] using member
    intro other brings told reaction reacts
    obtain rfl := brings.eq (by simp)
    cases reacts
  follows _ := .done

end Board

/-- Whatever is done to a fresh board, whatever the listeners do when they are told, and however
deep their moves nest: the store follows the table at every moment, a refused move changes and tells
nothing, and an accepted one is told once to each of those who were subscribed at that moment. Where
no listener calls back into the store, a log that is there from the start writes down the changes
that can be written, each with its number among all; and if that is all of them, its lines add up to
the store. -/
theorem performAll_chronicled (depth : Nat) (operations : List Board.Operation) :
    let chronicle := Chronicle.performAll depth operations
    chronicle.board = Board.performAll depth operations ∧
    Lawful chronicle.past chronicle.board ∧
    (∀ earlier later, chronicle.past = earlier ++ later → ∃ before, Lawful earlier before) ∧
    (∀ number publication, (publications chronicle.past)[number]? = some publication →
      recipients number chronicle.past = publication.audience) ∧
    (∀ (inner : Chronicle) level move, inner.Sound →
      match inner.board.store.transition move with
      | .ok (change, _) => ∃ segment, (inner.move level move).past = inner.past ++
          .published ⟨change, inner.board.listeners.map Listener.serial⟩ :: segment
      | .error error => inner.move level move = inner ∧
          inner.board.move level move = (inner.board, .error error)) ∧
    ∀ run serial rest, operations = .subscribe ⟨serial, fun _ => []⟩ :: rest →
      (∀ operation ∈ rest, operation.Aloof serial) →
      let told := (chronicle.board.told serial).reverse
      let log := (EventLog.start run).recordAll told
      log.lines = EventLog.numbered run 1 told ∧
      ((∀ change ∈ told, change.isWritable = true) → log.Accounts chronicle.board.store) := by
  intro chronicle
  have same : chronicle.board = Board.performAll depth operations :=
    Chronicle.board_performAll depth operations
  have empty_sound : Chronicle.empty.Sound := .empty
  obtain ⟨sound, segment, past, delivers⟩ := chronicled_foldl depth operations empty_sound
  obtain rfl : chronicle.past = segment := past
  refine ⟨same, sound.lawful, ?prefixes, ?delivered, ?moves, ?logged⟩
  case prefixes =>
    intro earlier later split
    have history : History (earlier ++ later) chronicle.board := by
      rw [← split]
      exact sound
    obtain ⟨before, earlier_sound⟩ := history.of_append
    exact ⟨before, earlier_sound.lawful⟩
  case delivered =>
    intro number publication found
    have told := delivers.each number publication found
    have first : (publications Chronicle.empty.past).length + number = number := Nat.zero_add number
    rwa [first] at told
  case moves =>
    intro inner level move inner_sound
    cases answer : inner.board.store.transition move with
    | error error => exact Chronicle.move_refused answer level
    | ok pair => exact published_move inner_sound answer level
  case logged =>
    rintro run serial rest rfl aloof told log
    have logged : Board.Logged serial chronicle.board := by
      rw [same]
      exact (Board.logged_subscribe serial).performs depth aloof
    refine ⟨EventLog.recordAll_start run told, fun writable => ?_⟩
    exact EventLog.accounts_of_follows logged.follows writable run

/-- The first listener subscribes another one, moves a step at once, and ends the second one's
subscription. -/
def lively : List Board.Operation :=
  [.subscribe ⟨0, fun told =>
     if told.length = 1 then
       [.subscribe ⟨2, fun _ => []⟩, .move ⟨"b", .running, none, none⟩, .unsubscribe 1]
     else []⟩,
   .subscribe ⟨1, fun _ => [.fail]⟩,
   .transition ⟨"a", .running, none, none⟩]

/-- A log, and a listener that fails whenever it is told of something. -/
def noted : List Board.Operation :=
  [.subscribe ⟨0, fun _ => []⟩, .subscribe ⟨1, fun _ => [.fail]⟩,
   .transition ⟨"a", .running, none, none⟩, .transition ⟨"a", .idle, some "late", none⟩,
   .transition ⟨"a", .completed, none, some 2⟩]

theorem isWritable_of_small {change : StateChange}
    (small : ∀ index, change.index = some index → index.natAbs ≤ Decimal.digitLimit) :
    change.isWritable = true := by
  unfold StateChange.isWritable
  cases given : change.index with
  | none => rfl
  | some index => simp [Decimal.isOverlong_of_small (small index given)]

theorem performAll_lively_noted :
    let told := ((Board.performAll 0 noted).told 0).reverse
    recipients 0 (Chronicle.performAll 1 lively).past = [0, 1] ∧
      recipients 1 (Chronicle.performAll 1 lively).past = [0, 1, 2] ∧
      (Board.performAll 1 lively).listeners.map Listener.serial = [0, 2] ∧
      (Board.performAll 0 noted).store = [("a", ⟨.completed, some 2, none⟩)] ∧
      (∀ change ∈ told, change.isWritable = true) ∧
      ((EventLog.start "run").recordAll told).Accounts [("a", ⟨.completed, some 2, none⟩)] := by
  intro told
  obtain ⟨-, -, -, delivered, -, -⟩ := performAll_chronicled 1 lively
  obtain ⟨same, -, -, -, -, logged⟩ := performAll_chronicled 0 noted
  have store : (Board.performAll 0 noted).store = [("a", ⟨.completed, some 2, none⟩)] := by decide
  have failing : Listener.Aloof 0 ⟨1, fun _ => [.fail]⟩ := by
    intro other brings told reaction reacts
    obtain rfl := brings.eq (by simp)
    rw [List.mem_singleton.1 reacts]
    trivial
  have aloof : ∀ operation ∈ noted.tail, operation.Aloof 0 := by
    simp [noted, Board.Operation.Aloof, failing]
  have writable : ∀ change ∈ told, change.isWritable = true := by
    have small : ∀ change ∈ told, ∀ index, change.index = some index → index.natAbs ≤ 2 := by
      decide
    intro change member
    exact isWritable_of_small fun index given =>
      Nat.le_trans (small change member index given) (by decide)
  obtain ⟨-, accounts⟩ := logged "run" 0 noted.tail rfl aloof
  rw [same, store] at accounts
  exact ⟨delivered 0 _ rfl, delivered 1 _ rfl, rfl, store, writable, accounts writable⟩

/-- The least index that cannot be written. -/
def unwritable : Int :=
  Int.ofNat (Nat.pow 10 Decimal.digitLimit)

theorem isOverlong_unwritable : Decimal.isOverlong unwritable = true := by
  unfold Decimal.isOverlong unwritable
  -- the power is too large to be written out
  generalize Nat.pow 10 Decimal.digitLimit = limit
  exact decide_eq_true (Nat.le_refl limit)

/-- Two changes of a step, of which the first one has an index that cannot be written. -/
def stranded : List Board.Operation :=
  [.subscribe ⟨0, fun _ => []⟩,
   .transition ⟨"a", .running, none, some unwritable⟩,
   .transition ⟨"a", .completed, none, some 2⟩]

theorem stranded_unaccounted (run : String) :
    let log := (EventLog.start run).recordAll ((Board.performAll 0 stranded).told 0).reverse
    log.lines = [⟨run, 2, ⟨"a", .running, .completed, none, some 2⟩⟩] ∧
      ¬log.Accounts (Board.performAll 0 stranded).store := by
  intro log
  have told : ((Board.performAll 0 stranded).told 0).reverse =
      [⟨"a", .idle, .running, none, some unwritable⟩,
        ⟨"a", .running, .completed, none, some 2⟩] := rfl
  have written : (⟨"a", .running, .completed, none, some 2⟩ : StateChange).isWritable = true :=
    isWritable_of_small (by decide)
  have unwritten : StateChange.isWritable
      ⟨"a", .idle, .running, none, some unwritable⟩ = false := by
    rw [StateChange.isWritable, Option.any_some, isOverlong_unwritable, Bool.not_true]
  have lines : log.lines = [⟨run, 2, ⟨"a", .running, .completed, none, some 2⟩⟩] := by
    rw [EventLog.recordAll_start, told]
    simp [EventLog.numbered, written, unwritten]
  refine ⟨lines, fun accounts => ?_⟩
  have numbers := accounts.numbers
  rw [lines] at numbers
  cases numbers

/-- Two logs that are opened to one file. -/
def twofold : Rehearsal.Desk :=
  let operations : List Rehearsal.Desk.Operation :=
    [.attachLog "run", .attachLog "run", .transition "a" (.text "running") none none]
  operations.foldl (fun desk operation => (desk.step operation).1) .empty

/-- A log that is there from the start has a gap in its numbers and does not lead to the store; and
a file holds every line twice. -/
theorem stranded_and_twofold_unaccounted :
    let board := Board.performAll 0 stranded
    let log := (EventLog.start "run").recordAll (board.told 0).reverse
    let line : LogLine := ⟨"run", 1, ⟨"a", .idle, .running, none, none⟩⟩
    ((∀ operation ∈ stranded.tail, operation.Aloof 0) ∧
      board.store = [("a", ⟨.completed, some 2, none⟩)] ∧
      log.lines = [⟨"run", 2, ⟨"a", .running, .completed, none, some 2⟩⟩] ∧
      ¬log.Accounts board.store) ∧
    twofold.written.map Rehearsal.Written.line = [line, line] ∧
      ∀ written ∈ twofold.written, written.place = Rehearsal.Desk.placeOf "run" := by
  intro board log line
  obtain ⟨lines, unaccounted⟩ := stranded_unaccounted "run"
  have aloof : ∀ operation ∈ stranded.tail, operation.Aloof 0 := by
    simp [stranded, Board.Operation.Aloof]
  exact ⟨⟨aloof, rfl, lines, unaccounted⟩, by decide, by decide⟩

end Walkthrough
