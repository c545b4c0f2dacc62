import Walkthrough.Proofs.Overtaking
/-!
Subscriptions and the handles that end them. Every subscription is given a handle of its own, but a
handle that is called only knows the subscriber, and ends the earliest subscription that is found
under it. So a handle that is called again does nothing, unless its subscriber is still there by
another subscription. As long as that does not happen, a subscriber is told of a change once for
every handle that was not called when its telling began, even if the handle is called meanwhile.
Main statement: `told_once_for_each_open_handle`.
-/

namespace Walkthrough

/-- What happened, as a use of handles: to whom they were given, one after the other, and which of
them were called. Those come to spoil something that are called again while their subscriber is
there. -/
inductive Handled : List Happening → List Nat → List Nat → List Nat → Prop where
  | start : Handled [] [] [] []
  | subscribed {past given called spoils} {serial : Nat}
      (earlier : Handled past given called spoils) :
      Handled (past ++ [.subscribed serial]) (given ++ [serial]) called spoils
  | called {past given called spoils} {handle serial : Nat}
      (earlier : Handled past given called spoils) (own : given[handle]? = some serial) :
      Handled (past ++ [.unsubscribed serial]) given (called ++ [handle])
        (if handle ∈ called ∧ serial ∈ subscribers past then spoils ++ [handle] else spoils)
  | aside {past given called spoils} {happening : Happening}
      (earlier : Handled past given called spoils)
      (other : ∀ listed, happening.listed listed = listed) :
      Handled (past ++ [happening]) given called spoils

def uncalled (given called : List Nat) : List Nat :=
  (List.range given.length).filter (· ∉ called)

/-- The subscribers of the handles that have not been called, once for each. -/
def entitled (given called : List Nat) : List Nat :=
  (uncalled given called).filterMap fun handle => given[handle]?

def openHandles (serial : Nat) (given called : List Nat) : List Nat :=
  (uncalled given called).filter fun handle => given[handle]? = some serial

variable {past front rest : List Happening} {given called spoils : List Nat} {serial handle : Nat}

theorem count_entitled : (entitled given called).count serial =
    (openHandles serial given called).length := by
  rw [entitled, openHandles, List.count_filterMap, List.countP_eq_length_filter]
  congr 1
  apply List.filter_congr
  intro handle _
  rw [Bool.eq_iff_iff]
  simp

theorem nodup_uncalled : (uncalled given called).Nodup :=
  List.nodup_range.filter _

theorem mem_uncalled :
    handle ∈ uncalled given called ↔ handle < given.length ∧ handle ∉ called := by
  simp [uncalled]

theorem uncalled_call :
    uncalled given (called ++ [handle]) = (uncalled given called).erase handle := by
  rw [nodup_uncalled.erase_eq_filter, uncalled, uncalled, List.filter_filter]
  apply List.filter_congr
  intro other _
  by_cases same : other = handle <;> simp [same]

theorem uncalled_subscribe (known : ∀ handle ∈ called, handle < given.length) :
    uncalled (given ++ [serial]) called = uncalled given called ++ [given.length] := by
  have fresh : given.length ∉ called := fun member => Nat.lt_irrefl _ (known _ member)
  simp [uncalled, List.range_succ, fresh]

theorem entitled_subscribe (known : ∀ handle ∈ called, handle < given.length) :
    entitled (given ++ [serial]) called = entitled given called ++ [serial] := by
  rw [entitled, uncalled_subscribe known, List.filterMap_append, entitled]
  congr 1
  · apply List.filterMap_congr
    intro handle member
    exact List.getElem?_append_left (mem_uncalled.1 member).1
  · simp

theorem entitled_call (own : given[handle]? = some serial) (first : handle ∉ called) :
    (entitled given called).Perm (serial :: entitled given (called ++ [handle])) := by
  have there : handle ∈ uncalled given called :=
    mem_uncalled.2 ⟨(List.getElem?_eq_some_iff.1 own).1, first⟩
  have taken := (List.perm_cons_erase there).filterMap fun handle => given[handle]?
  rwa [List.filterMap_cons, own, ← uncalled_call] at taken

theorem entitled_call_again (again : handle ∈ called) :
    entitled given (called ++ [handle]) = entitled given called := by
  have gone : handle ∉ uncalled given called := fun member => (mem_uncalled.1 member).2 again
  rw [entitled, uncalled_call, List.erase_of_not_mem gone, entitled]

namespace Handled

theorem known (handled : Handled past given called spoils) :
    ∀ handle ∈ called, handle < given.length := by
  induction handled with
  | start => simp
  | subscribed earlier ih =>
      intro handle member
      rw [List.length_append]
      exact Nat.lt_add_right _ (ih handle member)
  | called earlier own ih =>
      intro other member
      rcases List.mem_append.1 member with before | now
      · exact ih other before
      · rw [List.mem_singleton.1 now]
        exact (List.getElem?_eq_some_iff.1 own).1
  | aside earlier other ih => exact ih

/-- As long as nothing is spoilt, those are subscribed who are entitled to it. -/
theorem subscribers_perm (handled : Handled past given called spoils) (unspoilt : spoils = []) :
    (subscribers past).Perm (entitled given called) := by
  induction handled with
  | start => exact .nil
  | subscribed earlier ih =>
      rw [subscribers_concat, entitled_subscribe earlier.known]
      exact (ih unspoilt).append_right _
  | @called past given called spoils handle serial earlier own ih =>
      rw [subscribers_concat]
      by_cases again : handle ∈ called
      · by_cases there : serial ∈ subscribers past
        · simp [again, there] at unspoilt
        · have perm := ih (by simpa [there] using unspoilt)
          rwa [entitled_call_again again, Happening.listed, List.erase_of_not_mem there]
      · have perm := ih (by simpa [again] using unspoilt)
        have taken := (perm.trans (entitled_call own again)).erase serial
        rwa [List.erase_cons_head] at taken
  | aside earlier other ih =>
      rw [subscribers_concat, other]
      exact ih unspoilt

theorem unspoilt (handled : Handled past given called spoils) (distinct : given.Nodup) :
    spoils = [] := by
  induction handled with
  | start => rfl
  | subscribed earlier ih => exact ih (List.nodup_append.1 distinct).1
  | @called past given called spoils handle serial earlier own ih =>
      rw [if_neg, ih distinct]
      rintro ⟨again, there⟩
      have held := (earlier.subscribers_perm (ih distinct)).mem_iff.1 there
      obtain ⟨other, open_still, same⟩ := List.mem_filterMap.1 held
      obtain rfl : other = handle :=
        (List.getElem?_inj (mem_uncalled.1 open_still).1 distinct).1 (same.trans own.symm)
      exact (mem_uncalled.1 open_still).2 again
  | aside earlier other ih => exact ih distinct

theorem of_concat {last : Happening} (handled : Handled (past ++ [last]) given called spoils) :
    ∃ given₀ called₀ spoils₀, Handled past given₀ called₀ spoils₀ ∧ given₀ <+: given ∧
      called₀ <+: called ∧ spoils₀ <+: spoils := by
  generalize whole : past ++ [last] = found at handled
  cases handled with
  | start => simp at whole
  | subscribed earlier =>
      obtain ⟨rfl, -⟩ := List.append_inj' whole rfl
      exact ⟨_, _, _, earlier, List.prefix_append _ _, List.prefix_rfl, List.prefix_rfl⟩
  | called earlier own =>
      obtain ⟨rfl, -⟩ := List.append_inj' whole rfl
      refine ⟨_, _, _, earlier, List.prefix_rfl, List.prefix_append _ _, ?_⟩
      split
      · exact List.prefix_append _ _
      · exact List.prefix_rfl
  | aside earlier other =>
      obtain ⟨rfl, -⟩ := List.append_inj' whole rfl
      exact ⟨_, _, _, earlier, List.prefix_rfl, List.prefix_rfl, List.prefix_rfl⟩

theorem of_append (handled : Handled (past ++ rest) given called spoils) :
    ∃ given₀ called₀ spoils₀, Handled past given₀ called₀ spoils₀ ∧ given₀ <+: given ∧
      called₀ <+: called ∧ spoils₀ <+: spoils := by
  induction rest using List.reverseRecOn generalizing given called spoils with
  | nil =>
      rw [List.append_nil] at handled
      exact ⟨_, _, _, handled, List.prefix_rfl, List.prefix_rfl, List.prefix_rfl⟩
  | append_singleton rest last ih =>
      rw [← List.append_assoc] at handled
      obtain ⟨given₁, called₁, spoils₁, earlier, given_le, called_le, spoils_le⟩ :=
        handled.of_concat
      obtain ⟨given₀, called₀, spoils₀, first, given_le₀, called_le₀, spoils_le₀⟩ := ih earlier
      exact ⟨given₀, called₀, spoils₀, first, given_le₀.trans given_le, called_le₀.trans called_le,
        spoils_le₀.trans spoils_le⟩

/-- The handle that is called last ends the earliest subscription of its subscriber, and none if it
was called before. -/
theorem ended (handled : Handled (past ++ [.unsubscribed serial]) given called spoils)
    (unspoilt : spoils = []) :
    ∃ called₀ handle, Handled past given called₀ [] ∧ called = called₀ ++ [handle] ∧
      given[handle]? = some serial ∧
      if handle ∈ called₀ then subscribers (past ++ [.unsubscribed serial]) = subscribers past
      else serial ∈ subscribers past ∧
        subscribers (past ++ [.unsubscribed serial]) = (subscribers past).erase serial := by
  rw [subscribers_concat, Happening.listed]
  generalize whole : past ++ [.unsubscribed serial] = found at handled
  cases handled with
  | start => simp at whole
  | subscribed earlier =>
      obtain ⟨-, last⟩ := List.append_inj' whole rfl
      cases last
  | @called _ _ called₀ spoils₀ handle _ earlier own =>
      obtain ⟨rfl, last⟩ := List.append_inj' whole rfl
      cases last
      by_cases again : handle ∈ called₀
      · by_cases there : serial ∈ subscribers past
        · simp [again, there] at unspoilt
        · obtain rfl : spoils₀ = [] := by simpa [there] using unspoilt
          exact ⟨_, handle, earlier, rfl, own, by simp [again, List.erase_of_not_mem there]⟩
      · obtain rfl : spoils₀ = [] := by simpa [again] using unspoilt
        have held : serial ∈ subscribers past :=
          ((earlier.subscribers_perm rfl).trans (entitled_call own again)).mem_iff.2
            List.mem_cons_self
        exact ⟨_, handle, earlier, rfl, own, by simp [again, held]⟩
  | aside earlier other =>
      obtain ⟨rfl, last⟩ := List.append_inj' whole rfl
      cases last
      have impossible := congrArg List.length (other [serial])
      simp [Happening.listed] at impossible

end Handled

/-- Whatever is done to a fresh board, whatever the listeners do when they are told, and whichever
handles were called. Where nobody subscribes twice nothing is spoilt. As long as nothing is spoilt,
at every moment a subscriber is there once for each of its handles that has not been called by then;
a handle ends the earliest subscription of its subscriber when it is called first, and none later;
and a subscriber is told of a change once for each of its handles that had not been called when the
change was made. -/
theorem told_once_for_each_open_handle (depth : Nat) (operations : List Board.Operation)
    (handled : Handled (Chronicle.performAll depth operations).past given called spoils) :
    let past := (Chronicle.performAll depth operations).past
    let board := Board.performAll depth operations
    board.listeners.map Listener.serial = subscribers past ∧
    (given.Nodup → spoils = []) ∧
    (spoils = [] →
      (∀ serial, (board.listeners.map Listener.serial).count serial =
        (openHandles serial given called).length) ∧
      (∀ front rest, past = front ++ rest →
        ∃ given₀ called₀, Handled front given₀ called₀ [] ∧ given₀ <+: given ∧ called₀ <+: called ∧
          ∀ serial, (subscribers front).count serial =
            (openHandles serial given₀ called₀).length) ∧
      (∀ front serial rest, past = front ++ .unsubscribed serial :: rest →
        ∃ given₀ called₀ handle, Handled front given₀ called₀ [] ∧ given₀ <+: given ∧
          called₀ ++ [handle] <+: called ∧ given₀[handle]? = some serial ∧
          if handle ∈ called₀ then subscribers (front ++ [.unsubscribed serial]) = subscribers front
          else serial ∈ subscribers front ∧
            subscribers (front ++ [.unsubscribed serial]) = (subscribers front).erase serial) ∧
      ∀ front publication rest, past = front ++ .published publication :: rest →
        ∃ given₀ called₀, Handled front given₀ called₀ [] ∧ given₀ <+: given ∧ called₀ <+: called ∧
          ∀ serial, (recipients (publications front).length past).count serial =
            (openHandles serial given₀ called₀).length) := by
  intro past board
  have handled : Handled past given called spoils := handled
  obtain ⟨history, nested⟩ := nested_performAll (fun _ => False) depth
    fun listener (_ : .subscribe listener ∈ operations) => listener.calm_of_none
  refine ⟨history.subscribers, handled.unspoilt, fun unspoilt => ?_⟩
  subst unspoilt
  have moment (front rest : List Happening) (split : past = front ++ rest) :
      ∃ given₀ called₀, Handled front given₀ called₀ [] ∧ given₀ <+: given ∧ called₀ <+: called ∧
        ∀ serial, (subscribers front).count serial =
          (openHandles serial given₀ called₀).length := by
    rw [split] at handled
    obtain ⟨given₀, called₀, spoils₀, until_then, given_le, called_le, spoils_le⟩ :=
      handled.of_append
    rw [List.prefix_nil.1 spoils_le] at until_then
    refine ⟨given₀, called₀, until_then, given_le, called_le, fun serial => ?_⟩
    rw [(until_then.subscribers_perm rfl).count_eq, count_entitled]
  refine ⟨?subscribed, moment, ?ended, ?told⟩
  case subscribed =>
    intro serial
    rw [history.subscribers, (handled.subscribers_perm rfl).count_eq, count_entitled]
  case ended =>
    intro front serial rest split
    rw [split, List.append_cons] at handled
    obtain ⟨given₀, called₁, spoils₀, until_then, given_le, called_le, spoils_le⟩ :=
      handled.of_append
    obtain ⟨called₀, handle, earlier, rfl, own, ends⟩ :=
      until_then.ended (List.prefix_nil.1 spoils_le)
    exact ⟨given₀, called₀, handle, earlier, given_le, called_le, own, ends⟩
  case told =>
    intro front publication rest split
    obtain ⟨given₀, called₀, until_then, given_le, called_le, count⟩ := moment front _ split
    refine ⟨given₀, called₀, until_then, given_le, called_le, fun serial => ?_⟩
    have found : (publications past)[(publications front).length]? = some publication := by
      rw [split, publications_append, List.getElem?_append_right (Nat.le_refl _), Nat.sub_self]
      rfl
    have told := nested.each _ publication found
    rw [Nat.zero_add] at told
    rw [told, history.audience split, count]

def halved : List Board.Operation :=
  [.subscribe ⟨0, fun told =>
     if told.length = 1 then [.subscribe ⟨1, fun _ => []⟩, .subscribe ⟨1, fun _ => []⟩] else []⟩,
   .transition ⟨"s", .running, none, none⟩, .unsubscribe 1, .transition ⟨"s", .idle, none, none⟩]

theorem Handled.pair (first second : Nat) :
    Handled [.subscribed first, .subscribed second] [first, second] [] [] :=
  .subscribed (.subscribed .start)

theorem halved_told_once :
    let past := (Chronicle.performAll 0 halved).past
    Handled past [0, 1, 1] [2] [] ∧
      ((Board.performAll 0 halved).listeners.map Listener.serial).count 1 = 1 ∧
      ∃ given called, Handled (past.take 6) given called [] ∧ given <+: [0, 1, 1] ∧
        called <+: [2] ∧ (recipients 1 past).count 1 = (openHandles 1 given called).length := by
  intro past
  have first : Handled (past.take 1) [0] [] [] := .subscribed .start
  have made : Handled (past.take 2) [0] [] [] := first.aside fun _ => rfl
  have told : Handled (past.take 3) [0] [] [] := made.aside fun _ => rfl
  have twice : Handled (past.take 5) [0, 1, 1] [] [] := told.subscribed.subscribed
  have called : Handled (past.take 6) [0, 1, 1] [2] [] := twice.called rfl
  have again : Handled (past.take 7) [0, 1, 1] [2] [] := called.aside fun _ => rfl
  have heard : Handled (past.take 8) [0, 1, 1] [2] [] := again.aside fun _ => rfl
  have handled : Handled past [0, 1, 1] [2] [] := heard.aside fun _ => rfl
  obtain ⟨-, -, unspoilt⟩ := told_once_for_each_open_handle 0 halved handled
  obtain ⟨left, -, -, told⟩ := unspoilt rfl
  obtain ⟨given, called, until_then, given_le, called_le, count⟩ := told (past.take 6) _ _ rfl
  exact ⟨handled, left 1, given, called, until_then, given_le, called_le, count 1⟩

def cancelled : List Board.Operation :=
  [.subscribe ⟨0, fun _ => []⟩, .subscribe ⟨0, fun _ => []⟩, .unsubscribe 0, .unsubscribe 0,
    .transition ⟨"s", .running, none, none⟩]

def displaced : List Board.Operation :=
  [.subscribe ⟨0, fun _ => []⟩, .subscribe ⟨1, fun _ => []⟩, .subscribe ⟨0, fun _ => []⟩,
    .unsubscribe 0, .transition ⟨"s", .running, none, none⟩]

def dismissed : List Board.Operation :=
  [.subscribe ⟨0, fun _ => [.unsubscribe 1]⟩, .subscribe ⟨1, fun _ => []⟩,
    .transition ⟨"s", .running, none, none⟩]

/-- A handle that is called twice has taken the subscription of another one, that is not called; one
that is called once has taken the place of an earlier one; and somebody is told whose handle has
just been called. -/
theorem cancelled_and_dismissed :
    let lost := (Chronicle.performAll 0 cancelled).past
    let moved := (Chronicle.performAll 0 displaced).past
    let past := (Chronicle.performAll 0 dismissed).past
    (Handled lost [0, 0] [0, 0] [0] ∧ openHandles 0 [0, 0] [0, 0] = [1] ∧
      (Board.performAll 0 cancelled).listeners.map Listener.serial = [] ∧
      (publications lost).length = 1 ∧ recipients 0 lost = []) ∧
    (Handled moved [0, 1, 0] [2] [] ∧ entitled [0, 1, 0] [2] = [0, 1] ∧
      (Board.performAll 0 displaced).listeners.map Listener.serial = [1, 0] ∧
      recipients 0 moved = [1, 0]) ∧
    ∃ front change, past = front ++ [.told 0 ⟨1, change⟩] ∧
      Handled front [0, 1] [1] [] ∧ openHandles 1 [0, 1] [1] = [] := by
  intro lost moved past
  refine ⟨?lost, ?moved, ?told⟩
  case lost =>
    have first : Handled (lost.take 3) [0, 0] [0] [] := (Handled.pair 0 0).called rfl
    have second : Handled (lost.take 4) [0, 0] [0, 0] [0] := first.called rfl
    exact ⟨second.aside fun _ => rfl, by decide, rfl, rfl, rfl⟩
  case moved =>
    have called : Handled (moved.take 4) [0, 1, 0] [2] [] := (Handled.pair 0 1).subscribed.called rfl
    have made : Handled (moved.take 5) [0, 1, 0] [2] [] := called.aside fun _ => rfl
    have told : Handled (moved.take 6) [0, 1, 0] [2] [] := made.aside fun _ => rfl
    exact ⟨told.aside fun _ => rfl, by decide, rfl, rfl⟩
  case told =>
    have made : Handled (past.take 3) [0, 1] [] [] := (Handled.pair 0 1).aside fun _ => rfl
    have told : Handled (past.take 4) [0, 1] [] [] := made.aside fun _ => rfl
    exact ⟨past.take 5, ⟨"s", .idle, .running, none, none⟩, rfl, told.called rfl, by decide⟩

end Walkthrough
