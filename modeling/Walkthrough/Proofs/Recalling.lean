import Mathlib.Algebra.Order.Ring.Rat
import Mathlib.Data.List.Induction
import Mathlib.Tactic.NormNum
import Walkthrough.Proofs.Storing
/-!
A store of results as a map with times. The store forgets an entry only when it is looked for, so
what it holds drifts from what was written. But it differs in entries alone that are too old, and
that stay so while the clock does not go back: what is young in the store is what is young in the
map. Times are exact, such as fractions.
Main statement: `Cache.recalled_while_young`.
-/

namespace Walkthrough.Cache

/-! What can be done with a store, and what was written last. -/

inductive Operation where
  | set (key : String) (value : Json)
  | get (key : String)
  | contains (key : String)
  | invalidate (key : Option String)

def Operation.Alters (key : String) : Operation → Prop
  | set other _ => other = key
  | get _ | contains _ => False
  | invalidate none => True
  | invalidate (some other) => other = key

section Written

variable {time : Type}

/-- What is written under a key after an operation, with the time; `held` was there before. -/
def Operation.write (key : String) (now : time) (held : Option (Json × time)) :
    Operation → Option (Json × time)
  | set other value => if other = key then some (value, now) else held
  | get _ | contains _ => held
  | invalidate none => none
  | invalidate (some other) => if other = key then none else held

/-- The map: what was written last under a key, and when; no look changes it. -/
def written (key : String) (history : List (time × Operation)) : Option (Json × time) :=
  history.foldl (fun held step => step.2.write key step.1 held) none

/-- The value was set under the key at that time, and nothing later has altered it. -/
def Stands (history : List (time × Operation)) (key : String) (value : Json) (stored : time) :
    Prop :=
  ∃ past rest, history = past ++ (stored, .set key value) :: rest ∧
    ∀ step ∈ rest, ¬ step.2.Alters key

variable {key : String} {value : Json} {now stored : time} {held : Option (Json × time)}
  {operation : Operation} {step : time × Operation} {history before later : List (time × Operation)}

theorem write_of_not_alters (aside : ¬ operation.Alters key) :
    operation.write key now held = held := by
  cases operation with
  | set other value => exact if_neg aside
  | get | contains => rfl
  | invalidate named =>
      cases named with
      | none => exact absurd trivial aside
      | some other => exact if_neg aside

theorem write_eq_some_iff : operation.write key now held = some (value, stored) ↔
    (now, operation) = (stored, .set key value) ∨
      held = some (value, stored) ∧ ¬ operation.Alters key := by
  cases operation with
  | set other content =>
      by_cases same : other = key <;>
        simp [Operation.write, Operation.Alters, same, and_comm]
  | get | contains => simp [Operation.write, Operation.Alters]
  | invalidate named =>
      cases named with
      | none => simp [Operation.write, Operation.Alters]
      | some other =>
          by_cases same : other = key <;> simp [Operation.write, Operation.Alters, same]

theorem written_concat :
    written key (history ++ [step]) = step.2.write key step.1 (written key history) := by
  simp [written]

theorem written_omit (aside : ¬ step.2.Alters key) :
    written key (before ++ step :: later) = written key (before ++ later) := by
  simp [written, write_of_not_alters aside]

theorem stands_concat_iff : Stands (history ++ [step]) key value stored ↔
    step = (stored, .set key value) ∨
      Stands history key value stored ∧ ¬ step.2.Alters key := by
  constructor
  · rintro ⟨past, rest, split, quiet⟩
    -- the step is the value's own, or the last one of those that leave it alone
    cases rest using List.reverseRecOn with
    | nil =>
        obtain ⟨-, last⟩ := List.append_inj' split rfl
        exact .inl (List.singleton_inj.1 last)
    | append_singleton rest last _ =>
        rw [← List.cons_append, ← List.append_assoc] at split
        obtain ⟨rfl, same⟩ := List.append_inj' split rfl
        cases List.singleton_inj.1 same
        have aside := quiet step (List.mem_append_right _ (List.mem_singleton_self _))
        exact .inr ⟨⟨past, rest, rfl, fun step among => quiet step (List.mem_append_left _ among)⟩,
          aside⟩
  · rintro (rfl | ⟨⟨past, rest, rfl, quiet⟩, aside⟩)
    · exact ⟨history, [], rfl, by simp⟩
    · refine ⟨past, rest ++ [step], by simp, fun other among => ?_⟩
      rcases List.mem_append.1 among with known | new
      · exact quiet other known
      · rwa [List.mem_singleton.1 new]

theorem written_eq_some_iff :
    written key history = some (value, stored) ↔ Stands history key value stored := by
  induction history using List.reverseRecOn with
  | nil => simp [written, Stands]
  | append_singleton history step ih =>
      rw [written_concat, write_eq_some_iff, ih, stands_concat_iff]

end Written

/-! What is young in the store. -/

section Young

variable {time : Type} [AddCommGroup time] [LinearOrder time]

def young (ttl now : time) (held : Option (Json × time)) : Option (Json × time) :=
  held.filter fun entry => ttl < 0 ∨ now - entry.2 ≤ ttl

def perform (cache : Cache time) (now : time) : Operation → Cache time
  | .set key value => cache.set now key value
  | .get key => (cache.get now key).2
  | .contains key => (cache.contains now key).2
  | .invalidate key => cache.invalidate key

def performAll (ttl : time) (history : List (time × Operation)) : Cache time :=
  history.foldl (fun cache step => cache.perform step.1 step.2) (empty ttl)

def Recalls (ttl : time) (history : List (time × Operation)) (now : time) (key : String)
    (value : Json) : Prop :=
  ∃ stored, Stands history key value stored ∧ (ttl < 0 ∨ now - stored ≤ ttl)

variable {cache : Cache time} {key other : String} {value : Json} {ttl now moment stored : time}
  {held given : Option (Json × time)} {operation : Operation} {step : time × Operation}
  {history : List (time × Operation)}

theorem young_eq_some_iff : young ttl now held = some (value, stored) ↔
    held = some (value, stored) ∧ (ttl < 0 ∨ now - stored ≤ ttl) := by
  simp [young, Option.filter_eq_some_iff]

theorem recalls_iff : Recalls ttl history now key value ↔
    (young ttl now (written key history)).map Prod.fst = some value := by
  simp [Recalls, young_eq_some_iff, written_eq_some_iff]

theorem expired_iff :
    cache.expired now stored = true ↔ ¬ (cache.ttl < 0 ∨ now - stored ≤ cache.ttl) := by
  simp [expired]

theorem young_entry : young cache.ttl now (some (value, stored)) =
    if cache.expired now stored then none else some (value, stored) := by
  split
  · next late => simpa [young, Option.filter] using expired_iff.1 late
  · next fresh => exact young_eq_some_iff.2 ⟨rfl, not_not.1 (mt expired_iff.2 fresh)⟩

/-- What is got is what is there and young, else null; what is not young is not there any more. -/
theorem get_eq_young :
    (cache.get now key).1 =
        ((young cache.ttl now (cache.find? key)).map Prod.fst).getD .null ∧
      (cache.get now key).2.find? key = young cache.ttl now (cache.find? key) := by
  rcases get_cases cache now key with
    ⟨lacking, got⟩ | ⟨_, _, found, late, got⟩ | ⟨_, _, found, fresh, got⟩
  · rw [got, lacking]
    exact ⟨rfl, rfl⟩
  · rw [got, found, young_entry, if_pos late]
    exact ⟨rfl, find?_remove_self⟩
  · rw [got, found, young_entry, fresh]
    exact ⟨rfl, rfl⟩

theorem ttl_perform : (cache.perform now operation).ttl = cache.ttl := by
  cases operation with
  | set => rfl
  | get => exact ttl_get
  | contains => rw [perform, contains_after, ttl_get]
  | invalidate => exact ttl_invalidate _

theorem performAll_concat : performAll ttl (history ++ [step]) =
    (performAll ttl history).perform step.1 step.2 := by
  simp [performAll]

theorem ttl_performAll : (performAll ttl history).ttl = ttl := by
  induction history using List.reverseRecOn with
  | nil => rfl
  | append_singleton history step ih => rw [performAll_concat, ttl_perform, ih]

theorem young_write (same : young ttl now held = young ttl now given) :
    young ttl now (operation.write key moment held) =
      young ttl now (operation.write key moment given) := by
  ext ⟨value, stored⟩
  have alike : (held = some (value, stored) ∧ (ttl < 0 ∨ now - stored ≤ ttl)) ↔
      (given = some (value, stored) ∧ (ttl < 0 ∨ now - stored ≤ ttl)) := by
    rw [← young_eq_some_iff, same, young_eq_some_iff]
  simp only [young_eq_some_iff, write_eq_some_iff]
  tauto

section Clock

variable [IsOrderedAddMonoid time]

theorem young_young (past : moment ≤ now) :
    young ttl now (young ttl moment held) = young ttl now held := by
  ext ⟨value, stored⟩
  simp only [young_eq_some_iff]
  have before : moment - stored ≤ now - stored := sub_le_sub_right past stored
  constructor
  · rintro ⟨⟨there, -⟩, still⟩
    exact ⟨there, still⟩
  · rintro ⟨there, still⟩
    exact ⟨⟨there, still.imp_right before.trans⟩, still⟩

theorem young_find?_get (past : moment ≤ now) :
    young cache.ttl now ((cache.get moment other).2.find? key) =
      young cache.ttl now (cache.find? key) := by
  by_cases same : key = other
  · rw [same, get_eq_young.2, young_young past]
  · rw [find?_get_of_ne same]

/-- An operation does to the store what it does to the map, as far as anything will be young. -/
theorem young_find?_perform (bound : cache.ttl = ttl) (past : moment ≤ now) :
    young ttl now ((cache.perform moment operation).find? key) =
      young ttl now (operation.write key moment (cache.find? key)) := by
  subst bound
  cases operation with
  | set other value =>
      by_cases same : other = key
      · rw [perform, Operation.write, if_pos same, same, find?_set_self]
      · rw [perform, Operation.write, if_neg same, find?_set_of_ne (Ne.symm same)]
  -- a look may take an entry away that the map keeps, but none that will be young again
  | get other => exact young_find?_get past
  | contains other =>
      rw [perform, contains_after]
      exact young_find?_get past
  | invalidate named =>
      cases named with
      | none => rfl
      | some other =>
          by_cases same : other = key
          · rw [perform, Operation.write, if_pos same, same, invalidate, find?_remove_self]
          · rw [perform, Operation.write, if_neg same, invalidate,
              find?_remove_of_ne (Ne.symm same)]

theorem young_find?_performAll (past : ∀ step ∈ history, step.1 ≤ now) :
    young ttl now ((performAll ttl history).find? key) = young ttl now (written key history) := by
  -- from the end, for a time that stays the same: it is not before any of the operations
  induction history using List.reverseRecOn with
  | nil => rfl
  | append_singleton history step ih =>
      have before : ∀ step ∈ history, step.1 ≤ now := fun step among =>
        past step (List.mem_append_left _ among)
      have last : step.1 ≤ now := past step (by simp)
      rw [performAll_concat, written_concat]
      calc young ttl now (((performAll ttl history).perform step.1 step.2).find? key)
          = young ttl now (step.2.write key step.1 ((performAll ttl history).find? key)) :=
            young_find?_perform ttl_performAll last
        _ = young ttl now (step.2.write key step.1 (written key history)) :=
            young_write (ih before)

theorem get_performAll (past : ∀ step ∈ history, step.1 ≤ now) :
    ((performAll ttl history).get now key).1 =
      ((young ttl now (written key history)).map Prod.fst).getD .null := by
  rw [get_eq_young.1, ttl_performAll, young_find?_performAll past]

/-- After any operations on a store, at any time that is not before them, whatever `ttl` is: a value
is got if and only if it was the last to be set under the key, has not been invalidated since, and
is kept for no longer than `ttl`, or for ever where `ttl` is negative. Null also tells that there is
no such value. Looks at any key, although they delete what is too old, and whatever is done to other
keys could as well not have happened. -/
theorem recalled_while_young (ttl : time) (history : List (time × Operation)) (key : String)
    (now : time) (past : ∀ step ∈ history, step.1 ≤ now) :
    let cache := performAll ttl history
    (∀ value, (cache.get now key).1 = value ↔ Recalls ttl history now key value ∨
      value = .null ∧ ∀ other, ¬ Recalls ttl history now key other) ∧
    ((cache.contains now key).1 = true ↔
      ∃ value, value ≠ .null ∧ Recalls ttl history now key value) ∧
    ∀ before step later, history = before ++ step :: later → ¬ step.2.Alters key →
      (cache.get now key).1 = ((performAll ttl (before ++ later)).get now key).1 := by
  intro cache
  have got : (cache.get now key).1 =
      ((young ttl now (written key history)).map Prod.fst).getD .null := get_performAll past
  have absent : (∀ other, ¬ Recalls ttl history now key other) ↔
      (young ttl now (written key history)).map Prod.fst = none := by
    simp only [recalls_iff, Option.eq_none_iff_forall_ne_some, ne_eq]
  have answers (value : Json) : (cache.get now key).1 = value ↔
      Recalls ttl history now key value ∨
        value = .null ∧ ∀ other, ¬ Recalls ttl history now key other := by
    rw [got, absent, recalls_iff]
    cases (young ttl now (written key history)).map Prod.fst with
    | none => simp [eq_comm]
    | some found => simp
  refine ⟨answers, ?contained, ?omitted⟩
  case contained =>
    rw [contains_iff]
    constructor
    · intro there
      exact ⟨_, there, ((answers _).1 rfl).resolve_right fun null => there null.1⟩
    · rintro ⟨value, there, recalls⟩
      rwa [(answers value).2 (.inl recalls)]
  case omitted =>
    rintro before step later rfl aside
    have fewer : before ++ later ⊆ before ++ step :: later :=
      (List.Sublist.append_left (List.sublist_cons_self step later) before).subset
    rw [got, get_performAll fun other among => past other (fewer among), written_omit aside]

end Clock

end Young

/-! A value that is set anew. -/

/-- The later value is got as long as it may be, and is then forgotten for good. -/
theorem got_at_the_limit :
    let history : List (ℚ × Operation) :=
      [(0, .set "k" (.int 1)), (1/2, .set "k" (.int 2)), (3, .invalidate (some "j"))]
    let later := history ++ [(11, .get "k")]
    (∀ step ∈ history, step.1 ≤ 21/2) ∧ (∀ step ∈ later, step.1 ≤ 12) ∧
      ((performAll 10 history).get (21/2) "k").1 = .int 2 ∧
      ((performAll 10 later).get 12 "k").1 = .null := by
  intro history later
  have past : ∀ step ∈ history, step.1 ≤ 21/2 := by
    simp only [history, List.forall_mem_cons]
    norm_num
  have past' : ∀ step ∈ later, step.1 ≤ 12 := by
    simp only [later, history, List.cons_append, List.nil_append, List.forall_mem_cons]
    norm_num
  have stands : Stands history "k" (.int 2) (1/2) := written_eq_some_iff.1 rfl
  have forgotten : ∀ value, ¬ Recalls 10 later 12 "k" value := by
    rintro value ⟨stored, set, still⟩
    have last : written "k" later = some (.int 2, 1/2) := rfl
    cases last.symm.trans (written_eq_some_iff.2 set)
    norm_num at still
  exact ⟨past, past',
    ((recalled_while_young 10 history "k" (21/2) past).1 _).2
      (.inl ⟨1/2, stands, .inr (by norm_num)⟩),
    ((recalled_while_young 10 later "k" 12 past').1 _).2 (.inr ⟨rfl, forgotten⟩)⟩

end Walkthrough.Cache
