import Mathlib.Data.List.Basic
import Walkthrough.Cache
/-!
What a store of results holds after it was changed, and after it was asked, which may change it
too. Times are anything that has differences and an order, be they exact or rounded.
-/

namespace Walkthrough.Cache

variable {time : Type} {cache : Cache time} {key other : String}

theorem find?_remove_self : (cache.remove key).find? key = none := by
  simp [find?, remove]

theorem find?_remove_of_ne (different : other ≠ key) :
    (cache.remove key).find? other = cache.find? other := by
  rw [find?, remove, List.find?_filter, find?]
  congr 2
  funext entry
  by_cases named : entry.1 = other
  · simp [named, different]
  · simp [named]

theorem find?_set_self {now : time} {value : Json} :
    (cache.set now key value).find? key = some (value, now) := by
  suffices ∀ entries : List (String × Json × time),
      (replace key value now entries).find? (fun entry => entry.1 == key) =
        some (key, value, now) by
    simp [find?, set, this]
  intro entries
  induction entries with
  | nil => simp [replace]
  | cons entry rest ih =>
      by_cases named : entry.1 = key
      · simp [replace, named]
      · simp [replace, named, ih]

theorem find?_set_of_ne {now : time} {value : Json} (different : other ≠ key) :
    (cache.set now key value).find? other = cache.find? other := by
  suffices ∀ entries : List (String × Json × time),
      (replace key value now entries).find? (fun entry => entry.1 == other) =
        entries.find? fun entry => entry.1 == other by
    simp [find?, set, this]
  intro entries
  induction entries with
  | nil => simp [replace, Ne.symm different]
  | cons entry rest ih =>
      by_cases named : entry.1 = key
      · simp [replace, named, Ne.symm different]
      · simp [replace, named, List.find?_cons, ih]

theorem ttl_invalidate (named : Option String) : (cache.invalidate named).ttl = cache.ttl := by
  cases named <;> rfl

theorem of_find?_invalidate {named : Option String} {entry : Json × time}
    (found : (cache.invalidate named).find? key = some entry) :
    cache.find? key = some entry ∧ ∃ other, named = some other ∧ key ≠ other := by
  cases named with
  | none => cases found
  | some other =>
      by_cases same : key = other
      · subst same
        rw [invalidate, find?_remove_self] at found
        cases found
      · rw [invalidate, find?_remove_of_ne same] at found
        exact ⟨found, other, rfl, same⟩

variable [Sub time] [LE time] [LT time] [OfNat time 0] [DecidableLE time] [DecidableLT time]
  {now stored : time} {content : Json}

theorem get_cases (cache : Cache time) (now : time) (key : String) :
    (cache.find? key = none ∧ cache.get now key = (.null, cache)) ∨
    (∃ content stored, cache.find? key = some (content, stored) ∧
      cache.expired now stored = true ∧ cache.get now key = (.null, cache.remove key)) ∨
    ∃ content stored, cache.find? key = some (content, stored) ∧
      cache.expired now stored = false ∧ cache.get now key = (content, cache) := by
  cases found : cache.find? key with
  | none => exact .inl ⟨rfl, by rw [get, found]⟩
  | some entry =>
      obtain ⟨content, stored⟩ := entry
      cases old : cache.expired now stored with
      | true => exact .inr (.inl ⟨content, stored, rfl, old, by simp [get, found, old]⟩)
      | false => exact .inr (.inr ⟨content, stored, rfl, old, by simp [get, found, old]⟩)

theorem ttl_get : (cache.get now key).2.ttl = cache.ttl := by
  rcases get_cases cache now key with ⟨-, got⟩ | ⟨_, _, -, -, got⟩ | ⟨_, _, -, -, got⟩ <;>
    rw [got]
  rfl

theorem get_of_ne_null (bounded : 0 ≤ cache.ttl) (there : (cache.get now key).1 ≠ .null) :
    ∃ stored, cache.find? key = some ((cache.get now key).1, stored) ∧
      ¬ cache.ttl < now - stored ∧ (cache.get now key).2 = cache := by
  rcases get_cases cache now key with
    ⟨-, got⟩ | ⟨_, _, -, -, got⟩ | ⟨content, stored, found, fresh, got⟩
  · rw [got] at there
    exact absurd rfl there
  · rw [got] at there
    exact absurd rfl there
  · rw [got]
    exact ⟨stored, found, by simpa [expired, bounded] using fresh, rfl⟩

theorem of_find?_get {entry : Json × time} (null : (cache.get now key).1 = .null)
    (found : (cache.get now key).2.find? other = some entry) :
    cache.find? other = some entry ∧ (other = key → entry.1 = .null) := by
  rcases get_cases cache now key with
    ⟨lacking, got⟩ | ⟨_, _, -, -, got⟩ | ⟨content, stored, present, -, got⟩ <;>
    rw [got] at null found
  · refine ⟨found, fun same => ?_⟩
    rw [same, lacking] at found
    cases found
  · have different : other ≠ key := by
      rintro rfl
      rw [find?_remove_self] at found
      cases found
    rw [find?_remove_of_ne different] at found
    exact ⟨found, fun same => absurd same different⟩
  · refine ⟨found, fun same => ?_⟩
    rw [same, present] at found
    cases found
    exact null

theorem find?_get_of_ne (different : other ≠ key) :
    (cache.get now key).2.find? other = cache.find? other := by
  rcases get_cases cache now key with ⟨-, got⟩ | ⟨_, _, -, -, got⟩ | ⟨_, _, -, -, got⟩ <;>
    rw [got]
  exact find?_remove_of_ne different

/-- Null is got where there is nothing, and where null is kept, however old it is. -/
theorem get_null (null : ∀ content stored, cache.find? key = some (content, stored) →
    content = .null) : (cache.get now key).1 = .null := by
  rcases get_cases cache now key with
    ⟨-, got⟩ | ⟨_, _, -, -, got⟩ | ⟨content, stored, found, -, got⟩ <;> rw [got]
  exact null content stored found

theorem get_young (found : cache.find? key = some (content, stored))
    (young : ¬ cache.ttl < now - stored) : cache.get now key = (content, cache) := by
  have fresh : cache.expired now stored = false := by simp [expired, young]
  simp [get, found, fresh]

theorem late_of_null (found : cache.find? key = some (content, stored)) (there : content ≠ .null)
    (null : (cache.get now key).1 = .null) : cache.ttl < now - stored := by
  by_contra young
  rw [get_young found young] at null
  exact there null

theorem contains_iff : (cache.contains now key).1 = true ↔ (cache.get now key).1 ≠ .null := by
  unfold contains
  split
  · next found => simp [found]
  · next there found => simpa [found] using there

theorem contains_after : (cache.contains now key).2 = (cache.get now key).2 := by
  unfold contains
  split <;> next found => rw [found]

end Walkthrough.Cache
