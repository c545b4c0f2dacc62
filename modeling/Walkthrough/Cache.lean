import Walkthrough.Json
/-!
A store of results that grow old. An entry is forgotten when it is asked for more than `ttl` after
it was stored; a negative `ttl` keeps everything. A stored null cannot be told from an absent
entry.
-/

namespace Walkthrough

structure Cache (time : Type) where
  ttl : time
  entries : List (String × Json × time)

namespace Cache

variable {time : Type}

def empty (ttl : time) : Cache time := ⟨ttl, []⟩

def find? (cache : Cache time) (key : String) : Option (Json × time) :=
  (cache.entries.find? fun entry => entry.1 == key).map Prod.snd

def remove (cache : Cache time) (key : String) : Cache time :=
  { cache with entries := cache.entries.filter fun entry => entry.1 != key }

def clear (cache : Cache time) : Cache time :=
  { cache with entries := [] }

def invalidate (cache : Cache time) (key : Option String) : Cache time :=
  match key with
  | some key => cache.remove key
  | none => cache.clear

def replace (key : String) (value : Json) (now : time) :
    List (String × Json × time) → List (String × Json × time)
  | [] => [(key, value, now)]
  | entry :: rest =>
      if entry.1 = key then (key, value, now) :: rest else entry :: replace key value now rest

def set (cache : Cache time) (now : time) (key : String) (value : Json) : Cache time :=
  { cache with entries := replace key value now cache.entries }

variable [Sub time] [LE time] [LT time] [OfNat time 0] [DecidableLE time] [DecidableLT time]

def expired (cache : Cache time) (now stored : time) : Bool :=
  decide (0 ≤ cache.ttl) && decide (cache.ttl < now - stored)

def get (cache : Cache time) (now : time) (key : String) : Json × Cache time :=
  match cache.find? key with
  | none => (.null, cache)
  | some (value, stored) =>
      if cache.expired now stored then (.null, cache.remove key) else (value, cache)

def contains (cache : Cache time) (now : time) (key : String) : Bool × Cache time :=
  match cache.get now key with
  | (.null, rest) => (false, rest)
  | (_, rest) => (true, rest)

end Cache

end Walkthrough
