/-!
A computation that asks its surroundings for what it cannot know: each question has a type of
answers, and what follows depends on the answer. The same dialogue can be held with a recorded
page, with any page at all, or turn by turn with other dialogues.
-/

namespace Walkthrough

inductive Dialogue {query : Type} (answer : query → Type) (α : Type) where
  | done (result : α)
  | ask (asked : query) (next : answer asked → Dialogue answer α)

namespace Dialogue

variable {query : Type} {answer : query → Type} {α β : Type}

def bind (dialogue : Dialogue answer α) (continuation : α → Dialogue answer β) :
    Dialogue answer β :=
  match dialogue with
  | done result => continuation result
  | ask asked next => ask asked fun reply => (next reply).bind continuation

instance : Monad (Dialogue answer) where
  pure := done
  bind := bind

def question (asked : query) : Dialogue answer (answer asked) :=
  ask asked done

def holdWith {m : Type → Type} [Monad m] (reply : (asked : query) → m (answer asked)) :
    Dialogue answer α → m α
  | done result => pure result
  | ask asked next => do holdWith reply (next (← reply asked))

@[simp] theorem bind_done (result : α) (continuation : α → Dialogue answer β) :
    (done result : Dialogue answer α).bind continuation = continuation result := rfl

@[simp] theorem bind_ask (asked : query) (next : answer asked → Dialogue answer α)
    (continuation : α → Dialogue answer β) :
    (ask asked next).bind continuation = ask asked fun reply => (next reply).bind continuation :=
  rfl

theorem done_bind_right (dialogue : Dialogue answer α) : dialogue.bind done = dialogue := by
  induction dialogue with
  | done result => rfl
  | ask asked next ih => simp [ih]

theorem bind_assoc {γ : Type} (dialogue : Dialogue answer α) (first : α → Dialogue answer β)
    (second : β → Dialogue answer γ) :
    (dialogue.bind first).bind second = dialogue.bind fun result => (first result).bind second := by
  induction dialogue with
  | done result => rfl
  | ask asked next ih => simp [ih]

instance : LawfulMonad (Dialogue answer) :=
  LawfulMonad.mk' _ (fun dialogue => done_bind_right dialogue) (fun _ _ => rfl) bind_assoc

end Dialogue

end Walkthrough
