import Walkthrough.Facts.Client
/-!
A server that follows a routine: each path has a list of turns, of which the last one is repeated.
A path without any turns is not found.
-/

namespace Walkthrough.Facts

inductive Turn where
  | reply (status : Nat) (body : Body)
  | refuse (message : String)
  | delay (message : String)

abbrev Routine := List (String × List Turn)

namespace Routine

def notFound : Turn :=
  .reply 404 (.value (.object [("message", .text "not found")]))

def take (routine : Routine) (path : String) : Turn × Routine :=
  match routine with
  | [] => (notFound, [])
  | entry :: rest =>
      if entry.1 = path then
        match entry.2 with
        | [] => (notFound, entry :: rest)
        | [last] => (last, entry :: rest)
        | next :: later => (next, (path, later) :: rest)
      else
        let (turn, others) := take rest path
        (turn, entry :: others)

def put (routine : Routine) (path : String) (turns : List Turn) : Routine :=
  match routine with
  | [] => [(path, turns)]
  | entry :: rest =>
      if entry.1 = path then (path, turns) :: rest else entry :: put rest path turns

def size (routine : Routine) : Nat :=
  routine.foldl (fun count entry => count + entry.2.length) 0

end Routine

/-- What is heard from an address; a reply is accepted from an address of some kind only, whose
brackets are in order. -/
def Turn.answered (address : Address) : Turn → Answered
  | reply status body =>
      match address.kindless? with
      | some text => .error (.misuse (.kindlessAddress text))
      | none =>
          match Url.splitChars address.chars with
          | .error defect => .error (.misuse (.badUrl defect))
          | .ok _ => .ok ⟨address.text, status, body⟩
  | refuse message => .error (.exchange (.unreachable message))
  | delay message => .error (.exchange (.timedOut message))

end Walkthrough.Facts
