import LogTail.Service.Exchange

/-!
A service that follows a script: it answers calls one after another as laid down before, each
answer after a delay and, where it has a gate, not before that is opened.
-/
namespace LogTail.Simulation

structure Answer (α : Type) where
  result : Except Fault α
  delay : Nat
  gate : Option String

inductive Script
  /-- Pages for queries, and outcomes for clears. -/
  | staged (pages : List (Answer Page)) (clears : List (Answer Unit))
  /-- Responses for calls of either sort. -/
  | served (responses : List Response)

namespace Script

/-- The answer to a query. When all pages are used up there is nothing new; when all responses
are, there is no answer. -/
def query (s : Script) (q : Query) : Script × Option (Answer Page) :=
  match s with
  | .staged [] clears => (.staged [] clears, some ⟨.ok ⟨[], q.since⟩, 0, none⟩)
  | .staged (a :: rest) clears => (.staged rest clears, some a)
  | .served [] => (.served [], none)
  | .served (r :: rest) => (.served rest, some ⟨r.page q, 0, none⟩)

/-- The answer to a clear. When all outcomes are used up it succeeds; when all responses are,
there is no answer. -/
def clear (s : Script) : Script × Option (Answer Unit) :=
  match s with
  | .staged pages [] => (.staged pages [], some ⟨.ok (), 0, none⟩)
  | .staged pages (a :: rest) => (.staged pages rest, some a)
  | .served [] => (.served [], none)
  | .served (r :: rest) => (.served rest, some ⟨r.cleared, 0, none⟩)

def push (s : Script) (a : Answer Page) : Script :=
  match s with
  | .staged pages clears => .staged (pages ++ [a]) clears
  | .served responses => .served responses

def gates : Script → List String
  | .staged pages clears => pages.filterMap (·.gate) ++ clears.filterMap (·.gate)
  | .served _ => []

end Script

end LogTail.Simulation
