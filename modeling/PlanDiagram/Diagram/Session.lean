import PlanDiagram.Entries

/-!
# Sessions

Identifiers in diagrams end in numbers. A session counts the groups drawn so far and hands out
numbers under any key, so that several diagrams drawn in one session share no identifier.
-/

namespace PlanDiagram.Diagram

/-- The numbers handed out so far. -/
structure Session where
  actionGroups : Nat := 0
  problemGroups : Nat := 0
  counters : List (String × Nat) := []
deriving DecidableEq, Repr, Inhabited

namespace Session

/-- The number of the next group of an action. -/
def nextActionGroup (s : Session) : Nat × Session :=
  (s.actionGroups, { s with actionGroups := s.actionGroups + 1 })

/-- The number of the next group of a problem. -/
def nextProblemGroup (s : Session) : Nat × Session :=
  (s.problemGroups, { s with problemGroups := s.problemGroups + 1 })

/-- The number to be handed out next under a key. -/
def upcoming (s : Session) (key : String) : Nat :=
  (s.counters.lookup key).getD 0

/-- Hands out the next number under a key. -/
def next (s : Session) (key : String) : Nat × Session :=
  let n := s.upcoming key
  (n, { s with counters := Entries.put key (n + 1) s.counters })

/-- After a number has been handed out under a key, the next one is upcoming. -/
theorem upcoming_next (s : Session) (key : String) :
    (s.next key).2.upcoming key = s.upcoming key + 1 := by
  simp [next, upcoming, Entries.lookup_put]

end Session

end PlanDiagram.Diagram
