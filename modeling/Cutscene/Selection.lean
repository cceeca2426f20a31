import Cutscene.Roster

/-!
# Selecting a scene

Of the scenes that an event may start, the one with the highest priority is started, and of
several with that priority the one that was registered first.
-/

namespace Cutscene

namespace Roster

/-- The scene may be started by the event: it has not been played to its end, is not being
played, responds to the event, and its condition holds. -/
def isEligible (e : GameEvent) (p : Progress) (active : Option String) (s : Scene) : Bool :=
  !p.isCompleted s.id && active != some s.id && s.respondsTo e && s.conditionHolds p

/-- The scenes that the event may start, best first. -/
def eligible (r : Roster) (e : GameEvent) (p : Progress) (active : Option String) :
    List Scene :=
  (r.scenes.filter (isEligible e p active)).mergeSort fun a b => b.priority ≤ a.priority

/-- The scene that the event starts. -/
def select? (r : Roster) (e : GameEvent) (p : Progress) (active : Option String) :
    Option Scene :=
  (r.eligible e p active).head?

end Roster

end Cutscene
