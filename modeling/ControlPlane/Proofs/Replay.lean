/-
This file replays deltas on a map of routes. A replay fails as soon as a delta
does not find what it says is there: an added route must be new, and a replaced
or removed route must be the one that is listed. Deltas that lead from one map of
routes to another replay on every listing of the first one, and what they leave
is a listing of the second one.
-/

import ControlPlane.Proofs.Delta

namespace ControlPlane

namespace Delta

/-- The routes after a delta, or nothing if the delta does not find what it replaces or
removes, or finds a route where it adds one. -/
def replay? (routes : SortedMap Prefix ForwardingRoute) :
    Delta → Option (SortedMap Prefix ForwardingRoute)
  | unchanged _ => some routes
  | add new =>
    if routes.find? new.destination = none then some (routes.insert new.destination new) else none
  | replace old new =>
    if routes.find? new.destination = some old then some (routes.insert new.destination new)
    else none
  | remove old =>
    if routes.find? old.destination = some old then some (routes.erase old.destination) else none

/-- The routes after some deltas, one after the other. -/
def replayAll? : List Delta → SortedMap Prefix ForwardingRoute →
    Option (SortedMap Prefix ForwardingRoute)
  | [], routes => some routes
  | delta :: rest, routes => (replay? routes delta).bind (replayAll? rest)

/-! ### Replaying what carries -/

/-- What a delta says about the routes of its prefix before and after it. -/
def Tells (old new : Option ForwardingRoute) : Delta → Prop
  | unchanged _ => old = new
  | add second => old = none ∧ new = some second
  | replace first second => old = some first ∧ new = some second
  | remove first => old = some first ∧ new = none

theorem tells_transition (destination : Prefix) (old new : Option ForwardingRoute) :
    (transition destination old new).Tells old new := by
  unfold transition
  split
  next => rfl
  next => exact ⟨rfl, rfl⟩
  next => exact ⟨rfl, rfl⟩
  next =>
    split
    next same => exact congrArg some same
    next => exact ⟨rfl, rfl⟩

section Replay

variable {delta : Delta} {before after : RouteMap} {routes : SortedMap Prefix ForwardingRoute}

/-- A delta that leads from one map of routes to another replays on every listing of the first,
and gives a listing of the second. -/
theorem Carries.exists_replay? (carries : delta.Carries before after)
    (lists : routes.find? = before) :
    ∃ next, replay? routes delta = some next ∧ next.find? = after := by
  subst lists
  have told := tells_transition delta.destination (routes.find? delta.destination)
    (after delta.destination)
  rw [← carries.transition_eq] at told
  -- it is enough to look at the prefix of the delta
  have lists_after : ∀ next : SortedMap Prefix ForwardingRoute,
      (∀ listed, next.find? listed =
        if delta.destination = listed then after delta.destination else routes.find? listed) →
      next.find? = after := by
    intro next found
    funext listed
    rw [found]
    split
    next here => rw [here]
    next elsewhere => exact (carries.others listed elsewhere).symm
  cases delta with
  | unchanged destination =>
    exact ⟨routes, rfl, (carries.eq_of_isUnchanged rfl).symm⟩
  | add new =>
    obtain ⟨absent, present⟩ := told
    refine ⟨_, if_pos absent, lists_after _ fun listed => ?_⟩
    rw [present]
    exact SortedMap.find?_insert _ _ _ _
  | replace old new =>
    obtain ⟨replaced, present⟩ := told
    refine ⟨_, if_pos replaced, lists_after _ fun listed => ?_⟩
    rw [present]
    exact SortedMap.find?_insert _ _ _ _
  | remove old =>
    obtain ⟨removed, absent⟩ := told
    refine ⟨_, if_pos removed, lists_after _ fun listed => ?_⟩
    rw [absent]
    exact SortedMap.find?_erase _ _ _

/-- The same for deltas that lead there one after the other. -/
theorem CarryAll.exists_replayAll? {deltas : List Delta} (carryAll : CarryAll deltas before after)
    (lists : routes.find? = before) :
    ∃ next, replayAll? deltas routes = some next ∧ next.find? = after := by
  induction deltas generalizing routes before with
  | nil =>
    have same : after = before := carryAll
    exact ⟨routes, rfl, lists.trans same.symm⟩
  | cons delta rest inductionHypothesis =>
    obtain ⟨middle, carries, restCarries⟩ := carryAll
    obtain ⟨next, replays, nextLists⟩ := carries.exists_replay? lists
    obtain ⟨last, lastReplays, lastLists⟩ := inductionHypothesis restCarries nextLists
    exact ⟨last, by rw [replayAll?, replays, Option.bind_some, lastReplays], lastLists⟩

end Replay

end Delta

end ControlPlane
