/-
This file says what the deltas of an operation mean. Routes are looked at as a
function from prefixes, and a delta leads from one such function to another when
it is the transition at its own prefix and no other prefix changes. A list of
deltas leads from the routes before an operation to the routes after it, with
all routes in between.
-/

import ControlPlane.Route

namespace ControlPlane

/-- Routes are listed under their own prefix. -/
def Addressed (destination : Prefix) (route : Option ForwardingRoute) : Prop :=
  ∀ listed, route = some listed → listed.destination = destination

theorem addressed_none (destination : Prefix) : Addressed destination none :=
  fun _ absent => nomatch absent

/-- The forwarding routes of all prefixes. -/
abbrev RouteMap : Type :=
  Prefix → Option ForwardingRoute

namespace Delta

theorem transition_self (destination : Prefix) (route : Option ForwardingRoute) :
    transition destination route route = .unchanged destination := by
  cases route with
  | none => rfl
  | some route => exact if_pos rfl

theorem addressed_desired? (delta : Delta) : Addressed delta.destination delta.desired? := by
  intro route desired
  cases delta with
  | unchanged destination => cases desired
  | add new =>
    cases desired
    rfl
  | replace old new =>
    cases desired
    rfl
  | remove old => cases desired

/-- The transition between routes of a prefix belongs to that prefix. -/
theorem destination_transition {destination : Prefix} {old new : Option ForwardingRoute}
    (oldAddressed : Addressed destination old) (newAddressed : Addressed destination new) :
    (transition destination old new).destination = destination := by
  unfold transition
  split
  next => rfl
  next new => exact newAddressed new rfl
  next old => exact oldAddressed old rfl
  next old new =>
    split
    · rfl
    · exact newAddressed new rfl

theorem isUnchanged_transition {destination : Prefix} {old new : Option ForwardingRoute} :
    (transition destination old new).isUnchanged ↔ old = new := by
  unfold transition
  split
  next => simp [isUnchanged]
  next => simp [isUnchanged]
  next => simp [isUnchanged]
  next old new =>
    split
    next same => simp [isUnchanged, same]
    next different => simpa [isUnchanged] using different

theorem desired?_transition {destination : Prefix} {old new : Option ForwardingRoute}
    (different : old ≠ new) : (transition destination old new).desired? = new := by
  unfold transition
  split
  next => rfl
  next => rfl
  next => rfl
  next old new => rw [if_neg fun same => different (congrArg some same)]; rfl

/-- A transition leads to the new route if it leads to any. -/
theorem eq_of_desired?_transition {destination : Prefix} {old new : Option ForwardingRoute}
    {route : ForwardingRoute} (desired : (transition destination old new).desired? = some route) :
    new = some route := by
  by_cases same : old = new
  · rw [same, transition_self] at desired
    cases desired
  · rwa [desired?_transition same] at desired

/-! ### One delta -/

/-- The delta leads from one map of routes to another: it is the transition at its own prefix,
and no other prefix changes. -/
structure Carries (delta : Delta) (before after : RouteMap) : Prop where
  transition_eq :
    delta = transition delta.destination (before delta.destination) (after delta.destination)
  others : ∀ other, delta.destination ≠ other → after other = before other

variable {delta : Delta} {before middle after : RouteMap}

/-- The transition at a prefix leads to the map in which only that prefix changed. -/
theorem carries_transition {destination : Prefix}
    (beforeAddressed : Addressed destination (before destination))
    (afterAddressed : Addressed destination (after destination))
    (others : ∀ other, destination ≠ other → after other = before other) :
    (transition destination (before destination) (after destination)).Carries before after := by
  have here := destination_transition beforeAddressed afterAddressed
  exact ⟨by rw [here], by rwa [here]⟩

/-- A delta that says that nothing changes leads nowhere else. -/
theorem Carries.eq_of_isUnchanged (carries : delta.Carries before after)
    (isUnchanged : delta.isUnchanged) : after = before := by
  funext listed
  by_cases here : delta.destination = listed
  · rw [carries.transition_eq, isUnchanged_transition] at isUnchanged
    rw [← here, isUnchanged]
  · exact carries.others listed here

/-- Any other delta tells the route that its prefix has afterwards. -/
theorem Carries.desired?_eq (carries : delta.Carries before after)
    (changes : ¬ delta.isUnchanged) : delta.desired? = after delta.destination := by
  rw [carries.transition_eq, isUnchanged_transition] at changes
  rw [← desired?_transition changes, ← carries.transition_eq]

theorem Carries.addressed (carries : delta.Carries before after)
    (beforeAddressed : ∀ listed, Addressed listed (before listed)) (listed : Prefix) :
    Addressed listed (after listed) := by
  by_cases here : delta.destination = listed
  · by_cases changes : delta.isUnchanged
    · rw [carries.eq_of_isUnchanged changes]
      exact beforeAddressed listed
    · rw [← here, ← carries.desired?_eq changes]
      exact delta.addressed_desired?
  · rw [carries.others listed here]
    exact beforeAddressed listed

/-! ### Lists of deltas -/

/-- The deltas, one after the other, lead from one map of routes to another. -/
def CarryAll : List Delta → RouteMap → RouteMap → Prop
  | [], before, after => after = before
  | delta :: rest, before, after => ∃ middle, delta.Carries before middle ∧
      CarryAll rest middle after

theorem carryAll_singleton (carries : delta.Carries before after) :
    CarryAll [delta] before after :=
  ⟨after, carries, rfl⟩

theorem carryAll_append {first second : List Delta} (firstCarries : CarryAll first before middle)
    (secondCarries : CarryAll second middle after) : CarryAll (first ++ second) before after := by
  induction first generalizing before with
  | nil =>
    have same : middle = before := firstCarries
    exact same ▸ secondCarries
  | cons delta rest inductionHypothesis =>
    obtain ⟨next, carries, restCarries⟩ := firstCarries
    exact ⟨next, carries, inductionHypothesis restCarries⟩

/-- The deltas of different prefixes, each the transition from its old to its new route and left
out where nothing changes, lead from the map with the old routes to the one with the new ones. -/
theorem carryAll_transitions {after : RouteMap} (afterAddressed : ∀ listed,
      Addressed listed (after listed)) {destinations : List Prefix}
    (distinct : destinations.Nodup) {before : RouteMap}
    (beforeAddressed : ∀ listed, Addressed listed (before listed))
    (others : ∀ listed, listed ∉ destinations → after listed = before listed) :
    CarryAll ((destinations.map fun listed =>
      transition listed (before listed) (after listed)).filter (!·.isUnchanged))
      before after := by
  induction destinations generalizing before with
  | nil => exact funext fun listed => others listed List.not_mem_nil
  | cons destination rest inductionHypothesis =>
    obtain ⟨notLater, restDistinct⟩ := List.nodup_cons.1 distinct
    -- the map after the first transition differs from the next one at later prefixes only
    let next : RouteMap := fun listed =>
      if destination = listed then after listed else before listed
    have nextHere : next destination = after destination := if_pos rfl
    have nextElsewhere : ∀ listed, destination ≠ listed → next listed = before listed :=
      fun listed elsewhere => if_neg elsewhere
    have nextAddressed : ∀ listed, Addressed listed (next listed) := by
      intro listed
      by_cases here : destination = listed
      · rw [← here, nextHere]
        exact afterAddressed destination
      · rw [nextElsewhere listed here]
        exact beforeAddressed listed
    have later := inductionHypothesis restDistinct nextAddressed fun listed notRest => by
      by_cases here : destination = listed
      · rw [← here, nextHere]
      · rw [nextElsewhere listed here]
        exact others listed (by simp [notRest, Ne.symm here])
    have sameLater : (rest.map fun listed => transition listed (next listed) (after listed)) =
        rest.map fun listed => transition listed (before listed) (after listed) :=
      List.map_congr_left fun listed member => by
        rw [nextElsewhere listed fun here => notLater (here ▸ member)]
    rw [sameLater] at later
    have carries : (transition destination (before destination) (after destination)).Carries
        before next := by
      rw [← nextHere]
      exact carries_transition (beforeAddressed destination) (nextAddressed destination)
        nextElsewhere
    rw [List.map_cons, List.filter_cons]
    split
    next => exact ⟨next, carries, later⟩
    next silent =>
      have same := carries.eq_of_isUnchanged (by simpa using silent)
      rwa [same] at later

end Delta

end ControlPlane
