/-
This file compares a VRF with itself after events on interfaces. The selection
reads nothing but the candidates, the policy and how next hops are resolved. The
first two are what they were unless an address or a whole interface comes or goes,
but for one case: static next hops are dropped with an interface that stops
routing. Two VRFs whose tables are settled over the same interfaces are therefore
equal wherever their candidates are, and so are their forwarding tables if nothing
is pending.
-/

import ControlPlane.Proofs.Router.References

namespace ControlPlane

/-! ### What an event leaves to the selection -/

namespace Vrf

/-- The selection finds the same candidates and the same policy in two VRFs. -/
structure SameBasis (first second : Vrf) : Prop where
  contents : first.SameContents second
  policy_eq : second.policy = first.policy

/-- The second VRF is the first one without some of its static next hops. Prefixes that keep
theirs have the same candidates, and candidates of other origins stay for all prefixes. -/
structure LosesStatics (first second : Vrf) : Prop where
  policy_eq : second.policy = first.policy
  find?_hopsOf : ∀ destination nextHop distance,
    (second.statics.hopsOf destination).find? nextHop = some distance →
      (first.statics.hopsOf destination).find? nextHop = some distance
  contents_eq : ∀ destination,
    second.statics.hopsOf destination = first.statics.hopsOf destination → ∀ family,
      (second.rib family).contents.find? destination =
        (first.rib family).contents.find? destination
  entryAt?_eq : ∀ destination key, key.1 ≠ .static →
    second.entryAt? destination key = first.entryAt? destination key

section Bases

variable {first second third : Vrf}

theorem SameBasis.refl (vrf : Vrf) : vrf.SameBasis vrf :=
  ⟨.refl vrf, rfl⟩

theorem SameBasis.trans (left : first.SameBasis second) (right : second.SameBasis third) :
    first.SameBasis third :=
  ⟨left.contents.trans right.contents, right.policy_eq.trans left.policy_eq⟩

theorem SameBasis.losesStatics (same : first.SameBasis second) : first.LosesStatics second where
  policy_eq := same.policy_eq
  find?_hopsOf destination nextHop distance found := by rwa [same.contents.statics_eq] at found
  contents_eq destination _ family := by rw [same.contents.contents_eq]
  entryAt?_eq destination key _ := same.contents.entryAt?_eq destination key

theorem LosesStatics.trans (left : first.LosesStatics second) (right : second.LosesStatics third) :
    first.LosesStatics third where
  policy_eq := right.policy_eq.trans left.policy_eq
  find?_hopsOf destination nextHop distance found :=
    left.find?_hopsOf destination nextHop distance
      (right.find?_hopsOf destination nextHop distance found)
  contents_eq destination same family := by
    -- what is there in the end was there all the time, since static next hops are only lost
    have sameBetween : second.statics.hopsOf destination = first.statics.hopsOf destination := by
      refine SortedMap.ext_find? fun nextHop => Option.ext fun distance => ⟨?_, fun found => ?_⟩
      · exact left.find?_hopsOf destination nextHop distance
      · rw [← same] at found
        exact right.find?_hopsOf destination nextHop distance found
    rw [right.contents_eq destination (same.trans sameBetween.symm) family,
      left.contents_eq destination sameBetween family]
  entryAt?_eq destination key other :=
    (right.entryAt?_eq destination key other).trans (left.entryAt?_eq destination key other)

end Bases

/-- An operation on a prefix leaves the candidates of all other prefixes alone. -/
theorem contents_onRib_of_ne {resolver : Resolver} {vrf : Vrf} {own destination : Prefix}
    {operate : SelectionPolicy → Rib → Delta × Rib}
    (reselects : ∀ policy rib, Rib.Reselects resolver policy own rib (operate policy rib))
    (elsewhere : own ≠ destination) (family : Family) :
    ((vrf.onRib own.family operate).2.rib family).contents.find? destination =
      (vrf.rib family).contents.find? destination := by
  show ((vrf.setRib own.family _).rib family).contents.find? destination = _
  rw [rib_setRib]
  split
  next here =>
    subst here
    rw [Rib.find?_contents, (reselects _ _).others destination elsewhere, ← Rib.find?_contents]
  next => rfl

/-- Two VRFs have the same policy and static routes, and the same candidates for all prefixes but
some. -/
structure SameOutside (prefixes : List Prefix) (first second : Vrf) : Prop where
  policy_eq : second.policy = first.policy
  statics_eq : second.statics = first.statics
  contents_eq : ∀ destination, destination ∉ prefixes → ∀ family,
    (second.rib family).contents.find? destination = (first.rib family).contents.find? destination

theorem sameOutside_inTurn_refreshStatic (resolver : Resolver) (prefixes : List Prefix)
    (vrf : Vrf) : SameOutside prefixes vrf (inTurn (refreshStatic resolver) prefixes vrf).2 := by
  induction prefixes generalizing vrf with
  | nil => exact ⟨rfl, rfl, fun _ _ _ => rfl⟩
  | cons own rest inductionHypothesis =>
    have later := inductionHypothesis (refreshStatic resolver own vrf).2
    refine ⟨later.policy_eq.trans (policy_setRib _ _ _),
      later.statics_eq.trans (statics_onRib _ _ _), fun destination absent family => ?_⟩
    rw [List.mem_cons, not_or] at absent
    refine (later.contents_eq destination absent.2 family).trans ?_
    exact contents_onRib_of_ne (fun policy rib =>
      Rib.reselects_replaceOrigin resolver policy rib own _ _) (Ne.symm absent.1) family

theorem losesStatics_purgeStatics (resolver : Resolver) (name : String) (vrf : Vrf) :
    vrf.LosesStatics (vrf.purgeStatics resolver name).2 := by
  let purged := vrf.statics.purge name (vrf.boundStatics name)
  have refreshed : SameOutside purged.1 { vrf with statics := purged.2 }
      (vrf.purgeStatics resolver name).2 :=
    sameOutside_inTurn_refreshStatic resolver purged.1 _
  have edits : Edits (fun origin => origin = .static) vrf (vrf.purgeStatics resolver name).2 :=
    edits_purgeStatics (by exact rfl) name vrf
  refine ⟨refreshed.policy_eq, fun destination nextHop distance found => ?_,
    fun destination sameHops family => ?_, fun destination key other =>
      edits.entryAt?_eq other destination⟩
  · rw [refreshed.statics_eq, StaticTable.hopsOf_purge, SortedMap.find?_filter] at found
    exact (Option.filter_eq_some_iff.1 found).1
  · refine (refreshed.contents_eq destination (fun affected => ?_) family).trans ?_
    · rw [refreshed.statics_eq] at sameHops
      exact StaticTable.hopsOf_purge_ne_of_mem name _ affected sameHops
    · cases family <;> rfl

namespace Follows

variable {interfaces : InterfaceTable} {changes : List InterfaceChange} {vrf after : Vrf}

/-- An interface that becomes usable or unusable leaves all candidates as they are. -/
theorem sameBasis (follows : Follows interfaces changes vrf after)
    (ofUse : ∀ change ∈ changes, change.IsOfUse) : vrf.SameBasis after := by
  refine follows.keeps vrf.SameBasis (fun first second programmed same => ?_)
    (fun change member first rerouted answered same => ?_) (.refl vrf)
  · exact same.trans ⟨sameContents_of_programmed programmed, by rw [programmed]⟩
  · obtain ⟨now, what⟩ := ofUse change member
    unfold RouterM.reroute at answered
    rw [what] at answered
    cases answered
    exact same

/-- An interface that stops routing takes static next hops with it at most. -/
theorem losesStatics (follows : Follows interfaces changes vrf after)
    (silent : ∀ change ∈ changes, change.IsSilent) : vrf.LosesStatics after := by
  refine follows.keeps vrf.LosesStatics (fun first second programmed loses => ?_)
    (fun change member first rerouted answered loses => ?_) (SameBasis.refl vrf).losesStatics
  · have same : first.SameBasis second :=
      ⟨sameContents_of_programmed programmed, by rw [programmed]⟩
    exact loses.trans same.losesStatics
  · have isSilent := silent change member
    unfold RouterM.reroute at answered
    unfold InterfaceChange.IsSilent at isSilent
    cases what : change.what with
    | usable now =>
      rw [what] at answered
      cases answered
      exact loses
    | routingDisabled =>
      rw [what] at answered
      cases answered
      exact loses.trans (losesStatics_purgeStatics _ change.name first)
    | addressAdded | addressRemoved | attached | detached =>
      rw [what] at isSilent
      exact absurd rfl isSilent

end Follows

/-- However changes of a kind are followed, a VRF stays related to what it was before. -/
structure Bounds (allowed : InterfaceChange → Prop) (relates : Vrf → Vrf → Prop) : Prop where
  follows : ∀ {interfaces changes first second}, Follows interfaces changes first second →
    (∀ change ∈ changes, allowed change) → relates first second
  settles : ∀ {first second}, SameBasis first second → relates first second
  trans : ∀ {first second third}, relates first second → relates second third →
    relates first third

theorem bounds_sameBasis : Bounds InterfaceChange.IsOfUse SameBasis :=
  ⟨Follows.sameBasis, fun same => same, SameBasis.trans⟩

theorem bounds_losesStatics : Bounds InterfaceChange.IsSilent LosesStatics :=
  ⟨Follows.losesStatics, SameBasis.losesStatics, LosesStatics.trans⟩

/-! ### Settled tables -/

/-- The tables of a VRF are settled, and it forwards just what it installed. -/
structure IsAtRest (resolver : Resolver) (vrf : Vrf) : Prop where
  isSettled : vrf.IsSettled resolver
  forwards : ∀ destination, vrf.sync.fib.find? destination = vrf.installed destination

/-- The next hops of the candidate of a prefix with a key, as they were resolved last. -/
def hopsAt? (vrf : Vrf) (destination : Prefix) (key : CandidateKey) : Option (List Hop) :=
  (((vrf.rib destination.family).setAt destination).candidates.find? key).map Candidate.hops

/-- Two VRFs have the same tables, static routes and forwarding routes. -/
structure SameRouting (first second : Vrf) : Prop where
  rib_eq : ∀ family, second.rib family = first.rib family
  statics_eq : second.statics = first.statics
  routes_eq : second.sync.fib.routes = first.sync.fib.routes

/-- The second VRF may have lost static next hops. Prefixes that kept theirs have the same
candidates, the same installed route and the same forwarding route, and candidates of other
origins have the same next hops for all prefixes. -/
structure SameUnlessPurged (first second : Vrf) : Prop where
  find?_hopsOf : ∀ destination nextHop distance,
    (second.statics.hopsOf destination).find? nextHop = some distance →
      (first.statics.hopsOf destination).find? nextHop = some distance
  find?_rib : ∀ destination,
    second.statics.hopsOf destination = first.statics.hopsOf destination →
      ∀ family, (second.rib family).find? destination = (first.rib family).find? destination
  find?_fib : ∀ destination,
    second.statics.hopsOf destination = first.statics.hopsOf destination →
      second.sync.fib.find? destination = first.sync.fib.find? destination
  hopsAt?_eq : ∀ destination key, key.1 ≠ .static →
    second.hopsAt? destination key = first.hopsAt? destination key

namespace IsAtRest

variable {resolver : Resolver} {first second vrf : Vrf}

/-- In settled tables all next hops are resolved. -/
theorem hopsAt?_eq (isAtRest : vrf.IsAtRest resolver) (destination : Prefix) (key : CandidateKey) :
    vrf.hopsAt? destination key =
      (vrf.entryAt? destination key).map fun candidate => (candidate.refresh resolver).hops := by
  rw [hopsAt?, entryAt?, Rib.entryAt?_eq]
  cases found : (vrf.rib destination.family).find? destination with
  | none =>
    rw [Rib.setAt, found]
    rfl
  | some set =>
    rw [Rib.setAt, found, Option.getD_some]
    cases listed : set.candidates.find? key with
    | none => rfl
    | some candidate =>
      have resolved := (isAtRest.isSettled destination.family destination set found).hops_eq listed
      rw [Option.map_some, Option.map_some, Option.map_some, Candidate.refresh_erased,
        Candidate.refresh, ← resolved]

/-- Settled tables agree where the candidates do. -/
theorem find?_rib_eq (firstAtRest : first.IsAtRest resolver)
    (secondAtRest : second.IsAtRest resolver) (samePolicy : second.policy = first.policy)
    {family : Family} {destination : Prefix}
    (same : (second.rib family).contents.find? destination =
      (first.rib family).contents.find? destination) :
    (second.rib family).find? destination = (first.rib family).find? destination := by
  have firstSettled := firstAtRest.isSettled family
  have secondSettled := secondAtRest.isSettled family
  rw [samePolicy] at secondSettled
  exact secondSettled.find?_congr firstSettled same

/-- VRFs forward alike where they install alike. -/
theorem find?_fib_eq (firstAtRest : first.IsAtRest resolver)
    (secondAtRest : second.IsAtRest resolver) {destination : Prefix}
    (same : (second.rib destination.family).find? destination =
      (first.rib destination.family).find? destination) :
    second.sync.fib.find? destination = first.sync.fib.find? destination := by
  rw [firstAtRest.forwards, secondAtRest.forwards, installed, installed, Rib.installed,
    Rib.installed, same]

theorem sameUnlessPurged (firstAtRest : first.IsAtRest resolver)
    (secondAtRest : second.IsAtRest resolver) (loses : first.LosesStatics second) :
    first.SameUnlessPurged second := by
  have sameSets : ∀ destination,
      second.statics.hopsOf destination = first.statics.hopsOf destination → ∀ family,
        (second.rib family).find? destination = (first.rib family).find? destination :=
    fun destination sameHops family => firstAtRest.find?_rib_eq secondAtRest loses.policy_eq
      (loses.contents_eq destination sameHops family)
  refine ⟨loses.find?_hopsOf, sameSets, fun destination sameHops => ?_,
    fun destination key other => ?_⟩
  · exact firstAtRest.find?_fib_eq secondAtRest (sameSets destination sameHops _)
  · rw [firstAtRest.hopsAt?_eq, secondAtRest.hopsAt?_eq, loses.entryAt?_eq destination key other]

theorem sameRouting (firstAtRest : first.IsAtRest resolver)
    (secondAtRest : second.IsAtRest resolver) (same : first.SameBasis second) :
    first.SameRouting second := by
  have sameSets : ∀ family destination,
      (second.rib family).find? destination = (first.rib family).find? destination :=
    fun family destination => firstAtRest.find?_rib_eq secondAtRest same.policy_eq
      (congrArg (SortedMap.find? · destination) (same.contents.contents_eq family))
  refine ⟨fun family => ?_, same.contents.statics_eq, SortedMap.ext_find? fun destination => ?_⟩
  · exact Rib.ext_find? (same.contents.family_eq family) (sameSets family)
  · exact firstAtRest.find?_fib_eq secondAtRest (sameSets _ destination)

end IsAtRest

end Vrf

end ControlPlane
