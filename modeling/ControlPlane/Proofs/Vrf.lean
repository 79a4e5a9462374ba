/-
This file says once what an operation on the routes of a VRF can do: it changes
settings, changes the candidates of one prefix, or refreshes all tables, any
number of times. Whatever does no more than this keeps settled tables settled,
and answers the deltas from the installed routes before it to those after it. The
second half shows that every operation on routes is of this kind.
-/

import ControlPlane.Proofs.Rib
import ControlPlane.Vrf

namespace ControlPlane

namespace Vrf

/-- The installed routes of a VRF. -/
def installed (vrf : Vrf) : RouteMap :=
  fun destination => (vrf.rib destination.family).installed destination

/-- Every table lists prefixes of its family, and every route under its own prefix. -/
def IsProper (vrf : Vrf) : Prop :=
  ∀ family, (vrf.rib family).IsProper family

/-- No prefix would be selected anew under the policy of the VRF. -/
def IsSettled (resolver : Resolver) (vrf : Vrf) : Prop :=
  ∀ family, (vrf.rib family).IsSettled resolver vrf.policy

theorem IsProper.addressed {vrf : Vrf} (isProper : vrf.IsProper) (destination : Prefix) :
    Addressed destination (vrf.installed destination) :=
  (isProper destination.family).addressed destination

theorem isProper_create (name : String) (id : UInt32) (netns : String) (attempts : Nat) :
    (create name id netns attempts).IsProper := by
  intro family
  cases family <;> exact Rib.isProper_empty _

/-- A VRF starts without routes. -/
theorem installed_create (name : String) (id : UInt32) (netns : String) (attempts : Nat)
    (destination : Prefix) : (create name id netns attempts).installed destination = none := by
  unfold installed
  cases destination.family <;> rfl

/-- Two VRFs have the same name, the same id and the same tables. -/
structure SameRoutes (first second : Vrf) : Prop where
  name_eq : second.name = first.name
  id_eq : second.id = first.id
  rib_eq : ∀ family, second.rib family = first.rib family

/-- It suffices to look at the tables of both families. -/
theorem SameRoutes.of_ribs {first second : Vrf} (name_eq : second.name = first.name)
    (id_eq : second.id = first.id) (rib4_eq : second.rib4 = first.rib4)
    (rib6_eq : second.rib6 = first.rib6) : first.SameRoutes second where
  name_eq := name_eq
  id_eq := id_eq
  rib_eq family := by
    cases family with
    | ipv4 => exact rib4_eq
    | ipv6 => exact rib6_eq

theorem SameRoutes.installed_eq {first second : Vrf} (same : first.SameRoutes second) :
    second.installed = first.installed := by
  funext destination
  rw [installed, installed, same.rib_eq]

theorem SameRoutes.isProper {first second : Vrf} (same : first.SameRoutes second)
    (isProper : first.IsProper) : second.IsProper := by
  intro family
  rw [same.rib_eq]
  exact isProper family

theorem SameRoutes.isSettled {first second : Vrf} (same : first.SameRoutes second)
    (samePolicy : second.policy = first.policy) {resolver : Resolver}
    (isSettled : first.IsSettled resolver) : second.IsSettled resolver := by
  intro family
  rw [same.rib_eq, samePolicy]
  exact isSettled family

/-! ### Tables -/

theorem rib_setRib (vrf : Vrf) (family listed : Family) (rib : Rib) :
    (vrf.setRib family rib).rib listed = if family = listed then rib else vrf.rib listed := by
  cases family <;> cases listed <;> rfl

theorem policy_setRib (vrf : Vrf) (family : Family) (rib : Rib) :
    (vrf.setRib family rib).policy = vrf.policy := by
  cases family <;> rfl

theorem id_setRib (vrf : Vrf) (family : Family) (rib : Rib) :
    (vrf.setRib family rib).id = vrf.id := by
  cases family <;> rfl

theorem name_setRib (vrf : Vrf) (family : Family) (rib : Rib) :
    (vrf.setRib family rib).name = vrf.name := by
  cases family <;> rfl

theorem statics_setRib (vrf : Vrf) (family : Family) (rib : Rib) :
    (vrf.setRib family rib).statics = vrf.statics := by
  cases family <;> rfl

theorem sync_setRib (vrf : Vrf) (family : Family) (rib : Rib) :
    (vrf.setRib family rib).sync = vrf.sync := by
  cases family <;> rfl

theorem routerId_setRib (vrf : Vrf) (family : Family) (rib : Rib) :
    (vrf.setRib family rib).routerId = vrf.routerId := by
  cases family <;> rfl

theorem rib_refresh (resolver : Resolver) (vrf : Vrf) (family : Family) :
    (vrf.refresh resolver).2.rib family = ((vrf.rib family).refresh resolver vrf.policy).2 := by
  cases family <;> rfl

/-- To remove all candidates of a VRF that has no installed route answers nothing. -/
theorem purge_fst_eq_nil {vrf : Vrf}
    (nothing : ∀ family destination, (vrf.rib family).installed destination = none) :
    vrf.purge.1 = [] := by
  have nothing4 : vrf.rib4.purge.1 = [] := Rib.purge_fst_eq_nil (nothing .ipv4)
  have nothing6 : vrf.rib6.purge.1 = [] := Rib.purge_fst_eq_nil (nothing .ipv6)
  show vrf.rib4.purge.1 ++ vrf.rib6.purge.1 = []
  rw [nothing4, nothing6, List.append_nil]

/-! ### What an operation on routes does -/

/-- The ways in which the routes of a VRF change while its next hops are resolved in one way. -/
inductive Reroutes (resolver : Resolver) : Vrf → Rerouted → Prop
  | configured {vrf changed : Vrf} (same : vrf.SameRoutes changed)
      (sameSync : changed.sync = vrf.sync)
      (sameActive : changed.routerId.active = vrf.routerId.active)
      (samePolicy : changed.policy = vrf.policy) : Reroutes resolver vrf ([], changed)
  | reselected {vrf : Vrf} {destination : Prefix} {result : Delta × Rib}
      (reselects : (vrf.rib destination.family).Reselects resolver vrf.policy destination result) :
      Reroutes resolver vrf ([result.1], vrf.setRib destination.family result.2)
  | refreshed {vrf changed : Vrf} (same : vrf.SameRoutes changed)
      (sameSync : changed.sync = vrf.sync)
      (sameActive : changed.routerId.active = vrf.routerId.active)
      (opens : vrf.policy.IsOpen → changed.policy.IsOpen) :
      Reroutes resolver vrf (changed.refresh resolver)
  | followed {vrf : Vrf} {first second : Rerouted} (reroutes : Reroutes resolver vrf first)
      (later : Reroutes resolver first.2 second) :
      Reroutes resolver vrf (first.1 ++ second.1, second.2)

namespace Reroutes

variable {resolver : Resolver} {vrf : Vrf} {rerouted : Rerouted}

theorem name_eq (reroutes : Reroutes resolver vrf rerouted) : rerouted.2.name = vrf.name := by
  induction reroutes with
  | configured same => exact same.name_eq
  | reselected => exact name_setRib _ _ _
  | refreshed same => exact same.name_eq
  | followed _ _ first second => exact second.trans first

theorem id_eq (reroutes : Reroutes resolver vrf rerouted) : rerouted.2.id = vrf.id := by
  induction reroutes with
  | configured same => exact same.id_eq
  | reselected => exact id_setRib _ _ _
  | refreshed same => exact same.id_eq
  | followed _ _ first second => exact second.trans first

/-- Operations on routes leave the programming of the kernel to others. -/
theorem sync_eq (reroutes : Reroutes resolver vrf rerouted) : rerouted.2.sync = vrf.sync := by
  induction reroutes with
  | configured _ sameSync => exact sameSync
  | reselected => exact sync_setRib _ _ _
  | refreshed _ sameSync => exact sameSync
  | followed _ _ first second => exact second.trans first

/-- Operations on routes leave the automatically selected router-id alone. -/
theorem active_eq (reroutes : Reroutes resolver vrf rerouted) :
    rerouted.2.routerId.active = vrf.routerId.active := by
  induction reroutes with
  | configured _ _ sameActive => exact sameActive
  | reselected => exact congrArg RouterIdSelection.active (routerId_setRib _ _ _)
  | refreshed _ _ sameActive => exact sameActive
  | followed _ _ first second => exact second.trans first

theorem isProper (reroutes : Reroutes resolver vrf rerouted) (isProper : vrf.IsProper) :
    rerouted.2.IsProper := by
  induction reroutes with
  | configured same => exact same.isProper isProper
  | reselected reselects =>
    intro family
    rw [rib_setRib]
    split
    next here =>
      subst here
      exact reselects.isProper (isProper _)
    next => exact isProper family
  | refreshed same =>
    intro family
    rw [rib_refresh]
    exact Rib.isProper_refresh _ _ (same.isProper isProper family)
  | followed _ _ first second => exact second (first isProper)

/-- An operation brings in no limit that takes all paths away. -/
theorem isOpen (reroutes : Reroutes resolver vrf rerouted) (isOpen : vrf.policy.IsOpen) :
    rerouted.2.policy.IsOpen := by
  induction reroutes with
  | configured _ _ _ samePolicy => exact samePolicy ▸ isOpen
  | @reselected vrf destination result =>
    have same : (vrf.setRib destination.family result.2).policy = vrf.policy :=
      policy_setRib _ _ _
    exact same ▸ isOpen
  | refreshed _ _ _ opens => exact opens isOpen
  | followed _ _ first second => exact second (first isOpen)

/-- An operation keeps the tables settled under the resolver it selects with. -/
theorem isSettled (reroutes : Reroutes resolver vrf rerouted) (isSettled : vrf.IsSettled resolver) :
    rerouted.2.IsSettled resolver := by
  induction reroutes with
  | configured same _ _ samePolicy => exact same.isSettled samePolicy isSettled
  | reselected reselects =>
    intro family
    rw [rib_setRib, policy_setRib]
    split
    · exact reselects.isSettled (isSettled _)
    · exact isSettled family
  | refreshed =>
    intro family
    rw [rib_refresh]
    exact Rib.isSettled_refresh _ _ _
  | followed _ _ first second => exact second (first isSettled)

end Reroutes

/-- A refresh settles the tables, whatever they were selected with before. -/
theorem isSettled_refresh (resolver : Resolver) (vrf : Vrf) :
    (vrf.refresh resolver).2.IsSettled resolver := by
  intro family
  rw [rib_refresh]
  exact Rib.isSettled_refresh _ _ _

/-- A change of one table at one prefix changes the installed route of that prefix only. -/
theorem carries_setRib {resolver : Resolver} {vrf : Vrf} {destination : Prefix}
    {result : Delta × Rib}
    (reselects : (vrf.rib destination.family).Reselects resolver vrf.policy destination result)
    (isProper : vrf.IsProper) :
    result.1.Carries vrf.installed (vrf.setRib destination.family result.2).installed := by
  have here : (vrf.setRib destination.family result.2).installed destination =
      result.2.installed destination := by
    rw [installed, rib_setRib, if_pos rfl]
  have carries := reselects.carries (isProper destination.family).addressed
  have belongs : result.1.destination = destination := by
    rw [reselects.delta_eq]
    exact Delta.destination_transition (isProper.addressed destination)
      ((reselects.isProper (isProper destination.family)).addressed destination)
  refine ⟨?_, fun other elsewhere => ?_⟩
  · rw [belongs, here]
    exact reselects.delta_eq
  · rw [installed, installed, rib_setRib]
    split
    next same =>
      rw [carries.others other elsewhere, same]
    next => rfl

/-- The prefixes of both tables. -/
def destinations (vrf : Vrf) : List Prefix :=
  vrf.rib4.sets.keys ++ vrf.rib6.sets.keys

theorem family_of_mem_keys {vrf : Vrf} (isProper : vrf.IsProper) (family : Family)
    {destination : Prefix} (listed : destination ∈ (vrf.rib family).sets.keys) :
    destination.family = family := by
  obtain ⟨set, found⟩ := SortedMap.mem_keys_iff.1 listed
  exact (isProper family).family_eq destination set found

theorem nodup_destinations {vrf : Vrf} (isProper : vrf.IsProper) : vrf.destinations.Nodup := by
  refine List.nodup_append.2 ⟨SortedMap.nodup_keys _, SortedMap.nodup_keys _, ?_⟩
  rintro first inFirst second inSecond rfl
  have isFirst := family_of_mem_keys isProper .ipv4 inFirst
  have isSecond := family_of_mem_keys isProper .ipv6 inSecond
  exact Family.noConfusion (isFirst.symm.trans isSecond)

theorem mem_destinations {vrf : Vrf} {destination : Prefix}
    (listed : destination ∈ (vrf.rib destination.family).sets.keys) :
    destination ∈ vrf.destinations := by
  cases same : destination.family with
  | ipv4 => exact List.mem_append_left _ (by rwa [same] at listed)
  | ipv6 => exact List.mem_append_right _ (by rwa [same] at listed)

theorem installed_refresh (resolver : Resolver) (vrf : Vrf) (destination : Prefix) :
    (vrf.refresh resolver).2.installed destination =
      ((vrf.rib destination.family).refresh resolver vrf.policy).2.installed destination := by
  rw [installed, rib_refresh]

/-- A refresh answers the transitions of the prefixes whose route changed. -/
theorem refresh_fst (resolver : Resolver) {vrf : Vrf} (isProper : vrf.IsProper) :
    (vrf.refresh resolver).1 = (vrf.destinations.map fun destination =>
      Delta.transition destination (vrf.installed destination)
        ((vrf.refresh resolver).2.installed destination)).filter (!·.isUnchanged) := by
  have ofFamily : ∀ family, ((vrf.rib family).refresh resolver vrf.policy).1 =
      ((vrf.rib family).sets.keys.map fun destination =>
        Delta.transition destination (vrf.installed destination)
          ((vrf.refresh resolver).2.installed destination)).filter (!·.isUnchanged) := by
    intro family
    rw [Rib.refresh_fst]
    congr 1
    refine List.map_congr_left fun destination listed => ?_
    have here := family_of_mem_keys isProper family listed
    rw [installed_refresh, installed, here]
  rw [destinations, List.map_append, List.filter_append]
  exact congr (congrArg (· ++ ·) (ofFamily .ipv4)) (ofFamily .ipv6)

theorem carryAll_refresh (resolver : Resolver) {vrf : Vrf} (isProper : vrf.IsProper) :
    Delta.CarryAll (vrf.refresh resolver).1 vrf.installed (vrf.refresh resolver).2.installed := by
  have refreshedProper : (vrf.refresh resolver).2.IsProper :=
    (Reroutes.refreshed ⟨rfl, rfl, fun _ => rfl⟩ rfl rfl fun isOpen => isOpen).isProper isProper
  rw [refresh_fst resolver isProper]
  refine Delta.carryAll_transitions refreshedProper.addressed (nodup_destinations isProper)
    isProper.addressed fun destination absent => ?_
  have missing : (vrf.rib destination.family).find? destination = none :=
    SortedMap.find?_eq_none_of_notMem fun listed => absent (mem_destinations listed)
  rw [installed_refresh, installed, Rib.installed, Rib.installed, Rib.find?_refresh, missing,
    Option.map_none]

/-- The deltas of an operation lead from the installed routes before it to those after it. -/
theorem Reroutes.carryAll {resolver : Resolver} {vrf : Vrf} {rerouted : Rerouted}
    (reroutes : Reroutes resolver vrf rerouted) (isProper : vrf.IsProper) :
    Delta.CarryAll rerouted.1 vrf.installed rerouted.2.installed := by
  induction reroutes with
  | configured same => exact same.installed_eq
  | reselected reselects => exact Delta.carryAll_singleton (carries_setRib reselects isProper)
  | refreshed same =>
    rw [← same.installed_eq]
    exact carryAll_refresh resolver (same.isProper isProper)
  | followed reroutes _ first second =>
    exact Delta.carryAll_append (first isProper) (second (reroutes.isProper isProper))

/-! ### The operations on routes -/

section Operations

variable {resolver : Resolver} {vrf : Vrf}

theorem reroutes_self (resolver : Resolver) (vrf : Vrf) : Reroutes resolver vrf ([], vrf) :=
  .configured ⟨rfl, rfl, fun _ => rfl⟩ rfl rfl rfl

/-- An operation on one prefix of the tables. -/
theorem reroutes_onRib (destination : Prefix) {operate : SelectionPolicy → Rib → Delta × Rib}
    (reselects : ∀ policy rib, Rib.Reselects resolver policy destination rib (operate policy rib)) :
    Reroutes resolver vrf (vrf.onRib destination.family operate) :=
  .reselected (reselects vrf.policy (vrf.rib destination.family))

/-- An operation after new static routes were taken, which leaves selection alone. -/
theorem reroutes_withStatics (statics : StaticTable) {rerouted : Rerouted}
    (reroutes : Reroutes resolver { vrf with statics } rerouted) :
    Reroutes resolver vrf rerouted := by
  have same : vrf.SameRoutes { vrf with statics } := .of_ribs rfl rfl rfl rfl
  exact .followed (.configured same rfl rfl rfl) reroutes

theorem reroutes_inTurn {Item : Type} {operate : Item → Vrf → Rerouted}
    (each : ∀ item vrf, Reroutes resolver vrf (operate item vrf)) (items : List Item) (vrf : Vrf) :
    Reroutes resolver vrf (inTurn operate items vrf) := by
  induction items generalizing vrf with
  | nil => exact reroutes_self resolver vrf
  | cons item rest inductionHypothesis =>
    exact .followed (each item vrf) (inductionHypothesis (operate item vrf).2)

theorem reroutes_announce {candidate : Candidate} {rerouted : Rerouted}
    (announced : vrf.announce resolver candidate = .ok rerouted) :
    Reroutes resolver vrf rerouted := by
  unfold announce at announced
  split at announced
  · cases announced
  · cases announced
    exact reroutes_onRib candidate.destination fun policy rib =>
      Rib.reselects_insert resolver policy rib
        { candidate with
          distance := (vrf.configuredDistance? candidate).getD candidate.distance }

/-- A candidate is refused only if it belongs to another VRF. -/
theorem exists_announce (resolver : Resolver) {vrf : Vrf} {candidate : Candidate}
    (own : candidate.vrf = vrf.id) : ∃ rerouted, vrf.announce resolver candidate = .ok rerouted :=
  ⟨_, if_neg (not_not_intro own)⟩

theorem reroutes_announceAll {candidates : List Candidate} {rerouted : Rerouted}
    (announced : vrf.announceAll resolver candidates = .ok rerouted) :
    Reroutes resolver vrf rerouted := by
  induction candidates generalizing vrf rerouted with
  | nil =>
    cases announced
    exact reroutes_self resolver vrf
  | cons candidate rest inductionHypothesis =>
    obtain ⟨one, first, announced⟩ := exists_of_bind_eq_ok announced
    obtain ⟨others, second, announced⟩ := exists_of_bind_eq_ok announced
    cases announced
    exact .followed (reroutes_announce first) (inductionHypothesis second)

theorem exists_announceAll (resolver : Resolver) {vrf : Vrf} {candidates : List Candidate}
    (own : ∀ candidate ∈ candidates, candidate.vrf = vrf.id) :
    ∃ rerouted, vrf.announceAll resolver candidates = .ok rerouted := by
  induction candidates generalizing vrf with
  | nil => exact ⟨_, rfl⟩
  | cons candidate rest inductionHypothesis =>
    obtain ⟨one, first⟩ := exists_announce resolver (own candidate List.mem_cons_self)
    have ownLater : ∀ later ∈ rest, later.vrf = one.2.id := fun later member => by
      rw [(reroutes_announce first).id_eq]
      exact own later (List.mem_cons_of_mem _ member)
    obtain ⟨others, second⟩ := inductionHypothesis ownLater
    simp only [announceAll, first, bind, Except.bind, second]
    exact ⟨_, rfl⟩

theorem reroutes_withdraw (destination : Prefix) (origin : Origin) :
    Reroutes resolver vrf (vrf.withdraw resolver destination origin) :=
  reroutes_onRib destination fun policy rib =>
    Rib.reselects_removeWhere resolver policy rib destination _

theorem reroutes_withdrawInstance (destination : Prefix) (origin : Origin) (inst : UInt32) :
    Reroutes resolver vrf (vrf.withdrawInstance resolver destination origin inst) :=
  reroutes_onRib destination fun policy rib =>
    Rib.reselects_removeWhere resolver policy rib destination _

theorem reroutes_withdrawConnected (index : UInt32) :
    Reroutes resolver vrf (vrf.withdrawConnected resolver index) :=
  reroutes_inTurn (fun _ _ => reroutes_withdrawInstance _ _ _) _ vrf

theorem reroutes_refreshStatic (destination : Prefix) (vrf : Vrf) :
    Reroutes resolver vrf (refreshStatic resolver destination vrf) :=
  reroutes_onRib destination fun policy rib =>
    Rib.reselects_replaceOrigin resolver policy rib destination _ _

theorem reroutes_addStatic (route : StaticRoute) (vrf : Vrf) :
    Reroutes resolver vrf (addStatic resolver route vrf) :=
  reroutes_withStatics (vrf.statics.add route).2 (reroutes_refreshStatic _ _)

theorem reroutes_removeStatic {route : StaticRoute} {rerouted : Rerouted}
    (removed : removeStatic resolver route vrf = .ok rerouted) :
    Reroutes resolver vrf rerouted := by
  obtain ⟨result, _, removed⟩ := exists_of_bind_eq_ok removed
  cases removed
  exact reroutes_withStatics result.2 (reroutes_refreshStatic _ _)

theorem reroutes_purgeStatics (name : String) :
    Reroutes resolver vrf (purgeStatics resolver name vrf) :=
  reroutes_withStatics (vrf.statics.purge name (vrf.boundStatics name)).2
    (reroutes_inTurn reroutes_refreshStatic _ _)

end Operations

end Vrf

end ControlPlane
