/-
This file proves that the selection of a router is always at a fixpoint. In every
router that can be reached, selecting a route of a VRF anew, with the interfaces
and the policy as they are, answers no change and keeps every mark, every
resolved next hop and the installed route. Operations on routes keep what they
select settled; an event on an interface unsettles the VRFs that its changes name
at most, and all of these are refreshed before it ends.
-/

import ControlPlane.Proofs.Router.Reachable

namespace ControlPlane

variable {Kernel : Type} [KernelBackend Kernel]

namespace Session

variable {session : Session Kernel} {id listed : UInt32}

/-- The routes of a VRF, if it exists, would not be selected anew. -/
def SettledAt (session : Session Kernel) (id : UInt32) : Prop :=
  ∀ vrf, session.find? id = some vrf → vrf.IsSettled (session.state.interfaces.resolver id)

omit [KernelBackend Kernel] in
theorem settledAt_stored {vrf : Vrf} (settledAt : session.SettledAt listed)
    (isSettled : id = listed → vrf.IsSettled (session.state.interfaces.resolver listed)) :
    (session.stored id vrf).SettledAt listed := by
  intro after isFound
  rw [find?_stored] at isFound
  split at isFound
  next here =>
    obtain ⟨_, _, rfl⟩ := Option.map_eq_some_iff.1 isFound
    exact isSettled here
  next => exact settledAt after isFound

/-- A refresh settles a VRF. -/
theorem isSettled_refreshedVrf (vrf : Vrf) (session : Session Kernel) :
    (session.refreshedVrf vrf).IsSettled (session.state.interfaces.resolver vrf.id) :=
  (sameRoutes_refreshedVrf vrf session).isSettled rfl (Vrf.isSettled_refresh _ vrf)

theorem settledAt_settle {rerouted : Rerouted} {vrf : Vrf} (found : session.find? id = some vrf)
    (reroutes : Vrf.Reroutes (session.state.interfaces.resolver id) vrf rerouted)
    (settledAt : session.SettledAt listed) : (session.settle id rerouted).SettledAt listed := by
  intro after isFound
  rw [find?_settle] at isFound
  split at isFound
  next here =>
    subst here
    rw [found] at isFound
    cases isFound
    exact (sameRoutes_programmedVrf rerouted session).isSettled rfl
      (reroutes.isSettled (settledAt vrf found))
  next => exact settledAt after isFound

/-- What happens to another VRF does not matter. -/
theorem settledAt_settle_of_ne {rerouted : Rerouted} (different : id ≠ listed)
    (settledAt : session.SettledAt listed) : (session.settle id rerouted).SettledAt listed := by
  intro after isFound
  rw [find?_settle, if_neg different] at isFound
  exact settledAt after isFound

theorem settledAt_settleRefreshed {vrf : Vrf} (own : vrf.id = id)
    (settledAt : id = listed ∨ session.SettledAt listed) :
    (session.settleRefreshed id vrf).SettledAt listed := by
  intro after isFound
  rw [find?_settleRefreshed] at isFound
  split at isFound
  next here =>
    obtain ⟨_, _, rfl⟩ := Option.map_eq_some_iff.1 isFound
    rw [← here, ← own]
    exact isSettled_refreshedVrf vrf session
  next different => exact (settledAt.resolve_left different) after isFound

/-- A VRF that was refreshed is settled, whatever settings it took before. -/
theorem settledAt_resettledAt {settings : Vrf → Vrf} (sameId : ∀ vrf, (settings vrf).id = vrf.id)
    (isKeyed : session.state.vrfs.IsKeyed) (settledAt : id = listed ∨ session.SettledAt listed) :
    (session.resettledAt settings id).SettledAt listed := by
  unfold resettledAt
  split
  next missing =>
    rcases settledAt with rfl | settledAt
    · intro vrf found
      rw [missing] at found
      cases found
    · exact settledAt
  next vrf found =>
    exact settledAt_settleRefreshed ((sameId vrf).trans (isKeyed id vrf found)) settledAt

/-- Programming pending prefixes again selects nothing. -/
theorem settledAt_resyncedAt (settledAt : session.SettledAt listed) :
    (session.resyncedAt id).SettledAt listed := by
  unfold resyncedAt
  split
  next => exact settledAt
  next vrf found =>
    refine settledAt_stored settledAt fun here => ?_
    have same : vrf.SameRoutes { vrf with sync := (session.retrying vrf).sync } :=
      .of_ribs rfl rfl rfl rfl
    exact same.isSettled rfl (settledAt vrf (here ▸ found))

/-- Refreshing VRFs settles them, and keeps the others settled. -/
theorem settledAt_foldl_refreshedAt {ids : List UInt32} (isKeyed : session.state.vrfs.IsKeyed)
    (settledAt : listed ∈ ids ∨ session.SettledAt listed) :
    (ids.foldl refreshedAt session).SettledAt listed := by
  induction ids generalizing session with
  | nil => exact settledAt.resolve_left List.not_mem_nil
  | cons id rest inductionHypothesis =>
    have refreshes : id = listed ∨ session.SettledAt listed →
        (session.refreshedAt id).SettledAt listed :=
      settledAt_resettledAt (fun _ => rfl) isKeyed
    refine inductionHypothesis (isKeyed_resettledAt (fun _ => rfl) isKeyed id) ?_
    rcases settledAt with member | settledAt
    · rcases List.mem_cons.1 member with rfl | inRest
      · exact Or.inr (refreshes (Or.inl rfl))
      · exact Or.inl inRest
    · exact Or.inr (refreshes (Or.inr settledAt))

/-- After an event on an interface was followed, all VRFs are settled over the new interfaces:
those that a change names because they were refreshed, and the others because they resolve their
next hops as before. -/
theorem settledAt_follow {after : InterfaceTable} {changes : List InterfaceChange}
    (isKeyed : session.state.vrfs.IsKeyed)
    (accounts : InterfaceTable.Accounts changes session.state.interfaces after)
    (settledAt : ∀ id, session.SettledAt id) (listed : UInt32) :
    ((session.withInterfaces after).follow changes).SettledAt listed := by
  have mem_concerned : ∀ id, id ∈ concerned changes ↔ id ∈ changes.map InterfaceChange.vrf :=
    fun _ => SortedSet.mem_keys_ofList
  obtain ⟨kept, keptKeyed⟩ := foldl_followed_keeps (session.withInterfaces after) isKeyed
    accounts.attributed
    (fun next => ∀ id, id ∉ concerned changes → next.SettledAt id)
    (fun id unconcerned vrf found => by
      rw [mem_concerned] at unconcerned
      have resolves := InterfaceTable.resolver_congr (accounts.forwarding_eq id unconcerned)
      show vrf.IsSettled (after.resolver id)
      rw [resolves]
      exact settledAt id vrf found)
    (fun _ _ kept => kept)
    fun change member next vrf rerouted _ kept _ _ _ id unconcerned => by
      refine settledAt_settle_of_ne (fun same => unconcerned ?_) (kept id unconcerned)
      rw [mem_concerned]
      exact same ▸ List.mem_map_of_mem member
  refine settledAt_foldl_refreshedAt keptKeyed ?_
  exact (Decidable.em (listed ∈ concerned changes)).imp_right (kept listed)

/-- A VRF that took a configuration is settled. -/
theorem isSettled_configuredVrf (config : VrfConfig) (vrf : Vrf) (session : Session Kernel) :
    (session.configuredVrf config vrf).IsSettled (session.state.interfaces.resolver vrf.id) := by
  have sameId : (session.programmedVrf (session.configuring config vrf)).id = vrf.id :=
    (reroutes_configuring config vrf session).id_eq
  rw [← sameId]
  exact isSettled_refreshedVrf _ (session.programmed (session.configuring config vrf))

end Session

/-! ### The invariant -/

/-- No route of any VRF would be selected anew. -/
def AllSettled (state : RoutingState Kernel) : Prop :=
  ∀ id vrf, state.vrfs.byId.find? id = some vrf → vrf.IsSettled (state.interfaces.resolver id)

open Session

theorem Changes.allSettled {before after : Session Kernel} {action : Action}
    (changes : Changes before action after) (isKeyed : before.state.IsKeyed)
    (allSettled : AllSettled before.state) : AllSettled after.state := by
  have settledAt : ∀ id, before.SettledAt id := fun id => allSettled id
  cases changes with
  | @rerouted operation id vrf events rerouted found performs =>
    intro listed
    have recorded : (before.recorded events).SettledAt listed := settledAt listed
    exact settledAt_settle found performs.reroutes recorded
  | followed performs =>
    intro listed
    exact settledAt_follow isKeyed.vrfs (performs.accounts isKeyed.interfaces) settledAt listed
  | @vrfAdded config kernels idFree nameFree opened accepts =>
    intro listed vrf found
    have isListed := (find?_vrfAdded config (before.withKernels kernels) listed).symm.trans found
    split at isListed
    next here =>
      rw [← here, ← Option.some.inj isListed]
      exact isSettled_configuredVrf config (before.freshVrf config) (before.withKernels kernels)
    next => exact settledAt listed vrf isListed
  | vrfRemoved =>
    intro listed vrf found
    have isListed := (find?_vrfRemoved _ _ _ before listed).symm.trans found
    split at isListed
    · cases isListed
    · exact settledAt listed vrf isListed
  | @limited config checked =>
    have sameId : ∀ vrf : Vrf, (vrf.setMaxPaths config.maxPaths).id = vrf.id := fun _ => rfl
    have kept := List.foldlRecOn (motive := fun next : Session Kernel =>
        next.state.vrfs.IsKeyed ∧ ∀ listed, next.SettledAt listed)
      before.state.vrfs.ids (limitedAt config.maxPaths) ⟨isKeyed.vrfs, settledAt⟩
      fun next known id _ => ⟨isKeyed_resettledAt sameId known.1 id, fun listed =>
        settledAt_resettledAt sameId known.1 (Or.inr (known.2 listed))⟩
    exact kept.2
  | resynced =>
    refine List.foldlRecOn (motive := fun next : Session Kernel => ∀ listed, next.SettledAt listed)
      before.state.vrfs.ids resyncedAt settledAt fun next known id _ listed => ?_
    exact settledAt_resyncedAt (known listed)
  | @defaultConfigured config vrf found accepts =>
    intro listed
    have configured : (before.configured config vrf).SettledAt listed := settledAt listed
    refine settledAt_stored configured fun here => ?_
    have own := isKeyed.vrfs defaultVrfId vrf found
    rw [← here, ← own]
    exact isSettled_configuredVrf config vrf before

/-- Selection is at a fixpoint whatever happens to a router. -/
theorem isInvariant_allSettled (surroundings : Surroundings Kernel) :
    IsInvariant surroundings AllSettled where
  blank _ _ _ _ _ found := nomatch found
  changed _ _ _ _ isKeyed allSettled changes := changes.allSettled isKeyed allSettled
  refused _ _ allSettled refused := by cases refused <;> exact allSettled
  disturbed _ _ _ allSettled := allSettled

/-- In every router that can be reached, selecting the route of any prefix of any VRF anew, over
the interfaces and with the policy as they are, changes nothing: it answers no change and gives
the same candidates, with all their marks and resolved next hops, and the same installed route. -/
theorem select_eq_of_reachable {surroundings : Surroundings Kernel} {router : Router Kernel}
    (reachable : Reachable surroundings router) (id : UInt32) (vrf : Vrf)
    (found : router.vrf id = .ok vrf) (family : Family) (destination : Prefix)
    (set : CandidateSet) (listed : (vrf.rib family).find? destination = some set) :
    set.select (router.state.interfaces.resolver id) vrf.policy destination =
      (.unchanged destination, set) := by
  have allSettled := (isInvariant_allSettled surroundings).of_reachable reachable
  exact allSettled id vrf (VrfTable.get_eq_ok_iff.1 found) family destination set listed

theorem select_eq_of_sampleRouter : ∃ (router : Router MemoryKernel) (vrf : Vrf)
    (set : CandidateSet) (route : ForwardingRoute), set.installed = some route ∧
      set.select (router.state.interfaces.resolver defaultVrfId) vrf.policy
        (Prefix.ofNetwork sampleNetwork) = (.unchanged (Prefix.ofNetwork sampleNetwork), set) := by
  obtain ⟨router, vrf, set, route, reachable, _, found, listed, installed⟩ := exists_sampleRouter
  exact ⟨router, vrf, set, route, installed,
    select_eq_of_reachable reachable defaultVrfId vrf found .ipv4 _ set listed⟩

end ControlPlane
