/-
This file proves that the static entries of every VRF are those that its static
routes give. Static entries are derived anew whenever static routes are added,
removed, or dropped with an interface that stops routing, and for just those
prefixes that lost or won a next hop. Routes of dynamic protocols, connected
routes, settings and refreshes do not touch them.
-/

import ControlPlane.Proofs.Router.VrfInvariant

namespace ControlPlane

/-! ### Static entries by key -/

/-- The candidates of a prefix under their keys, which ascend with the distance. -/
def StaticTable.candidatesByKey (table : StaticTable) (vrf : UInt32) (destination : Prefix) :
    SortedMap CandidateKey Candidate where
  entries := (table.candidates vrf destination).map fun candidate => (candidate.key, candidate)
  ascending := by
    have ascends : ∀ first second : UInt8, OrderKey.Before first second →
        OrderKey.Before ((Origin.static, first.toUInt32) : CandidateKey)
          (Origin.static, second.toUInt32) := by
      intro first second before
      simpa [OrderKey.Before, OrderKey.code] using before
    rw [candidates_eq, List.map_map, List.pairwise_map, distances, SortedMap.keys,
      List.pairwise_map]
    exact (SortedSet.ofList (table.hopsOf destination).values).ascending.imp (ascends _ _)

theorem StaticTable.find?_candidatesByKey {table : StaticTable} {vrf : UInt32}
    {destination : Prefix} {key : CandidateKey} {candidate : Candidate} :
    (table.candidatesByKey vrf destination).find? key = some candidate ↔
      candidate ∈ table.candidates vrf destination ∧ candidate.key = key := by
  rw [SortedMap.find?_eq_some_iff]
  constructor
  · intro member
    obtain ⟨listed, isListed, same⟩ := List.mem_map.1 member
    cases same
    exact ⟨isListed, rfl⟩
  · rintro ⟨isListed, rfl⟩
    exact List.mem_map_of_mem isListed

/-- The contents with an origin, in order. -/
theorem CandidateSet.values_contents_filter {destination : Prefix} {set : CandidateSet}
    (listed : CandidatesOf destination set.candidates) (origin : Origin) :
    (set.contents.filter fun key _ => key.1 = origin).values =
      (set.list.filter fun candidate => candidate.origin = origin).map Candidate.erased := by
  have sameFilter : set.candidates.entries.filter (fun entry => entry.1.1 = origin) =
      set.candidates.entries.filter fun entry => entry.2.origin = origin := by
    refine List.filter_congr fun entry member => ?_
    rw [← (listed entry.1 entry.2 (SortedMap.find?_eq_some_iff.2 member)).2]
    rfl
  show ((set.candidates.entries.map fun entry => (entry.1, entry.2.erased)).filter
      fun entry => entry.1.1 = origin).map Prod.snd =
    ((set.candidates.entries.map Prod.snd).filter fun candidate => candidate.origin = origin).map
      Candidate.erased
  rw [List.filter_map, List.map_map, List.filter_map, List.map_map]
  exact congrArg (List.map fun entry => entry.2.erased) sameFilter

namespace Vrf

variable {vrf : Vrf}

/-- In a VRF with derived static entries these are, in order and apart from what selection wrote
into them, the candidates that the static routes give. -/
theorem map_erased_filter_static {destination : Prefix} (isFiled : vrf.IsFiled)
    (derives : vrf.DerivesStaticsAt destination) :
    ((vrf.candidatesAt destination).filter fun candidate => candidate.origin = .static).map
      Candidate.erased = vrf.statics.candidates vrf.id destination := by
  have sameMap : ((vrf.rib destination.family).setAt destination).contents.filter
      (fun key _ => key.1 = .static) = vrf.statics.candidatesByKey vrf.id destination := by
    refine SortedMap.ext_find? fun key => Option.ext fun candidate => ?_
    rw [SortedMap.find?_filter, Option.filter_eq_some_iff, decide_eq_true_eq,
      StaticTable.find?_candidatesByKey, CandidateSet.find?_contents, ← Rib.entryAt?_eq]
    obtain ⟨origin, inst⟩ := key
    have entries : vrf.entryAt? destination (.static, inst) = some candidate ↔ _ :=
      derives inst candidate
    constructor
    · rintro ⟨listed, isStatic⟩
      cases isStatic
      obtain ⟨member, own⟩ := entries.1 listed
      refine ⟨member, ?_⟩
      rw [Candidate.key, (mem_candidates member).2.1, own]
    · rintro ⟨member, own⟩
      rw [Candidate.key, (mem_candidates member).2.1] at own
      cases own
      exact ⟨entries.2 ⟨member, rfl⟩, rfl⟩
  have listed := (isFiled.rib_isFiled destination.family).candidatesOf_setAt destination
  have values : (vrf.statics.candidatesByKey vrf.id destination).values =
      vrf.statics.candidates vrf.id destination := by
    rw [SortedMap.values, StaticTable.candidatesByKey, List.map_map]
    exact List.map_id _
  rw [← values, ← sameMap]
  exact (CandidateSet.values_contents_filter listed .static).symm

theorem derivesStatics_create (name : String) (id : UInt32) (netns : String) (attempts : Nat) :
    (create name id netns attempts).DerivesStatics := by
  intro destination inst candidate
  have nothing : (create name id netns attempts).entryAt? destination (.static, inst) = none := by
    unfold entryAt?
    cases destination.family <;> rfl
  rw [nothing]
  exact ⟨nofun, fun given => nomatch given.1⟩

/-- Events on interfaces keep the static entries as they are to be. -/
theorem Follows.derivesStatics {interfaces : InterfaceTable} {changes : List InterfaceChange}
    {after : Vrf} (follows : Follows interfaces changes vrf after) (derives : vrf.DerivesStatics) :
    after.DerivesStatics := by
  refine follows.keeps DerivesStatics (fun first second programmed firstDerives => ?_)
    (fun change _ first rerouted answered firstDerives => ?_) derives
  · have same : Edits (fun _ => False) first second :=
      .resettled (Follows.sameContents_of_programmed programmed)
    exact same.derivesStatics not_false firstDerives
  · have edits := edits_reroute answered
    cases what : change.what with
    | routingDisabled =>
      rw [RouterM.reroute, what] at answered
      cases answered
      exact firstDerives.purgeStatics _ change.name
    | usable now =>
      rw [what] at edits
      exact edits.derivesStatics not_false firstDerives
    | addressAdded | addressRemoved | attached | detached =>
      rw [what] at edits
      exact edits.derivesStatics Origin.noConfusion firstDerives

end Vrf

/-! ### The invariant -/

/-- The static entries of a VRF are derived, whatever happens to it. -/
theorem isVrfInvariant_derivesStatics :
    IsVrfInvariant Origin.IsDynamic fun _ vrf => vrf.IsFiled ∧ vrf.DerivesStatics where
  created _ name id netns attempts _ :=
    ⟨Vrf.isFiled_create name id netns attempts, Vrf.derivesStatics_create name id netns attempts⟩
  edited _ _ _ edits held :=
    ⟨edits.isFiled held.1,
      edits.derivesStatics (fun isDynamic => by cases isDynamic <;> contradiction) held.2⟩
  staticAdded _ vrf _ route held :=
    have edits : Vrf.Edits (fun _ => True) vrf _ := Vrf.edits_addStatic trivial route vrf
    ⟨edits.isFiled held.1, held.2.addStatic _ route⟩
  staticRemoved _ vrf _ _ rerouted removed held :=
    have edits : Vrf.Edits (fun _ => True) vrf rerouted.2 := Vrf.edits_removeStatic trivial removed
    ⟨edits.isFiled held.1, held.2.removeStatic removed⟩
  followed _ _ _ _ _ _ _ _ _ follows held :=
    ⟨follows.edits.isFiled held.1, follows.derivesStatics held.2⟩

/-! ### The static entries of a router -/

variable {Kernel : Type} [KernelBackend Kernel]

/-- In every router that can be reached while routes are announced and withdrawn for dynamic
protocols only, the static entries of a prefix in a VRF are, apart from what selection wrote into
them, those that the static routes of the VRF give: one for each distance that is configured for
the prefix, by ascending distance, with the distance as its distance and its instance, and with
just the next hops that are configured at it. So a prefix without static routes has none. Prefixes
are listed in the table of their family only. -/
theorem static_entries_of_reachable {router : Router Kernel}
    (reachable : Reachable Surroundings.dynamic router) (id : UInt32) (vrf : Vrf)
    (found : router.vrf id = .ok vrf) (destination : Prefix) :
    ((vrf.candidatesAt destination).filter fun candidate => candidate.origin = .static).map
        Candidate.erased = vrf.statics.candidates id destination ∧
      (vrf.statics.candidates id destination =
        (vrf.statics.distances destination).map fun distance =>
          StaticTable.candidateAt id destination distance
            (StaticTable.hopsAt (vrf.statics.hopsOf destination).entries distance)) ∧
      (vrf.statics.routes.find? destination = none →
        ∀ candidate ∈ vrf.candidatesAt destination, candidate.origin ≠ .static) ∧
      ∀ family set, (vrf.rib family).find? destination = some set →
        destination.family = family := by
  obtain ⟨isKeyed, allVrfs⟩ :=
    isVrfInvariant_derivesStatics.isInvariant.good_of_reachable reachable
  have isFound : router.state.vrfs.byId.find? id = some vrf := VrfTable.get_eq_ok_iff.1 found
  have own : vrf.id = id := isKeyed.vrfs id vrf isFound
  obtain ⟨isFiled, derives⟩ := allVrfs.held id vrf isFound
  have entries := Vrf.map_erased_filter_static isFiled (derives destination)
  rw [own] at entries
  refine ⟨entries, StaticTable.candidates_eq _ _ _,
    fun unconfigured candidate member isStatic => ?_,
    fun family set => isFiled.family_eq family destination set⟩
  have nothing : vrf.statics.candidates id destination = [] := by
    rw [StaticTable.candidates, StaticTable.hopsOf, unconfigured]
    rfl
  rw [nothing, List.map_eq_nil_iff] at entries
  exact List.filter_eq_nil_iff.1 entries candidate member (decide_eq_true isStatic)

/-- A route through a gateway in the subnet of the sample interface. -/
def sampleStatic : StaticRoute :=
  ⟨⟨.v4 0x0A640000, 16, by decide⟩, .gateway (.v4 0x0A000002) none, 5⟩

theorem static_entries_of_sampleRouter : ∃ (router : Router MemoryKernel) (vrf : Vrf),
    router.vrf defaultVrfId = .ok vrf ∧
      vrf.statics.candidates defaultVrfId (Prefix.ofNetwork sampleStatic.destination) ≠ [] ∧
      ((vrf.candidatesAt (Prefix.ofNetwork sampleStatic.destination)).filter fun candidate =>
        candidate.origin = .static).map Candidate.erased =
          vrf.statics.candidates defaultVrfId (Prefix.ofNetwork sampleStatic.destination) := by
  have configured : (sampleRouter?.bind fun router =>
      ((router.step (.addStatic defaultVrfId sampleStatic)).2.vrf defaultVrfId).toOption.filter
        fun vrf => vrf.statics.candidates defaultVrfId
          (Prefix.ofNetwork sampleStatic.destination) ≠ []).isSome = true := by
    decide +kernel
  obtain ⟨vrf, isConfigured⟩ := Option.isSome_iff_exists.1 configured
  obtain ⟨router, built, sample⟩ := Option.bind_eq_some_iff.1 isConfigured
  obtain ⟨found, given⟩ := Option.filter_eq_some_iff.1 sample
  have reachable : Reachable Surroundings.dynamic router :=
    reachable_sampleRouter trivial trivial built
  have performed : Reachable Surroundings.dynamic
      (router.step (.addStatic defaultVrfId sampleStatic)).2 := reachable.performed trivial
  have isFound := eq_ok_of_toOption found
  exact ⟨_, vrf, isFound, of_decide_eq_true given,
    (static_entries_of_reachable performed defaultVrfId vrf isFound _).1⟩

end ControlPlane
