/-
This file proves that a router does not depend on the order in which its interfaces
are configured. What happens on the way does: a LAG appears before or after its
members, a gateway is reached through the subnets that are there so far, and a
route of several paths gains one next hop after the other. In the end, though, all
but the automatic router-id follows from what is configured: the states of LAGs from
those of their members, the entries from addresses and static routes, what is
selected from the entries, and what the kernels have from what is selected.
-/

import ControlPlane.Proofs.Memoryless
import ControlPlane.Proofs.Router.Connected
import ControlPlane.Proofs.Router.Flap
import ControlPlane.Proofs.Router.Isolation

namespace ControlPlane

/-! ### Interfaces -/

namespace Interface

variable {interface : Interface}

theorem kind_settings (interface : Interface) : interface.settings.kind = interface.kind := by
  unfold settings withLagOper
  split <;> rfl

theorem lag_settings (interface : Interface) : interface.settings.lag = interface.lag := by
  unfold settings withLagOper
  split <;> rfl

/-- An interface that may be a member of a LAG is no LAG, so all that it contributes is
configured. -/
theorem asMember?_settings (plain : interface.kind = .lag → interface.lag = none) (lag : String) :
    interface.settings.asMember? lag = interface.asMember? lag := by
  by_cases isLag : interface.kind = .lag
  · rw [asMember?, asMember?, lag_settings, plain isLag]
    rfl
  · rw [settings, withLagOper, if_neg isLag]

/-- Nothing but the state of a LAG is derived. -/
theorem withLagOper_settings {oper : LinkState}
    (derived : interface.kind = .lag → interface.oper = oper) :
    interface.settings.withLagOper oper = interface := by
  unfold withLagOper
  rw [kind_settings]
  split
  next isLag =>
    rw [← derived isLag, settings, withLagOper, if_pos isLag]
  next notLag => rw [settings, withLagOper, if_neg notLag]

end Interface

namespace InterfaceTable

variable {table first second : InterfaceTable}

/-- The members of LAGs are configured. -/
theorem memberAt?_eq (plain : table.HasPlainLags) (lag name : String) :
    table.memberAt? lag name =
      ((table.find? name).map Interface.settings).bind (Interface.asMember? · lag) := by
  unfold memberAt?
  cases found : table.find? name with
  | none => rfl
  | some interface => exact (Interface.asMember?_settings (plain name interface found) lag).symm

/-- An interface is what is configured, with the state that its members give it if it is a LAG. -/
theorem find?_eq (derived : table.LagsDerived) (plain : table.HasPlainLags) (name : String) :
    table.find? name = ((table.find? name).map Interface.settings).map
      (Interface.withLagOper (table.lagOper name)) := by
  cases found : table.find? name with
  | none => rfl
  | some interface =>
    have isDerived := derived name (plain.isFlat name) interface found
    exact congrArg some (Interface.withLagOper_settings isDerived).symm

/-- Interfaces that are configured alike are equal if no LAG is a member of a LAG. -/
theorem eq_of_settings (firstDerived : first.LagsDerived) (secondDerived : second.LagsDerived)
    (firstPlain : first.HasPlainLags) (secondPlain : second.HasPlainLags)
    (same : ∀ name, (second.find? name).map Interface.settings =
      (first.find? name).map Interface.settings) : second = first := by
  -- members are no LAGs, so what they contribute is the same before any state is derived
  have members (lag name : String) : second.memberAt? lag name = first.memberAt? lag name := by
    rw [memberAt?_eq secondPlain, memberAt?_eq firstPlain, same]
  refine ext_find? fun name => ?_
  rw [find?_eq secondDerived secondPlain, find?_eq firstDerived firstPlain, same,
    lagOper_congr (members name)]

end InterfaceTable

/-! ### Entries -/

namespace Vrf

variable {touches : Origin → Prop} {first second vrf : Vrf} {interfaces : InterfaceTable}

theorem family_onRib (vrf : Vrf) {own : Family}
    {operate : SelectionPolicy → Rib → Delta × Rib}
    (keeps : ∀ policy rib, (operate policy rib).2.family = rib.family) (family : Family) :
    ((vrf.onRib own operate).2.rib family).family = (vrf.rib family).family := by
  show ((vrf.setRib own _).rib family).family = _
  rw [rib_setRib]
  split
  next same => rw [keeps, same]
  next => rfl

theorem Edits.family_eq (edits : Edits touches first second) (family : Family) :
    (second.rib family).family = (first.rib family).family := by
  induction edits with
  | resettled same => exact same.family_eq family
  | configured => cases family <;> rfl
  | inserted resolver => exact family_onRib _ (fun policy rib => Rib.family_insert ..) family
  | removed resolver destination =>
    exact family_onRib _ (fun policy rib => Rib.family_removeWhere destination _) family
  | replaced resolver destination candidates =>
    exact family_onRib _ (fun policy rib =>
      Rib.family_step rib ⟨resolver, policy, .replaceOrigin destination _ candidates⟩) family
  | followed _ _ before after => exact after.trans before

/-- The tables are those of their families, and they list no routes of dynamic protocols. -/
structure IsPlain (vrf : Vrf) : Prop where
  family_eq : ∀ family, (vrf.rib family).family = family
  entryAt?_eq : ∀ destination key, key.1.IsDynamic → vrf.entryAt? destination key = none

theorem IsPlain.edited (isPlain : first.IsPlain) (edits : Edits touches first second)
    (untouched : ∀ origin, origin.IsDynamic → ¬ touches origin) : second.IsPlain where
  family_eq family := (edits.family_eq family).trans (isPlain.family_eq family)
  entryAt?_eq destination key isDynamic :=
    (edits.entryAt?_eq (untouched key.1 isDynamic) destination).trans
      (isPlain.entryAt?_eq destination key isDynamic)

end Vrf

theorem Origin.IsDynamic.ne_static {origin : Origin} (isDynamic : origin.IsDynamic) :
    origin ≠ .static := by
  rcases isDynamic with rfl | rfl <;> nofun

/-- No event on an interface gives a VRF routes of dynamic protocols. -/
theorem InterfaceEvent.not_touches_of_isDynamic {event : InterfaceEvent} {origin : Origin}
    (isDynamic : origin.IsDynamic) : ¬ event.touches origin := by
  rcases isDynamic with rfl | rfl <;> cases event <;> simp [touches]

/-- A VRF to which nothing is announced has no routes of dynamic protocols. -/
theorem isVrfInvariant_isPlain : IsVrfInvariant (fun _ => False) fun _ vrf => vrf.IsPlain where
  created _ name id netns attempts _ := by
    refine ⟨fun family => by cases family <;> rfl, fun destination key _ => ?_⟩
    unfold Vrf.entryAt?
    cases destination.family <;> rfl
  edited _ _ _ edits isPlain := isPlain.edited edits fun _ _ => not_false
  staticAdded _ vrf _ route isPlain :=
    have edits : Vrf.Edits (· = .static) vrf _ := Vrf.edits_addStatic (by exact rfl) route vrf
    isPlain.edited edits fun _ isDynamic => isDynamic.ne_static
  staticRemoved _ vrf _ _ rerouted removed isPlain :=
    have edits : Vrf.Edits (· = .static) vrf rerouted.2 :=
      Vrf.edits_removeStatic (by exact rfl) removed
    isPlain.edited edits fun _ isDynamic => isDynamic.ne_static
  followed _ _ _ _ _ _ _ _ _ follows isPlain :=
    isPlain.edited follows.edits fun _ isDynamic ⟨_, _, touched⟩ =>
      InterfaceEvent.not_touches_of_isDynamic isDynamic touched

namespace Vrf

variable {first second vrf : Vrf} {interfaces : InterfaceTable}

/-- The tables have the entries that the interfaces and the static routes give, and no others. -/
structure IsDerived (interfaces : InterfaceTable) (vrf : Vrf) : Prop where
  isFiled : vrf.IsFiled
  isPlain : vrf.IsPlain
  connected : vrf.DerivesConnected interfaces
  statics : vrf.DerivesStatics

/-- What is derived from the same interfaces and the same static routes is the same. -/
theorem IsDerived.entryAt?_eq (firstDerived : first.IsDerived interfaces)
    (secondDerived : second.IsDerived interfaces) (sameId : second.id = first.id)
    (sameStatics : second.statics = first.statics) (destination : Prefix) (key : CandidateKey) :
    second.entryAt? destination key = first.entryAt? destination key := by
  obtain ⟨origin, inst⟩ := key
  cases origin with
  | connected =>
    refine Option.ext fun entry => ?_
    rw [secondDerived.connected.entryAt?_eq_some_iff, firstDerived.connected.entryAt?_eq_some_iff,
      sameId]
  | static =>
    refine Option.ext fun entry => ?_
    rw [secondDerived.statics destination inst entry, firstDerived.statics destination inst entry,
      sameId, sameStatics]
  | ospf =>
    rw [secondDerived.isPlain.entryAt?_eq _ _ (.inl rfl),
      firstDerived.isPlain.entryAt?_eq _ _ (.inl rfl)]
  | bgp =>
    rw [secondDerived.isPlain.entryAt?_eq _ _ (.inr rfl),
      firstDerived.isPlain.entryAt?_eq _ _ (.inr rfl)]

/-- A prefix is listed just if an entry is. -/
theorem IsFiled.find?_contents_eq_none_iff (isFiled : vrf.IsFiled) {destination : Prefix} :
    (vrf.rib destination.family).contents.find? destination = none ↔
      ∀ key, vrf.entryAt? destination key = none := by
  constructor
  · intro unlisted key
    rw [entryAt?, Rib.entryAt?, unlisted, Option.bind_none]
  · intro noEntry
    refine Option.eq_none_iff_forall_ne_some.2 fun listed isListed => ?_
    rw [Rib.find?_contents] at isListed
    obtain ⟨set, found, rfl⟩ := Option.map_eq_some_iff.1 isListed
    obtain ⟨key, candidate, inSet⟩ :=
      (isFiled.rib_isFiled destination.family destination set found).nonempty
    have entry := noEntry key
    rw [entryAt?, Rib.entryAt?_of_find? found, inSet] at entry
    cases entry

/-- The entries make up the contents of the tables. -/
theorem contents_eq_of_entries (firstFiled : first.IsFiled) (secondFiled : second.IsFiled)
    (same : ∀ destination key, second.entryAt? destination key = first.entryAt? destination key)
    (family : Family) : (second.rib family).contents = (first.rib family).contents := by
  have elsewhere {vrf : Vrf} (isFiled : vrf.IsFiled) {destination : Prefix}
      (other : destination.family ≠ family) :
      (vrf.rib family).contents.find? destination = none := by
    rw [Rib.find?_contents, Option.map_eq_none_iff]
    exact Option.eq_none_iff_forall_ne_some.2 fun set found =>
      other (isFiled.family_eq family destination set found)
  refine SortedMap.ext_find? fun destination => ?_
  -- entries are looked up in the table of their family, and the other one has nothing there
  by_cases own : destination.family = family
  · subst own
    have unlisted : (second.rib destination.family).contents.find? destination = none ↔
        (first.rib destination.family).contents.find? destination = none := by
      rw [secondFiled.find?_contents_eq_none_iff, firstFiled.find?_contents_eq_none_iff]
      simp only [same]
    cases inFirst : (first.rib destination.family).contents.find? destination with
    | none => exact unlisted.2 inFirst
    | some listed =>
      have isListed : (second.rib destination.family).contents.find? destination ≠ none := by
        rw [ne_eq, unlisted, inFirst]
        nofun
      obtain ⟨other, inSecond⟩ := Option.ne_none_iff_exists'.1 isListed
      rw [inSecond]
      refine congrArg some (SortedMap.ext_find? fun key => ?_)
      have sameEntry := same destination key
      rwa [entryAt?, entryAt?, Rib.entryAt?, Rib.entryAt?, inFirst, inSecond, Option.bind_some,
        Option.bind_some] at sameEntry
  · rw [elsewhere firstFiled own, elsewhere secondFiled own]

/-- VRFs with the same settings, over the same interfaces, select from the same candidates. -/
theorem IsDerived.sameBasis (firstDerived : first.IsDerived interfaces)
    (secondDerived : second.IsDerived interfaces) (same : second.settings = first.settings) :
    first.SameBasis second where
  policy_eq := congrArg VrfSettings.policy same
  contents :=
    { name_eq := congrArg VrfSettings.name same
      id_eq := congrArg VrfSettings.id same
      statics_eq := congrArg VrfSettings.statics same
      family_eq := fun family =>
        (secondDerived.isPlain.family_eq family).trans (firstDerived.isPlain.family_eq family).symm
      contents_eq := contents_eq_of_entries firstDerived.isFiled secondDerived.isFiled
        (firstDerived.entryAt?_eq secondDerived (congrArg VrfSettings.id same)
          (congrArg VrfSettings.statics same)) }

end Vrf

/-! ### Kernels -/

/-- What realizes the same routes is equal up to the order of next hops. -/
theorem Programmed.realizes_of_common {first second wanted : Option KernelRoute}
    (firstRealizes : Realizes first wanted) (secondRealizes : Realizes second wanted) :
    Realizes second first := by
  cases wanted with
  | none =>
    cases first with
    | none =>
      cases second with
      | none => trivial
      | some => exact secondRealizes.elim
    | some => exact firstRealizes.elim
  | some wanted =>
    cases first with
    | none => exact firstRealizes.elim
    | some first =>
      cases second with
      | none => exact secondRealizes.elim
      | some second =>
        have firstAlike : first.Matches wanted := firstRealizes
        have secondAlike : second.Matches wanted := secondRealizes
        exact secondAlike.trans firstAlike.symm

/-- Where kernels have what is forwarded, they are equal up to the order of next hops if VRFs are
bound to the same namespaces and forward alike. -/
theorem Session.IsMirrored.realizes {first second : Session MemoryKernel} {netns : String}
    (firstMirrored : first.IsMirrored netns) (secondMirrored : second.IsMirrored netns)
    (alike : ∀ id, (second.sync? id).map (fun sync => (sync.netns, sync.fib.routes)) =
      (first.sync? id).map fun sync => (sync.netns, sync.fib.routes)) (destination : Prefix) :
    Programmed.Realizes ((second.kernel netns).routes.find? destination)
      ((first.kernel netns).routes.find? destination) := by
  by_cases used : ∃ id, (first.sync? id).map Synchronizer.netns = some netns
  · obtain ⟨id, bound⟩ := used
    obtain ⟨sync, known, own⟩ := Option.map_eq_some_iff.1 bound
    have related := alike id
    rw [known, Option.map_some] at related
    obtain ⟨other, isOther, same⟩ := Option.map_eq_some_iff.1 related
    obtain ⟨sameNetns, sameRoutes⟩ := Prod.mk.inj same
    have sameWanted : other.fib.find? destination = sync.fib.find? destination :=
      congrArg (SortedMap.find? · destination) sameRoutes
    have realizes := (secondMirrored.used id other isOther (sameNetns.trans own)).2 destination
    refine Programmed.realizes_of_common ((firstMirrored.used id sync known own).2 destination) ?_
    rw [← sameWanted]
    exact realizes
  · have sameBound (id : UInt32) : (second.sync? id).map Synchronizer.netns =
        (first.sync? id).map Synchronizer.netns := by
      have related := congrArg (Option.map Prod.fst) (alike id)
      rwa [Option.map_map, Option.map_map] at related
    rw [(firstMirrored.unused fun id bound => used ⟨id, bound⟩).empty,
      (secondMirrored.unused fun id bound => used ⟨id, (sameBound id).symm.trans bound⟩).empty]
    trivial

/-! ### Configured routers -/

/-- The interfaces of a name and their VRFs do not depend on the order of interfaces. -/
theorem interfaceOf?_perm {vrfs : List VrfConfig} {interfaces others : List InterfaceConfig}
    (apart : interfaces.Pairwise InterfaceConfig.Apart) (permutes : others.Perm interfaces)
    (name : String) : interfaceOf? vrfs others name = interfaceOf? vrfs interfaces name := by
  have othersApart : others.Pairwise InterfaceConfig.Apart :=
    permutes.symm.pairwise apart fun apart => apart.symm
  have sameFound : others.find? (fun interface => interface.name = name) =
      interfaces.find? fun interface => interface.name = name := by
    refine Option.ext fun interface => ?_
    rw [find?_interface_eq_some_iff othersApart, find?_interface_eq_some_iff apart,
      permutes.mem_iff]
  rw [interfaceOf?, interfaceOf?, sameFound]

/-- Two VRFs have the same settings, tables and forwarding routes. -/
structure Vrf.IsLike (first second : Vrf) : Prop where
  settings_eq : second.settings = first.settings
  routing : first.SameRouting second

/-- What a configured VRF is bound to shows its configuration. -/
theorem Session.Realises.exists_bound {session : Session MemoryKernel}
    {refusals : SortedMap String Errno} {maxPaths : Option UInt16} {vrfs : List VrfConfig}
    {interfaces : List InterfaceConfig}
    (realises : session.Realises refusals maxPaths vrfs interfaces)
    (apart : vrfs.Pairwise VrfConfig.Apart) {id : UInt32} {netns : String}
    (bound : (session.sync? id).map Synchronizer.netns = some netns) :
    ∃ vrf ∈ vrfs, vrf.id = id ∧ vrf.boundNetns = netns := by
  have known := congrArg (Option.map VrfSettings.netns) (realises.settings_eq id)
  rw [Option.map_map, Option.map_map] at known
  rw [sync?, Option.map_map] at bound
  obtain ⟨vrf, listed, own⟩ := Option.map_eq_some_iff.1 (known.symm.trans bound)
  obtain ⟨member, sameId⟩ := (vrfOf?_eq_some_iff apart).1 listed
  exact ⟨vrf, member, sameId, own⟩

/-- Nothing is announced to a router that is being built up. -/
theorem Surroundings.isOfOrigins_of_building {starts : KernelSpace MemoryKernel → Prop}
    {touches : Origin → Prop} {operation : Operation}
    (allows : (building starts).Allows (.perform operation)) :
    operation.IsOfOrigins touches := by
  cases operation <;> trivial

namespace Router

variable {config : SystemConfig} {targets : Tracing.TargetTable} {router : Router MemoryKernel}
  {id : UInt32} {vrf : Vrf} {netns : String}

/-- The router was made from a configuration over new kernels in memory. -/
structure IsMade (config : SystemConfig) (router : Router MemoryKernel) : Prop where
  reachable : ∀ {surroundings : Surroundings MemoryKernel},
    surroundings.starts KernelSpace.empty → Reachable surroundings router
  realises : Session.Realises SortedMap.empty config.ecmp.maxPaths (startingVrfs config.vrfs)
    config.interfaces ⟨router.state, []⟩

theorem exists_isMade (parameters : RouterParameters) (valid : config.validate targets = .ok ()) :
    ∃ router : Router MemoryKernel,
      (ofConfig parameters KernelSpace.empty targets config).1 = .ok router ∧
        router.IsMade config := by
  have opens (netns : String) : ∃ opened,
      (KernelSpace.empty : KernelSpace MemoryKernel).openNamespace netns = .ok opened := ⟨_, rfl⟩
  obtain ⟨session, ran, realises⟩ :=
    exists_realises_configure parameters opens (SystemConfig.validate_eq_ok_iff.1 valid)
  have made := congrArg Prod.fst (ofConfig_eq_ok valid ran)
  refine ⟨_, made, fun starts => .configured starts made, ?_⟩
  exact ⟨realises.isKeyed, realises.refusals_eq, realises.maxPaths_eq, realises.settings_eq,
    realises.idByName_eq, realises.interface_eq⟩

namespace IsMade

theorem isSteady (isMade : router.IsMade config) : router.IsSteady where
  reachable := isMade.reachable trivial
  isCalm := isInvariant_isCalm.of_reachable (isMade.reachable rfl)

theorem isDerived (isMade : router.IsMade config)
    (found : router.state.vrfs.byId.find? id = some vrf) :
    vrf.IsDerived router.state.interfaces := by
  have reachable : Reachable (Surroundings.building fun _ => True) router :=
    isMade.reachable trivial
  have holds {touches : Origin → Prop} {holds : InterfaceTable → Vrf → Prop}
      (isInvariant : IsVrfInvariant touches holds) : holds router.state.interfaces vrf :=
    have isInvariant := isInvariant.isInvariant_of_allows fun _ =>
      Surroundings.isOfOrigins_of_building
    (isInvariant.of_reachable reachable).held id vrf found
  obtain ⟨isFiled, connected⟩ := holds isVrfInvariant_derivesConnected
  exact ⟨isFiled, holds isVrfInvariant_isPlain, connected, (holds isVrfInvariant_derivesStatics).2⟩

theorem hasPlainLags (isMade : router.IsMade config)
    (plain : ∀ interface ∈ config.interfaces, interface.kind = .lag → interface.lag = none) :
    router.state.interfaces.HasPlainLags := by
  intro name interface found isLag
  obtain ⟨given, member, vrf, _, _, _, same⟩ := isMade.realises.exists_config found
  have sameKind : interface.kind = given.kind := by
    rw [← interface.kind_settings, same]
    rfl
  rw [← interface.lag_settings, same]
  exact plain given member (sameKind.symm.trans isLag)

/-- VRFs that are configured to be bound to different namespaces share none. -/
theorem isMirrored (isMade : router.IsMade config)
    (apart : (startingVrfs config.vrfs).Pairwise VrfConfig.Apart)
    (distinct : (startingVrfs config.vrfs).Pairwise fun first second =>
      first.boundNetns ≠ second.boundNetns) (netns : String) :
    Session.IsMirrored netns ⟨router.state, []⟩ := by
  refine (isInvariant_isMirrored netns).of_reachable (isMade.reachable rfl) ?_
  intro first second firstBound secondBound
  obtain ⟨vrf, member, rfl, own⟩ := isMade.realises.exists_bound apart firstBound
  obtain ⟨other, otherMember, rfl, otherOwn⟩ := isMade.realises.exists_bound apart secondBound
  have found := (find?_eq_some_iff_of_pairwise distinct).2 ⟨member, own⟩
  have otherFound := (find?_eq_some_iff_of_pairwise distinct).2 ⟨otherMember, otherOwn⟩
  exact congrArg VrfConfig.id (Option.some.inj (found.symm.trans otherFound))

end IsMade

/-- Two routers have the same interfaces and the same VRFs, and their kernels have the same routes
up to the order of next hops. -/
structure IsLike (first second : Router MemoryKernel) : Prop where
  interfaces_eq : second.state.interfaces = first.state.interfaces
  idByName_eq : second.state.vrfs.idByName = first.state.vrfs.idByName
  vrf_isLike : ∀ id, Option.Rel Vrf.IsLike (first.state.vrfs.byId.find? id)
    (second.state.vrfs.byId.find? id)
  kernel_realizes : ∀ netns destination,
    Programmed.Realizes ((second.kernel netns).routes.find? destination)
      ((first.kernel netns).routes.find? destination)

section Alike

variable {first second : Router MemoryKernel} {interfaces : List InterfaceConfig}

/-- Routers that are made from configurations which list the same interfaces have the same
interfaces. -/
theorem IsMade.interfaces_eq (firstMade : first.IsMade config)
    (secondMade : second.IsMade { config with interfaces })
    (permutes : interfaces.Perm config.interfaces)
    (apart : config.interfaces.Pairwise InterfaceConfig.Apart)
    (plain : ∀ interface ∈ config.interfaces, interface.kind = .lag → interface.lag = none) :
    second.state.interfaces = first.state.interfaces := by
  have derived {router : Router MemoryKernel} {config : SystemConfig}
      (isMade : router.IsMade config) : router.state.interfaces.LagsDerived :=
    (isInvariant_lagsDerived Surroundings.any).of_reachable (isMade.reachable trivial)
  have secondPlain := secondMade.hasPlainLags fun interface member =>
    plain interface (permutes.mem_iff.1 member)
  refine InterfaceTable.eq_of_settings (derived firstMade) (derived secondMade)
    (firstMade.hasPlainLags plain) secondPlain fun name => ?_
  rw [secondMade.realises.interface_eq, firstMade.realises.interface_eq]
  exact interfaceOf?_perm apart permutes name

theorem IsMade.settings_eq (firstMade : first.IsMade config)
    (secondMade : second.IsMade { config with interfaces }) (id : UInt32) :
    (second.state.vrfs.byId.find? id).map Vrf.settings =
      (first.state.vrfs.byId.find? id).map Vrf.settings :=
  (secondMade.realises.settings_eq id).trans (firstMade.realises.settings_eq id).symm

/-- Over the same interfaces, VRFs of the same id are alike, since all their tables are derived and
settled. -/
theorem IsMade.vrf_isLike (firstMade : first.IsMade config)
    (secondMade : second.IsMade { config with interfaces })
    (sameInterfaces : second.state.interfaces = first.state.interfaces) (id : UInt32) :
    Option.Rel Vrf.IsLike (first.state.vrfs.byId.find? id) (second.state.vrfs.byId.find? id) := by
  have same := firstMade.settings_eq secondMade id
  cases inFirst : first.state.vrfs.byId.find? id with
  | none =>
    rw [inFirst, Option.map_none, Option.map_eq_none_iff] at same
    rw [same]
    exact .none
  | some vrf =>
    rw [inFirst, Option.map_some] at same
    obtain ⟨other, inSecond, sameSettings⟩ := Option.map_eq_some_iff.1 same
    have otherDerived := secondMade.isDerived inSecond
    have otherAtRest := secondMade.isSteady.isAtRest inSecond
    rw [sameInterfaces] at otherDerived otherAtRest
    have sameBasis := (firstMade.isDerived inFirst).sameBasis otherDerived sameSettings
    rw [inSecond]
    exact .some ⟨sameSettings,
      (firstMade.isSteady.isAtRest inFirst).sameRouting otherAtRest sameBasis⟩

end Alike

/-- The order in which a valid configuration lists its interfaces is of no concern if no LAG is a
member of a LAG and if the VRFs are bound to different namespaces. Over new kernels, both orders
give routers with the same interfaces, and with the same VRFs: their settings are the same, their
tables with all entries, marks and installed routes, and their forwarding routes, if not how often
these changed on the way. In all namespaces the kernels have the same routes up to the order of next
hops. -/
theorem isLike_of_perm (parameters : RouterParameters) (valid : config.validate targets = .ok ())
    (plain : ∀ interface ∈ config.interfaces, interface.kind = .lag → interface.lag = none)
    (distinct : (startingVrfs config.vrfs).Pairwise fun first second =>
      first.boundNetns ≠ second.boundNetns)
    {interfaces : List InterfaceConfig} (permutes : interfaces.Perm config.interfaces) :
    ∃ first second : Router MemoryKernel,
      (ofConfig parameters KernelSpace.empty targets config).1 = .ok first ∧
        (ofConfig parameters KernelSpace.empty targets { config with interfaces }).1 =
          .ok second ∧
        first.IsLike second := by
  have isValid := SystemConfig.validate_eq_ok_iff.1 valid
  obtain ⟨first, madeFirst, firstMade⟩ := exists_isMade parameters valid
  obtain ⟨second, madeSecond, secondMade⟩ :=
    exists_isMade parameters (SystemConfig.validate_eq_ok_iff.2 (isValid.perm permutes))
  have sameInterfaces :=
    firstMade.interfaces_eq secondMade permutes isValid.interfacesApart plain
  have alike := firstMade.vrf_isLike secondMade sameInterfaces
  have apart := apart_startingVrfs isValid
  refine ⟨first, second, madeFirst, madeSecond, sameInterfaces, ?_, alike, fun netns destination =>
    (firstMade.isMirrored apart distinct netns).realizes
      (secondMade.isMirrored apart distinct netns) (fun id => ?_) destination⟩
  · exact SortedMap.ext_find? fun name =>
      (secondMade.realises.idByName_eq name).trans (firstMade.realises.idByName_eq name).symm
  · rw [Session.sync?, Session.sync?, Option.map_map, Option.map_map]
    exact map_eq_of_rel (fun vrf other isLike => Prod.ext
      (congrArg VrfSettings.netns isLike.settings_eq) isLike.routing.routes_eq) (alike id)

/-- A LAG may be listed before its member or after it. -/
theorem isLike_lagConfig :
    lagConfig.validate routerTargets = .ok () ∧
      (∀ interface ∈ lagConfig.interfaces, interface.kind = .lag → interface.lag = none) ∧
      ((startingVrfs lagConfig.vrfs).Pairwise fun first second =>
        first.boundNetns ≠ second.boundNetns) ∧
      lagConfig.interfaces.reverse ≠ lagConfig.interfaces ∧
      ∃ first second : Router MemoryKernel,
        (ofConfig {} KernelSpace.empty routerTargets lagConfig).1 = .ok first ∧
          (ofConfig {} KernelSpace.empty routerTargets
            { lagConfig with interfaces := lagConfig.interfaces.reverse }).1 = .ok second ∧
          first.IsLike second := by
  have valid : lagConfig.validate routerTargets = .ok () := by rfl
  have plain : ∀ interface ∈ lagConfig.interfaces,
      interface.kind = .lag → interface.lag = none := by decide
  have distinct : (startingVrfs lagConfig.vrfs).Pairwise fun first second =>
      first.boundNetns ≠ second.boundNetns := by decide
  exact ⟨valid, plain, distinct, by decide,
    isLike_of_perm {} valid plain distinct (List.reverse_perm lagConfig.interfaces)⟩

end Router

end ControlPlane
