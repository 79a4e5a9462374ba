/-
This file proves that a link that goes down and comes up again costs no routes.
The interfaces are afterwards what they were, and nothing of what the selection
reads is lost but static next hops over an interface that stopped routing. As the
selection is at a fixpoint before and after, and nothing is pending while no kernel
fails, all that was selected comes back without being announced again.
-/

import ControlPlane.Proofs.Lag
import ControlPlane.Proofs.Router.AtRest
import ControlPlane.Proofs.Router.Calm
import ControlPlane.Proofs.Router.Fixpoint
import ControlPlane.Proofs.Router.Tracking

namespace ControlPlane

/-! ### Down and up on the interfaces -/

namespace Interface

variable {interface : Interface}

theorem switched_switched (isUp : interface.isUp) :
    switched .up (switched .down interface) = interface := by
  obtain ⟨admin, oper⟩ : interface.admin = .up ∧ interface.oper = .up := by
    simpa [Interface.isUp] using isUp
  cases interface
  cases admin
  cases oper
  simp [switched]

theorem linked_linked (isUp : interface.isUp) :
    linked .up (linked .down interface) = interface := by
  obtain ⟨_, oper⟩ : interface.admin = .up ∧ interface.oper = .up := by
    simpa [Interface.isUp] using isUp
  cases interface
  cases oper
  rfl

end Interface

namespace InterfaceTable

variable {table : InterfaceTable} {name : String} {interface : Interface}

theorem get_of_find? (found : table.find? name = some interface) :
    table.get name = .ok interface := by
  rw [get, found]

/-- An interface that changes its state is found in the table after it. -/
theorem exists_find?_linkChange (found : table.find? name = some interface)
    {change : Interface → Interface}
    (same : ∀ interface : Interface, interface.SameButState (change interface)) :
    ∃ changed, (table.linkChange name change).find? name = some changed ∧
      interface.SameButState changed := by
  obtain ⟨restate, sameState, restated⟩ := (restates_linkChange table name same).same name
  rw [found, Option.map_some] at restated
  exact ⟨restate interface, restated, sameState interface⟩

theorem setAdmin_eq (found : table.find? name = some interface) (isUp : Bool) :
    table.setAdmin name isUp =
      .ok (usabilityChanges table (table.linkChange name (Interface.switched (.ofBool isUp)))
          (table.withLag name),
        table.linkChange name (Interface.switched (.ofBool isUp))) := by
  rw [setAdmin, get_of_find? found]
  rfl

theorem setOper_eq (found : table.find? name = some interface) (noLag : interface.kind ≠ .lag)
    (isUp : Bool) :
    table.setOper name isUp =
      .ok (usabilityChanges table (table.linkChange name (Interface.linked (.ofBool isUp)))
          (table.withLag name),
        table.linkChange name (Interface.linked (.ofBool isUp))) := by
  rw [setOper, get_of_find? found]
  exact if_neg noLag

theorem setRouting_eq (found : table.find? name = some interface) {routes : Bool}
    (different : interface.mode ≠ .ofBool routes) :
    table.setRouting name routes =
      .ok ((if LinkMode.ofBool routes = .bridging then [.of interface .routingDisabled] else []) ++
          usabilityChanges table (table.modify name (Interface.moded (.ofBool routes))) [name],
        table.modify name (Interface.moded (.ofBool routes))) := by
  rw [setRouting, get_of_find? found]
  exact if_neg different

/-- The table takes an event and then another one that leads back to it. The changes that the two
answer are of a kind. -/
def Undoes (table : InterfaceTable) (allowed : InterfaceChange → Prop)
    (down up : InterfaceTable → Tracked) : Prop :=
  ∃ downChanges lowered upChanges, down table = .ok (downChanges, lowered) ∧
    up lowered = .ok (upChanges, table) ∧ (∀ change ∈ downChanges, allowed change) ∧
    ∀ change ∈ upChanges, allowed change

theorem undoes_of_use {down up : InterfaceTable → Tracked} {lowered raised : InterfaceTable}
    {downNames upNames : List String}
    (lowers : down table = .ok (usabilityChanges table lowered downNames, lowered))
    (raises : up lowered = .ok (usabilityChanges lowered raised upNames, raised))
    (same : raised = table) : table.Undoes InterfaceChange.IsOfUse down up := by
  subst same
  exact ⟨_, _, _, lowers, raises, isOfUse_of_mem_usabilityChanges,
    isOfUse_of_mem_usabilityChanges⟩

/-- An interface that is switched off and on again leaves no trace. -/
theorem undoes_setAdmin (derived : table.LagsDerived) (plain : table.HasPlainLags)
    (found : table.find? name = some interface) (isUp : interface.isUp) :
    table.Undoes InterfaceChange.IsOfUse (·.setAdmin name false) (·.setAdmin name true) := by
  obtain ⟨changed, foundChanged, _⟩ :=
    exists_find?_linkChange found (Interface.sameButState_switched .down)
  have restored : (table.linkChange name (Interface.switched .down)).linkChange name
      (Interface.switched .up) = table :=
    linkChange_linkChange derived plain found rfl rfl (Interface.switched_switched isUp)
  exact undoes_of_use (setAdmin_eq found false) (setAdmin_eq foundChanged true) restored

/-- A link that goes down and comes up again leaves no trace. -/
theorem undoes_setOper (derived : table.LagsDerived) (plain : table.HasPlainLags)
    (found : table.find? name = some interface) (isUp : interface.isUp)
    (noLag : interface.kind ≠ .lag) :
    table.Undoes InterfaceChange.IsOfUse (·.setOper name false) (·.setOper name true) := by
  obtain ⟨changed, foundChanged, same⟩ :=
    exists_find?_linkChange found (Interface.sameButState_linked .down)
  have changedNoLag : changed.kind ≠ .lag := by rwa [same]
  have restored : (table.linkChange name (Interface.linked .down)).linkChange name
      (Interface.linked .up) = table :=
    linkChange_linkChange derived plain found rfl rfl (Interface.linked_linked isUp)
  exact undoes_of_use (setOper_eq found noLag false) (setOper_eq foundChanged changedNoLag true)
    restored

/-- An interface that stops routing and routes again leaves no trace. -/
theorem undoes_setRouting (found : table.find? name = some interface)
    (routes : interface.mode = .routing) :
    table.Undoes InterfaceChange.IsSilent (·.setRouting name false) (·.setRouting name true) := by
  let lowered := table.modify name (Interface.moded .bridging)
  have foundLowered : lowered.find? name = some (Interface.moded .bridging interface) := by
    rw [find?_modify, if_pos rfl, found, Option.map_some]
  have restored : lowered.modify name (Interface.moded .routing) = table := by
    refine ext_find? fun listed => ?_
    rw [find?_modify]
    split
    next here =>
      subst here
      rw [foundLowered, found, Option.map_some, Interface.moded, Interface.moded, ← routes]
    next elsewhere => rw [find?_modify, if_neg elsewhere]
  have notBridging : interface.mode ≠ .ofBool false := routes ▸ LinkMode.noConfusion
  have notRouting : LinkMode.bridging ≠ .ofBool true := LinkMode.noConfusion
  have lowers := setRouting_eq found notBridging
  have raises := setRouting_eq foundLowered notRouting
  have raisedTable : lowered.modify name (Interface.moded (.ofBool true)) = table := restored
  rw [raisedTable] at raises
  refine ⟨_, _, _, lowers, raises, List.forall_mem_append.2 ⟨?_, areSilent_usabilityChanges _ _ _⟩,
    List.forall_mem_append.2 ⟨areSilent_nil, areSilent_usabilityChanges _ _ _⟩⟩
  exact List.forall_mem_singleton.2 Origin.noConfusion

end InterfaceTable

/-! ### Operations on the interfaces -/

section Operations

variable {Kernel : Type}

theorem InterfaceOperation.lagsDerived {state : RoutingState Kernel} {operation : Operation}
    {changes : List InterfaceChange} {after : InterfaceTable}
    (performs : InterfaceOperation state operation changes after)
    (derived : state.interfaces.LagsDerived) : after.LagsDerived := by
  cases performs with
  | added _ _ answered => exact derived.appear answered
  | removed answered => exact derived.disappear answered
  | adminSet answered => exact derived.setAdmin answered
  | operSet answered => exact derived.setOper answered
  | routingSet answered => exact derived.setRouting answered
  | addressAdded _ answered => exact derived.addAddress answered
  | addressRemoved answered => exact derived.removeAddress answered
  | moved _ answered => exact derived.moveTo answered

variable [KernelBackend Kernel]

/-- The operation is an event on the interfaces. -/
def Operation.Tells (operation : Operation) (event : InterfaceTable → Tracked) : Prop :=
  ∀ (state : RoutingState MemoryKernel) {changes after},
    event state.interfaces = .ok (changes, after) →
      InterfaceOperation state operation changes after

/-- All LAGs have the states that their members give them, whatever happens to a router. -/
theorem isInvariant_lagsDerived (surroundings : Surroundings Kernel) :
    IsInvariant surroundings fun state => state.interfaces.LagsDerived where
  blank _ _ _ _ _ _ found := nomatch found
  changed _ before _ _ _ derived changes := by
    have kept : ∀ next : Session Kernel, next.state.interfaces = before.state.interfaces →
        next.published.state.interfaces.LagsDerived := by
      intro next same
      rw [← same] at derived
      exact derived
    cases changes with
    | @followed operation changes table performs =>
      have same := Session.interfaces_follow (before.withInterfaces table) changes
      have after : (before.withInterfaces table).state.interfaces.LagsDerived :=
        performs.lagsDerived derived
      rw [← same] at after
      exact after
    | limited =>
      exact kept _ (Session.interfaces_foldl (fun next id => next.interfaces_resettledAt _ id) _ _)
    | resynced => exact kept _ (Session.interfaces_foldl Session.interfaces_resyncedAt _ _)
    | rerouted | vrfAdded | vrfRemoved | defaultConfigured => exact derived
  refused _ _ derived refused := by cases refused <;> exact derived
  disturbed _ _ _ derived := derived

namespace RouterM

variable {session : Session Kernel} {changes : List InterfaceChange} {after : InterfaceTable}

/-- What the interfaces take, the router takes. -/
theorem run_perform (isKeyed : session.state.IsKeyed) {operation : Operation}
    (performs : InterfaceOperation session.state operation changes after) :
    operation.perform session =
      .ok .done ((session.withInterfaces after).follow changes).published := by
  have attributed := (performs.accounts isKeyed.interfaces).attributed
  have runs : ∀ event : VrfTable → InterfaceTable → Tracked,
      event session.state.vrfs session.state.interfaces = .ok (changes, after) →
      (onInterfaces event >>= fun _ => pure Response.done : RouterM Kernel Response) session =
        .ok .done ((session.withInterfaces after).follow changes).published := by
    intro event answered
    rw [run_bind, run_onInterfaces isKeyed.vrfs attributed answered]
    rfl
  have accepts : ∀ (checked : ConfigResult) (event : VrfTable → InterfaceTable → Tracked),
      checked = .ok () →
      event session.state.vrfs session.state.interfaces = .ok (changes, after) →
      ((accept checked >>= fun _ => onInterfaces event) >>= fun _ => pure Response.done :
        RouterM Kernel Response) session =
          .ok .done ((session.withInterfaces after).follow changes).published := by
    rintro _ event rfl answered
    exact runs event answered
  cases performs with
  | added checked named answered =>
    refine accepts _ _ checked ?_
    rw [named]
    exact answered
  | removed answered =>
    refine runs _ ?_
    rw [answered]
    rfl
  | adminSet answered => exact runs _ answered
  | operSet answered => exact runs _ answered
  | routingSet answered => exact runs _ answered
  | addressAdded checked answered => exact accepts _ _ checked answered
  | addressRemoved answered => exact runs _ answered
  | moved named answered =>
    refine runs _ ?_
    rw [named]
    exact answered

end RouterM

/-- A step that the interfaces take succeeds, and the router follows their changes. -/
theorem Router.step_of_performs {router : Router Kernel} (isKeyed : router.state.IsKeyed)
    {operation : Operation} {changes : List InterfaceChange} {after : InterfaceTable}
    (performs : InterfaceOperation router.state operation changes after) :
    router.step operation = (.ok .done, (router.step operation).2) ∧
      (router.step operation).2.state =
        (((⟨router.state, []⟩ : Session Kernel).withInterfaces after).follow
          changes).published.state := by
  let session : Session Kernel := ⟨router.state, []⟩
  have ran : operation.perform session =
      .ok .done ((session.withInterfaces after).follow changes).published :=
    RouterM.run_perform isKeyed performs
  rw [step, run, ran]
  exact ⟨rfl, rfl⟩

/-- What following changes does to a single VRF, following an event does to all VRFs. -/
theorem Session.rel_follow {session : Session Kernel} {changes : List InterfaceChange}
    (isKeyed : session.state.vrfs.IsKeyed)
    (attributed : RouterM.Attributed session.state.interfaces changes)
    {allowed : InterfaceChange → Prop} {relates : Vrf → Vrf → Prop}
    (bounds : Vrf.Bounds allowed relates) (areAllowed : ∀ change ∈ changes, allowed change)
    (id : UInt32) :
    Option.Rel relates (session.find? id) ((session.follow changes).find? id) := by
  refine rel_imp ?_ (rel_find?_follow isKeyed attributed id)
  rintro vrf after ⟨next, followed, settled⟩
  have ownAllowed : ∀ change ∈ changesOf id changes, allowed change :=
    fun change member => areAllowed change (List.mem_filter.1 member).1
  exact bounds.trans (bounds.follows followed ownAllowed) (bounds.settles ⟨settled.1, settled.2⟩)

end Operations

/-! ### Routers -/

/-- What is related to a thing in between is related to what that is related to. -/
theorem rel_join {relates alike : Vrf → Vrf → Prop} {first second third : Option Vrf}
    (left : Option.Rel relates first second) (right : Option.Rel relates second third)
    (joins : ∀ vrf next last, first = some vrf → third = some last → relates vrf next →
      relates next last → alike vrf last) : Option.Rel alike first third := by
  cases left with
  | none =>
    cases right
    exact .none
  | some related =>
    cases right with
    | some later => exact .some (joins _ _ _ rfl rfl related later)

namespace Router

/-- Two operations, one after the other, succeed. All interfaces are then what they were, the VRFs
are the same, and each of them is like the one it was in some respect. -/
def Restores (router : Router MemoryKernel) (alike : Vrf → Vrf → Prop) (down up : Operation) :
    Prop :=
  ∃ between after, router.step down = (.ok .done, between) ∧
    between.step up = (.ok .done, after) ∧ after.state.interfaces = router.state.interfaces ∧
    ∀ id, Option.Rel alike (router.state.vrfs.byId.find? id) (after.state.vrfs.byId.find? id)

/-- A router that can be reached, with nothing pending and no active fault. -/
structure IsSteady (router : Router MemoryKernel) : Prop where
  reachable : Reachable Surroundings.any router
  isCalm : Session.IsCalm ⟨router.state, []⟩

namespace IsSteady

variable {router : Router MemoryKernel}

theorem isKeyed (isSteady : router.IsSteady) : router.state.IsKeyed :=
  ((isInvariant_isTracked Surroundings.any).good_of_reachable isSteady.reachable).1

/-- A steady router has settled tables and forwards what it installed. -/
theorem isAtRest (isSteady : router.IsSteady) {id : UInt32} {vrf : Vrf}
    (found : router.state.vrfs.byId.find? id = some vrf) :
    vrf.IsAtRest (router.state.interfaces.resolver id) where
  isSettled :=
    (isInvariant_allSettled Surroundings.any).of_reachable isSteady.reachable id vrf found
  forwards destination := by
    have isTracked := (isInvariant_isTracked Surroundings.any).of_reachable isSteady.reachable
    refine ((isTracked.inLine id vrf found).tracks destination).fib_eq ?_
    rw [isSteady.isCalm.nonePending id vrf found]
    rfl

/-- A steady router takes what its interfaces take, and stays steady. -/
theorem exists_step (isSteady : router.IsSteady) {operation : Operation}
    {changes : List InterfaceChange} {table : InterfaceTable}
    (performs : InterfaceOperation router.state operation changes table)
    {allowed : InterfaceChange → Prop} {relates : Vrf → Vrf → Prop}
    (bounds : Vrf.Bounds allowed relates) (areAllowed : ∀ change ∈ changes, allowed change) :
    ∃ next, router.step operation = (.ok .done, next) ∧ next.IsSteady ∧
      next.state.interfaces = table ∧
      ∀ id, Option.Rel relates (router.state.vrfs.byId.find? id)
        (next.state.vrfs.byId.find? id) := by
  let session : Session MemoryKernel := ⟨router.state, []⟩
  have isKeyed : (session.withInterfaces table).state.vrfs.IsKeyed := isSteady.isKeyed.vrfs
  have attributed := (performs.accounts isSteady.isKeyed.interfaces).attributed
  have isCalm : (session.withInterfaces table).IsCalm :=
    ⟨isSteady.isCalm.nonePending, isSteady.isCalm.isQuiet⟩
  have staysCalm := isCalm.follow isKeyed attributed
  obtain ⟨succeeds, state_eq⟩ := step_of_performs isSteady.isKeyed performs
  refine ⟨(router.step operation).2, succeeds, ⟨isSteady.reachable.performed trivial, ?_⟩, ?_, ?_⟩
  · rw [state_eq]
    exact ⟨staysCalm.nonePending, staysCalm.isQuiet⟩
  · rw [state_eq]
    exact Session.interfaces_follow (session.withInterfaces table) changes
  · rw [state_eq]
    exact Session.rel_follow isKeyed attributed bounds areAllowed

/-- A steady router restores what its interfaces undo. -/
theorem restores (isSteady : router.IsSteady) {allowed : InterfaceChange → Prop}
    {relates alike : Vrf → Vrf → Prop} (bounds : Vrf.Bounds allowed relates)
    (rests : ∀ resolver first second, Vrf.IsAtRest resolver first → Vrf.IsAtRest resolver second →
      relates first second → alike first second)
    {downEvent upEvent : InterfaceTable → Tracked} {down up : Operation}
    (lowers : down.Tells downEvent) (raises : up.Tells upEvent)
    (undoes : router.state.interfaces.Undoes allowed downEvent upEvent) :
    router.Restores alike down up := by
  obtain ⟨downChanges, lowered, upChanges, downAnswers, upAnswers, downAllowed, upAllowed⟩ := undoes
  obtain ⟨between, downStep, betweenSteady, sameLowered, downRelates⟩ :=
    isSteady.exists_step (lowers router.state downAnswers) bounds downAllowed
  rw [← sameLowered] at upAnswers
  obtain ⟨after, upStep, afterSteady, sameInterfaces, upRelates⟩ :=
    betweenSteady.exists_step (raises between.state upAnswers) bounds upAllowed
  refine ⟨between, after, downStep, upStep, sameInterfaces, fun id => ?_⟩
  refine rel_join (downRelates id) (upRelates id) fun vrf next last isVrf isLast now later => ?_
  have lastAtRest := afterSteady.isAtRest isLast
  rw [sameInterfaces] at lastAtRest
  exact rests _ vrf last (isSteady.isAtRest isVrf) lastAtRest (bounds.trans now later)

end IsSteady

/-- Nothing pending is counted, so nothing is pending. -/
theorem isSteady_of_reachable {router : Router MemoryKernel}
    (reachable : Reachable Surroundings.any router)
    (nonePending : router.state.vrfs.pendingCount = 0)
    (noFault : ∀ netns, (router.kernel netns).IsQuiet) : router.IsSteady where
  reachable := reachable
  isCalm :=
    { nonePending := fun _ _ found => SortedMap.ext_find? fun destination =>
        VrfTable.find?_pending_of_pendingCount nonePending found destination
      isQuiet := noFault }

end Router

/-! ### Flaps -/

theorem tells_setAdmin (name : String) (isUp : Bool) :
    (Operation.setAdmin name isUp).Tells (·.setAdmin name isUp) :=
  fun _ _ _ answered => .adminSet answered

theorem tells_setOper (name : String) (isUp : Bool) :
    (Operation.setOper name isUp).Tells (·.setOper name isUp) :=
  fun _ _ _ answered => .operSet answered

theorem tells_setRouting (name : String) (routes : Bool) :
    (Operation.setRouting name routes).Tells (·.setRouting name routes) :=
  fun _ _ _ answered => .routingSet answered

/-- In every router that can be reached, if no LAG is a member of a LAG, nothing is pending and no
fault is active in any kernel, an interface that is up can go down and come up again without loss.
If it is switched off and on, or if it is no LAG and its link goes down and up, the interfaces are
afterwards what they were, and so are the tables, static routes and forwarding routes of all VRFs.
If it stops routing and routes again, the interfaces are what they were too; static next hops may
be gone, but all prefixes that kept theirs have the candidates, the installed route and the
forwarding route that they had, and candidates of dynamic protocols and connected ones have their
next hops back for all prefixes. -/
theorem restores_of_reachable {router : Router MemoryKernel}
    (reachable : Reachable Surroundings.any router)
    (plain : router.state.interfaces.HasPlainLags)
    (nonePending : router.state.vrfs.pendingCount = 0)
    (noFault : ∀ netns, (router.kernel netns).IsQuiet) {name : String} {interface : Interface}
    (found : router.state.interfaces.find? name = some interface) (isUp : interface.isUp) :
    router.Restores Vrf.SameRouting (.setAdmin name false) (.setAdmin name true) ∧
      (interface.kind ≠ .lag →
        router.Restores Vrf.SameRouting (.setOper name false) (.setOper name true)) ∧
      (interface.mode = .routing →
        router.Restores Vrf.SameUnlessPurged (.setRouting name false) (.setRouting name true)) := by
  have isSteady := Router.isSteady_of_reachable reachable nonePending noFault
  have derived := (isInvariant_lagsDerived Surroundings.any).of_reachable reachable
  have restsSame : ∀ resolver first second, Vrf.IsAtRest resolver first →
      Vrf.IsAtRest resolver second → first.SameBasis second → first.SameRouting second :=
    fun _ _ _ => Vrf.IsAtRest.sameRouting
  have restsPurged : ∀ resolver first second, Vrf.IsAtRest resolver first →
      Vrf.IsAtRest resolver second → first.LosesStatics second → first.SameUnlessPurged second :=
    fun _ _ _ => Vrf.IsAtRest.sameUnlessPurged
  refine ⟨?_, fun noLag => ?_, fun routes => ?_⟩
  · exact isSteady.restores Vrf.bounds_sameBasis restsSame (tells_setAdmin name false)
      (tells_setAdmin name true) (InterfaceTable.undoes_setAdmin derived plain found isUp)
  · exact isSteady.restores Vrf.bounds_sameBasis restsSame (tells_setOper name false)
      (tells_setOper name true) (InterfaceTable.undoes_setOper derived plain found isUp noLag)
  · exact isSteady.restores Vrf.bounds_losesStatics restsPurged (tells_setRouting name false)
      (tells_setRouting name true) (InterfaceTable.undoes_setRouting found routes)

/-- The interface of the sample router carries a route, and the route survives all that may happen
to the link. -/
theorem restores_of_sampleRouter : ∃ (router : Router MemoryKernel) (vrf : Vrf)
    (route : ForwardingRoute), router.vrf defaultVrfId = .ok vrf ∧
      vrf.sync.fib.find? (Prefix.ofNetwork sampleNetwork) = some route ∧
      router.Restores Vrf.SameRouting (.setAdmin "eth0" false) (.setAdmin "eth0" true) ∧
      router.Restores Vrf.SameRouting (.setOper "eth0" false) (.setOper "eth0" true) ∧
      router.Restores Vrf.SameUnlessPurged (.setRouting "eth0" false)
        (.setRouting "eth0" true) := by
  have forwards : ((sampleRouter?.filter fun router =>
      router.state.vrfs.pendingCount = 0 ∧
        (∀ kernel ∈ router.state.kernels.kernels.values, kernel.faults = SortedMap.empty) ∧
        ∀ interface ∈ router.state.interfaces.interfaces, interface.kind ≠ .lag).bind fun router =>
          ((router.state.interfaces.find? "eth0").filter fun interface =>
            interface.isUp ∧ interface.mode = .routing).bind fun _ =>
              (router.vrf defaultVrfId).toOption.bind fun vrf =>
                vrf.sync.fib.find? (Prefix.ofNetwork sampleNetwork)).isSome = true := by
    decide +kernel
  obtain ⟨route, forwards⟩ := Option.isSome_iff_exists.1 forwards
  obtain ⟨router, sample, forwards⟩ := Option.bind_eq_some_iff.1 forwards
  obtain ⟨interface, eth, forwards⟩ := Option.bind_eq_some_iff.1 forwards
  obtain ⟨vrf, isVrf, forwards⟩ := Option.bind_eq_some_iff.1 forwards
  obtain ⟨built, facts⟩ := Option.filter_eq_some_iff.1 sample
  obtain ⟨found, isGood⟩ := Option.filter_eq_some_iff.1 eth
  obtain ⟨nonePending, noFault, noLag⟩ := of_decide_eq_true facts
  obtain ⟨isUp, routes⟩ := of_decide_eq_true isGood
  have listed : ∀ {name : String} {interface : Interface},
      router.state.interfaces.find? name = some interface → interface.kind ≠ .lag :=
    fun isFound => noLag _ (List.mem_map_of_mem (SortedMap.find?_eq_some_iff.1 isFound))
  have isQuiet : ∀ netns, (router.kernel netns).IsQuiet := by
    intro netns
    unfold Router.kernel KernelSpace.kernel
    cases isFound : router.state.kernels.kernels.find? netns with
    | none => rfl
    | some kernel =>
      exact noFault kernel (List.mem_map_of_mem (SortedMap.find?_eq_some_iff.1 isFound))
  obtain ⟨admin, oper, routing⟩ := restores_of_reachable
    (reachable_sampleRouter trivial trivial built) (fun _ _ isFound isLag =>
      absurd isLag (listed isFound)) nonePending isQuiet found isUp
  exact ⟨router, vrf, route, eq_ok_of_toOption isVrf, forwards, admin, oper (listed found),
    routing routes⟩

end ControlPlane
