/-
This file says what a step of a router does to kernels. Kernels are only touched by
the synchronizers of VRFs, each of which works on the kernel of its own namespace
and stays in it. A step lets the synchronizers work that belong to the VRFs it is
on, so the kernel of a namespace changes only if one of these VRFs is bound to it.
-/

import ControlPlane.Proofs.Router.Reachable
import ControlPlane.Proofs.Synchronizer

namespace ControlPlane

variable {Kernel : Type} [KernelBackend Kernel]

/-! ### Synchronizers at work -/

/-- What a synchronizer does with its kernel: it programs deltas, or tries again what is
pending. -/
inductive Programmed.Works (state : Programmed Kernel) : Programmed Kernel → Prop
  | programmed (deltas : List Delta) : Works state (state.applyAll deltas).2
  | retried : Works state state.retryPending

theorem Programmed.Works.netns_eq {before after : Programmed Kernel} (works : before.Works after) :
    after.sync.netns = before.sync.netns := by
  cases works with
  | programmed deltas => exact netns_applyAll deltas before
  | retried => exact netns_retryPending before

namespace Session

omit [KernelBackend Kernel] in
/-- The synchronizer of the VRF of an id. -/
def sync? (session : Session Kernel) (id : UInt32) : Option Synchronizer :=
  (session.find? id).map Vrf.sync

/-- The kernel of a namespace. -/
def kernel (session : Session Kernel) (netns : String) : Kernel :=
  session.state.kernels.kernel netns

/-- The second session is the first one after synchronizers worked, but none beside those of the
VRFs that the step is on. -/
inductive Works (isOn : UInt32 → Prop) : Session Kernel → Session Kernel → Prop
  | idle {before after : Session Kernel} (sync_eq : ∀ id, after.sync? id = before.sync? id)
      (kernel_eq : ∀ netns, after.kernel netns = before.kernel netns) : Works isOn before after
  | worked {before after : Session Kernel} {id : UInt32} {sync : Synchronizer}
      {next : Programmed Kernel} (concerned : isOn id) (found : before.sync? id = some sync)
      (works : Programmed.Works ⟨sync, before.kernel sync.netns⟩ next)
      (sync_eq : ∀ listed, after.sync? listed =
        if id = listed then some next.sync else before.sync? listed)
      (kernel_eq : ∀ netns, after.kernel netns =
        if sync.netns = netns then next.kernel else before.kernel netns) : Works isOn before after
  | trans {first second third : Session Kernel} (left : Works isOn first second)
      (right : Works isOn second third) : Works isOn first third

namespace Works

variable {isOn : UInt32 → Prop} {before after : Session Kernel}

theorem refl (session : Session Kernel) : Works isOn session session :=
  .idle (fun _ => rfl) fun _ => rfl

/-- Synchronizers stay in their namespaces. -/
theorem netns_eq (works : Works isOn before after) (id : UInt32) :
    (after.sync? id).map Synchronizer.netns = (before.sync? id).map Synchronizer.netns := by
  induction works with
  | idle sync_eq _ => rw [sync_eq]
  | worked _ found works sync_eq _ =>
    rw [sync_eq]
    split
    next here =>
      rw [← here, found, Option.map_some, Option.map_some, works.netns_eq]
    next => rfl
  | trans _ _ left right => exact right.trans left

/-- The kernel of a namespace stays as it is if no VRF that the step is on is bound to it. -/
theorem kernel_eq (works : Works isOn before after) {netns : String}
    (elsewhere : ∀ id, isOn id →
      (before.sync? id).map Synchronizer.netns ≠ some netns) :
    after.kernel netns = before.kernel netns := by
  induction works with
  | idle _ kernel_eq => exact kernel_eq netns
  | worked concerned found _ _ kernel_eq =>
    rw [kernel_eq, if_neg]
    rintro rfl
    exact elsewhere _ concerned (by rw [found, Option.map_some])
  | trans left _ leftKept rightKept =>
    refine (rightKept fun id concerned => ?_).trans (leftKept elsewhere)
    rw [left.netns_eq]
    exact elsewhere id concerned

theorem mono {wider : UInt32 → Prop} (works : Works isOn before after)
    (includes : ∀ id, isOn id → wider id) : Works wider before after := by
  induction works with
  | idle sync_eq kernel_eq => exact .idle sync_eq kernel_eq
  | worked concerned found works sync_eq kernel_eq =>
    exact .worked (includes _ concerned) found works sync_eq kernel_eq
  | trans _ _ left right => exact left.trans right

/-- Sessions that let synchronizers work one after the other do so together. -/
theorem foldl {Item : Type} {step : Session Kernel → Item → Session Kernel} {items : List Item}
    (works : ∀ item ∈ items, ∀ session, Works isOn session (step session item))
    (session : Session Kernel) : Works isOn session (items.foldl step session) :=
  List.foldlRecOn (motive := Works isOn session) items step (.refl session)
    fun next soFar item member => soFar.trans (works item member next)

end Works

/-! ### Steps on one VRF -/

section OneVrf

variable {isOn : UInt32 → Prop} {session after : Session Kernel} {id : UInt32}

/-- A synchronizer worked if its deltas were programmed and the outcome was stored. -/
theorem works_of_programmed {rerouted : Rerouted} (concerned : isOn id)
    (found : session.sync? id = some rerouted.2.sync)
    (kernels_eq : after.state.kernels = (session.programmed rerouted).state.kernels)
    (sync_eq : ∀ listed, after.sync? listed =
      if id = listed then some (session.programmedVrf rerouted).sync else session.sync? listed) :
    Works isOn session after := by
  have sameNetns : (session.programmedVrf rerouted).netns = rerouted.2.sync.netns :=
    Programmed.netns_applyAll rerouted.1 _
  refine .worked concerned found (.programmed rerouted.1) sync_eq fun netns => ?_
  show after.state.kernels.kernel netns = _
  rw [kernels_eq]
  show (session.state.kernels.store (session.programmedVrf rerouted).netns _).kernel netns = _
  rw [KernelSpace.kernel_store, sameNetns]
  rfl

omit [KernelBackend Kernel] in
theorem sync?_stored (id listed : UInt32) (vrf : Vrf) (session : Session Kernel) :
    (session.stored id vrf).sync? listed =
      if id = listed then (session.sync? listed).map fun _ => vrf.sync
      else session.sync? listed := by
  rw [sync?, find?_stored]
  split
  · rw [sync?, Option.map_map, Option.map_map]
    rfl
  · rfl

/-- The same if the VRF was stored under its id. -/
theorem works_stored {rerouted : Rerouted} {vrf : Vrf} {between : Session Kernel}
    (concerned : isOn id) (found : session.sync? id = some rerouted.2.sync)
    (kernels_eq : between.state.kernels = (session.programmed rerouted).state.kernels)
    (vrfs_eq : between.state.vrfs = session.state.vrfs)
    (same : vrf.sync = (session.programmedVrf rerouted).sync) :
    Works isOn session (between.stored id vrf) := by
  refine works_of_programmed concerned found kernels_eq fun listed => ?_
  have unchanged : between.sync? = session.sync? := by
    funext listed
    rw [sync?, find?, vrfs_eq]
    rfl
  rw [sync?_stored, unchanged, same]
  split
  next here => rw [← here, found, Option.map_some]
  next => rfl

theorem works_settle {rerouted : Rerouted} (concerned : isOn id)
    (found : session.sync? id = some rerouted.2.sync) :
    Works isOn session (session.settle id rerouted) :=
  works_stored concerned found rfl rfl rfl

theorem works_resettledAt {settings : Vrf → Vrf} (keeps : ∀ vrf, (settings vrf).sync = vrf.sync)
    (concerned : isOn id) : Works isOn session (session.resettledAt settings id) := by
  unfold resettledAt
  split
  next => exact .refl session
  next vrf found =>
    have known : session.sync? id = some (session.refresh (settings vrf)).2.sync := by
      rw [sync?, found, Option.map_some, ← keeps]
      rfl
    exact works_stored concerned known rfl rfl rfl

theorem works_resyncedAt (concerned : isOn id) : Works isOn session (session.resyncedAt id) := by
  unfold resyncedAt
  split
  next => exact .refl session
  next vrf found =>
    have known : session.sync? id = some vrf.sync := by rw [sync?, found, Option.map_some]
    have retries : Programmed.Works ⟨vrf.sync, session.kernel vrf.sync.netns⟩
        (session.retrying vrf) := .retried
    refine .worked concerned known retries (fun listed => ?_) fun netns => ?_
    · rw [sync?_stored]
      split
      next here =>
        rw [← here]
        show (session.sync? id).map _ = _
        rw [known, Option.map_some]
      next => rfl
    · show (session.state.kernels.store _ _).kernel netns = _
      rw [KernelSpace.kernel_store, retries.netns_eq]
      rfl

/-- A VRF that takes a configuration is programmed twice: with the deltas of the configuration,
and when all its routes are selected anew. -/
theorem works_configured {config : VrfConfig} {vrf : Vrf} (concerned : isOn id)
    (found : session.sync? id = some vrf.sync)
    (kernels_eq : after.state.kernels = (session.configured config vrf).state.kernels)
    (sync_eq : ∀ listed, after.sync? listed =
      if id = listed then some (session.configuredVrf config vrf).sync
      else session.sync? listed) : Works isOn session after := by
  have sameSync : (session.configuring config vrf).2.sync = vrf.sync :=
    (reroutes_configuring config vrf session).sync_eq
  rw [← sameSync] at found
  have first : Works isOn session (session.settle id (session.configuring config vrf)) :=
    works_settle concerned found
  have between (listed : UInt32) :
      (session.settle id (session.configuring config vrf)).sync? listed =
        if id = listed then some (session.programmedVrf (session.configuring config vrf)).sync
        else session.sync? listed := by
    show (stored id _ _).sync? listed = _
    rw [sync?_stored]
    split
    next here =>
      rw [← here]
      exact congrArg (Option.map _) found
    next => rfl
  have known : (session.settle id (session.configuring config vrf)).sync? id =
      some (session.refresh (session.programmedVrf (session.configuring config vrf))).2.sync :=
    (between id).trans (if_pos rfl)
  refine first.trans (works_of_programmed concerned known kernels_eq fun listed => ?_)
  rw [sync_eq, between]
  split <;> rfl

end OneVrf

/-- A session that follows changes lets the synchronizers work of the VRFs that they name. -/
theorem works_follow {session : Session Kernel} {changes : List InterfaceChange}
    (isKeyed : session.state.vrfs.IsKeyed)
    (attributed : RouterM.Attributed session.state.interfaces changes) :
    Works (· ∈ changes.map InterfaceChange.vrf) session (session.follow changes) := by
  have followed := (foldl_followed_keeps session isKeyed attributed
    (Works (· ∈ changes.map InterfaceChange.vrf) session) (.refl session)
    (fun _ _ soFar => soFar.trans (.idle (fun _ => rfl) fun _ => rfl))
    fun change member next vrf rerouted _ soFar found _ reroutes => by
      have known : next.sync? change.vrf = some rerouted.2.sync := by
        rw [sync?, found, Option.map_some, reroutes.sync_eq]
      exact soFar.trans (works_settle (List.mem_map_of_mem member) known)).1
  refine followed.trans (.foldl (fun id member next => ?_) _)
  exact works_resettledAt (fun _ => rfl) (SortedSet.mem_keys_ofList.1 member)

/-- The session in which a VRF is listed that has no routes yet. -/
def enrolled (config : VrfConfig) (session : Session Kernel) : Session Kernel :=
  session.withVrfs
    ⟨session.state.vrfs.byId.insert config.id (session.freshVrf config),
      session.state.vrfs.idByName.insert config.name config.id⟩

omit [KernelBackend Kernel] in
theorem sync?_enrolled (config : VrfConfig) (session : Session Kernel) (id : UInt32) :
    (session.enrolled config).sync? id =
      if config.id = id then some (session.freshVrf config).sync else session.sync? id := by
  rw [sync?, find?, enrolled, withVrfs, SortedMap.find?_insert]
  split <;> rfl

/-- A VRF that is added is listed first, and then only its own synchronizer works. -/
theorem works_vrfAdded (config : VrfConfig) (session : Session Kernel) :
    Works (· = config.id) (session.enrolled config) (session.vrfAdded config) := by
  have known : (session.enrolled config).sync? config.id = some (session.freshVrf config).sync := by
    rw [sync?_enrolled, if_pos rfl]
  refine works_configured rfl known rfl fun id => ?_
  rw [sync?_enrolled, sync?, find?_vrfAdded]
  split <;> rfl

end Session

/-! ### Steps -/

/-- An operation on a state is on a VRF: it is one for this VRF or for all, or it changes an
interface that is attached to the VRF. -/
def Operation.IsOn (id : UInt32) (before : RoutingState Kernel) (after : InterfaceTable) :
    Operation → Prop
  | addVrf config => config.id = id
  | removeVrf name => before.vrfs.idOf name = .ok id
  | announce candidate => candidate.vrf = id
  | withdraw vrf _ _ | withdrawInstance vrf _ _ _ | addStatic vrf _ | removeStatic vrf _ |
    setBgp vrf _ | removeBgp vrf | setDistance vrf _ | setRouterId vrf _ => vrf = id
  | setEcmp _ | resync => True
  | addInterface _ | removeInterface _ | setAdmin _ _ | setOper _ _ | setRouting _ _ |
    addAddress _ _ | removeAddress _ _ | moveInterface _ _ =>
    ¬ InterfaceTable.SameIn id before.interfaces after

omit [KernelBackend Kernel] in
/-- The changes that an operation on the interfaces answers name VRFs that it is on. -/
theorem InterfaceOperation.isOn {state : RoutingState Kernel} {operation : Operation}
    {changes : List InterfaceChange} {after : InterfaceTable}
    (performs : InterfaceOperation state operation changes after) {id : UInt32}
    (named : id ∈ changes.map InterfaceChange.vrf) : operation.IsOn id state after := by
  obtain ⟨change, member, rfl⟩ := List.mem_map.1 named
  have founded := performs.areFounded change member
  cases performs <;> exact founded

omit [KernelBackend Kernel] in
theorem VrfOperation.isOn {state : RoutingState Kernel} {id : UInt32} {vrf : Vrf}
    {operation : Operation} {events : List RoutingEvent} {rerouted : Rerouted}
    (performs : VrfOperation state id vrf operation events rerouted) (after : InterfaceTable) :
    operation.IsOn id state after := by
  cases performs with
  | announced _ own => exact own
  | _ => rfl

/-- The VRFs that a step is on. -/
def Action.IsOn (id : UInt32) (before : RoutingState Kernel) (after : InterfaceTable) :
    Action → Prop
  | perform operation => operation.IsOn id before after
  | configureDefault _ => id = defaultVrfId

namespace Session

/-- What a step does to synchronizers and kernels: synchronizers of VRFs that it is on work. A VRF
may be listed before, and a VRF without interfaces may be the one that is removed. -/
inductive Reworks (before : Session Kernel) : Action → Session Kernel → Prop
  | worked {action : Action} {after : Session Kernel}
      (works : Works (action.IsOn · before.state after.state.interfaces) before after) :
      Reworks before action after
  | vrfAdded {config : VrfConfig} {after : Session Kernel} (idFree : before.sync? config.id = none)
      (works : Works (· = config.id) (before.enrolled config) after) :
      Reworks before (.perform (.addVrf config)) after
  | vrfRemoved {name : String} {id : UInt32} {vrf : Vrf} {after : Session Kernel}
      (named : before.state.vrfs.idOf name = .ok id)
      (idle : before.state.interfaces.attachedTo id = []) (found : before.find? id = some vrf)
      (sync_eq : ∀ listed, after.sync? listed = if id = listed then none else before.sync? listed)
      (kernel_eq : ∀ netns, after.kernel netns = (before.programmed vrf.purge).kernel netns) :
      Reworks before (.perform (.removeVrf name)) after

variable {before after : Session Kernel} {action : Action}

/-- Synchronizers work after a session was given the same synchronizers and kernels. -/
theorem Works.after_idle {isOn : UInt32 → Prop} {between : Session Kernel}
    (works : Works isOn between after) (sync_eq : ∀ id, between.sync? id = before.sync? id)
    (kernel_eq : ∀ netns, between.kernel netns = before.kernel netns) : Works isOn before after :=
  .trans (.idle sync_eq kernel_eq) works

/-- What is published and recorded concerns no synchronizer. -/
theorem Reworks.published (reworks : before.Reworks action after) (events : List RoutingEvent) :
    before.Reworks action ⟨after.published.state, events⟩ := by
  cases reworks with
  | worked works => exact .worked (works.trans (.idle (fun _ => rfl) fun _ => rfl))
  | vrfAdded idFree works =>
    exact .vrfAdded idFree (works.trans (.idle (fun _ => rfl) fun _ => rfl))
  | vrfRemoved named idle found sync_eq kernel_eq =>
    exact .vrfRemoved named idle found sync_eq kernel_eq

theorem reworks_rerouted {operation : Operation} {id : UInt32} {vrf : Vrf}
    {events : List RoutingEvent} {rerouted : Rerouted} (found : before.find? id = some vrf)
    (performs : VrfOperation before.state id vrf operation events rerouted) :
    before.Reworks (.perform operation) ((before.recorded events).settle id rerouted) := by
  have known : (before.recorded events).sync? id = some rerouted.2.sync := by
    show (before.find? id).map Vrf.sync = _
    rw [found, Option.map_some, performs.reroutes.sync_eq]
  have concerned (after : InterfaceTable) :
      (Action.perform operation).IsOn id before.state after := performs.isOn after
  exact .worked ((works_settle (concerned _) known).after_idle (fun _ => rfl) fun _ => rfl)

theorem reworks_followed {operation : Operation} {changes : List InterfaceChange}
    {table : InterfaceTable} (isKeyed : before.state.IsKeyed)
    (performs : InterfaceOperation before.state operation changes table) :
    before.Reworks (.perform operation) ((before.withInterfaces table).follow changes) := by
  have attributed := (performs.accounts isKeyed.interfaces).attributed
  have follows : Works _ (before.withInterfaces table) _ := works_follow isKeyed.vrfs attributed
  have same := interfaces_follow (before.withInterfaces table) changes
  have concerned (id : UInt32) (named : id ∈ changes.map InterfaceChange.vrf) :
      (Action.perform operation).IsOn id before.state
        ((before.withInterfaces table).follow changes).state.interfaces := by
    rw [same]
    exact performs.isOn named
  exact .worked ((follows.mono concerned).after_idle (fun _ => rfl) fun _ => rfl)

theorem reworks_vrfAdded {config : VrfConfig} {kernels : KernelSpace Kernel}
    (idFree : before.find? config.id = none)
    (opened : before.state.kernels.openNamespace (config.netns.getD config.name) = .ok kernels) :
    before.Reworks (.perform (.addVrf config)) ((before.withKernels kernels).vrfAdded config) := by
  have unlisted : before.sync? config.id = none := by rw [sync?, idFree, Option.map_none]
  have sameKernels (netns : String) :
      ((before.withKernels kernels).enrolled config).kernel netns =
        (before.enrolled config).kernel netns := by
    show kernels.kernel netns = before.state.kernels.kernel netns
    rw [KernelSpace.openNamespace_eq opened]
    rfl
  exact .vrfAdded unlisted
    ((works_vrfAdded config (before.withKernels kernels)).after_idle (fun _ => rfl) sameKernels)

theorem reworks_vrfRemoved {name : String} {id : UInt32} {vrf : Vrf}
    (named : before.state.vrfs.idByName.find? name = some id)
    (idle : before.state.interfaces.attachedTo id = []) (found : before.find? id = some vrf) :
    before.Reworks (.perform (.removeVrf name)) (before.vrfRemoved name id vrf) := by
  have isNamed : before.state.vrfs.idOf name = .ok id := by rw [VrfTable.idOf, named]
  refine .vrfRemoved isNamed idle found (fun listed => ?_) fun netns => rfl
  rw [sync?, find?_vrfRemoved]
  split <;> rfl

theorem reworks_limited (config : EcmpConfig) (before : Session Kernel) :
    before.Reworks (.perform (.setEcmp config)) (before.limited config) := by
  have each : ∀ id ∈ before.state.vrfs.ids, ∀ next : Session Kernel,
      Works (fun _ => True) next (next.limitedAt config.maxPaths id) :=
    fun _ _ _ => works_resettledAt (fun _ => rfl) trivial
  exact .worked ((Works.foldl each before).trans (.idle (fun _ => rfl) fun _ => rfl))

theorem reworks_defaultConfigured {config : VrfConfig} {vrf : Vrf}
    (found : before.find? defaultVrfId = some vrf) :
    before.Reworks (.configureDefault config)
      ((before.configured config vrf).stored defaultVrfId (before.configuredVrf config vrf)) := by
  have known : before.sync? defaultVrfId = some vrf.sync := by rw [sync?, found, Option.map_some]
  have concerned (after : InterfaceTable) :
      (Action.configureDefault config).IsOn defaultVrfId before.state after := rfl
  have sameKernels :
      ((before.configured config vrf).stored defaultVrfId
        (before.configuredVrf config vrf)).state.kernels =
          (before.configured config vrf).state.kernels := rfl
  refine .worked (works_configured (concerned _) known sameKernels fun listed => ?_)
  rw [sync?_stored]
  split
  next here =>
    rw [← here]
    exact congrArg (Option.map _) known
  next => rfl

/-- The kernel of a namespace stays as it is if no VRF that the step is on is bound to it, neither
before nor after. -/
theorem Reworks.kernel_eq (reworks : before.Reworks action after) {netns : String}
    (elsewhere : ∀ id, action.IsOn id before.state after.state.interfaces →
      (before.sync? id).map Synchronizer.netns ≠ some netns ∧
        (after.sync? id).map Synchronizer.netns ≠ some netns) :
    after.kernel netns = before.kernel netns := by
  cases reworks with
  | worked works => exact works.kernel_eq fun id isOn => (elsewhere id isOn).1
  | vrfAdded idFree works =>
    refine works.kernel_eq ?_
    rintro id rfl
    rw [← works.netns_eq]
    exact (elsewhere _ rfl).2
  | @vrfRemoved name id vrf _ named idle found sync_eq kernel_eq =>
    have sameNetns : (before.programmedVrf vrf.purge).netns = vrf.netns :=
      Programmed.netns_applyAll vrf.purge.1 _
    have apart : vrf.netns ≠ netns := fun here =>
      (elsewhere id named).1 (by rw [sync?, found]; exact congrArg some here)
    rw [kernel_eq]
    show (before.state.kernels.store (before.programmedVrf vrf.purge).netns _).kernel netns = _
    rw [KernelSpace.kernel_store, sameNetns, if_neg apart]
    rfl

/-- A VRF that is bound to a namespace stays so in a step that is not on it. -/
theorem Reworks.bound (reworks : before.Reworks action after) {id : UInt32} {netns : String}
    (elsewhere : ¬ action.IsOn id before.state after.state.interfaces)
    (bound : (before.sync? id).map Synchronizer.netns = some netns) :
    (after.sync? id).map Synchronizer.netns = some netns := by
  cases reworks with
  | worked works => rw [works.netns_eq, bound]
  | @vrfAdded config _ idFree works =>
    have apart : config.id ≠ id := elsewhere
    rw [works.netns_eq, sync?_enrolled, if_neg apart, bound]
  | vrfRemoved named idle found sync_eq =>
    rw [sync_eq, if_neg, bound]
    rintro rfl
    exact elsewhere named

end Session

/-- Every step lets the synchronizers of VRFs work that it is on. -/
theorem Changes.reworks {before after : Session Kernel} {action : Action}
    (changes : Changes before action after) (isKeyed : before.state.IsKeyed) :
    before.Reworks action after := by
  cases changes with
  | rerouted found performs => exact Session.reworks_rerouted found performs
  | followed performs => exact Session.reworks_followed isKeyed performs
  | vrfAdded idFree _ opened _ => exact Session.reworks_vrfAdded idFree opened
  | vrfRemoved named _ idle found => exact Session.reworks_vrfRemoved named idle found
  | limited => exact Session.reworks_limited _ before
  | resynced => exact .worked (.foldl (fun _ _ _ => Session.works_resyncedAt trivial) before)
  | defaultConfigured found => exact Session.reworks_defaultConfigured found

/-- A step that is refused lets no synchronizer work. -/
theorem Refused.works {before after : Session Kernel} (refused : Refused before after)
    (isOn : UInt32 → Prop) : Session.Works isOn before after := by
  cases refused with
  | recorded | published => exact .idle (fun _ => rfl) fun _ => rfl
  | @opened netns kernels opens events =>
    refine .idle (fun _ => rfl) fun listed => ?_
    show kernels.kernel listed = before.state.kernels.kernel listed
    rw [KernelSpace.openNamespace_eq opens]
    rfl

/-- What a step of a router does to synchronizers and kernels, whether it succeeds or fails. -/
theorem Router.reworks_step {router : Router Kernel} (isKeyed : router.state.IsKeyed)
    (operation : Operation) : Session.Reworks ⟨router.state, []⟩ (.perform operation)
      ⟨(router.step operation).2.state, []⟩ := by
  obtain ⟨_, next, _, changes, same⟩ | ⟨_, after, _, refused, same⟩ := step_cases isKeyed
  · rw [same]
    exact (changes.reworks isKeyed).published []
  · rw [same]
    exact .worked ((refused.works _).trans (.idle (fun _ => rfl) fun _ => rfl))

end ControlPlane
