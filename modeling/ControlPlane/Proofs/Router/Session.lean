/-
This file says what the programs that all operations share make of a session.
Programming deltas and refreshing a VRF always succeed, so they are functions on
sessions. Other programs may fail, and for these the file has a rule for every
way in which programs are put together: it suffices to know how the parts end.
-/

import ControlPlane.Proofs.Interface
import ControlPlane.Proofs.Vrf
import ControlPlane.Router

namespace ControlPlane

/-! ### Kernels -/

/-- To store the kernel of a namespace concerns no other namespace. -/
theorem KernelSpace.kernel_store {Kernel : Type} [KernelBackend Kernel]
    (space : KernelSpace Kernel) (netns listed : String) (kernel : Kernel) :
    (space.store netns kernel).kernel listed =
      if netns = listed then kernel else space.kernel listed := by
  rw [KernelSpace.kernel, store, SortedMap.find?_insert]
  split <;> rfl

/-- To open a namespace touches no kernel. -/
theorem KernelSpace.openNamespace_eq {Kernel : Type} {space opened : KernelSpace Kernel}
    {netns : String} (opens : space.openNamespace netns = .ok opened) :
    opened = { space with opened := opened.opened } := by
  unfold openNamespace at opens
  split at opens
  next => cases opens
  next =>
    cases opens
    rfl

/-! ### Sessions -/

namespace Session

variable {Kernel : Type}

def recorded (events : List RoutingEvent) (session : Session Kernel) : Session Kernel :=
  { session with events := session.events ++ events }

@[simp]
theorem recorded_nil (session : Session Kernel) : session.recorded [] = session := by
  rw [recorded, List.append_nil]

/-- The session after the outcome of a mutation was published. -/
def published (session : Session Kernel) : Session Kernel :=
  { session with state := RouterM.publish session.state }

def withInterfaces (interfaces : InterfaceTable) (session : Session Kernel) : Session Kernel :=
  { session with state := { session.state with interfaces } }

def withVrfs (vrfs : VrfTable) (session : Session Kernel) : Session Kernel :=
  { session with state := { session.state with vrfs } }

def withKernels (kernels : KernelSpace Kernel) (session : Session Kernel) : Session Kernel :=
  { session with state := { session.state with kernels } }

/-- The session after a VRF was stored under an id. -/
def stored (id : UInt32) (vrf : Vrf) (session : Session Kernel) : Session Kernel :=
  session.withVrfs (session.state.vrfs.store id vrf)

/-- The VRF of an id. -/
def find? (session : Session Kernel) (id : UInt32) : Option Vrf :=
  session.state.vrfs.byId.find? id

variable [KernelBackend Kernel]

/-- What becomes of the synchronizer of a VRF and of its kernel when deltas are programmed. -/
def programming (rerouted : Rerouted) (session : Session Kernel) :
    List RouteError × Programmed Kernel :=
  (Programmed.mk rerouted.2.sync (session.state.kernels.kernel rerouted.2.netns)).applyAll
    rerouted.1

/-- The VRF after its deltas were programmed. -/
def programmedVrf (rerouted : Rerouted) (session : Session Kernel) : Vrf :=
  { rerouted.2 with sync := (session.programming rerouted).2.sync }

/-- The session after the deltas of a VRF were programmed and the failures recorded. -/
def programmed (rerouted : Rerouted) (session : Session Kernel) : Session Kernel :=
  (session.withKernels (session.state.kernels.store (session.programmedVrf rerouted).netns
    (session.programming rerouted).2.kernel)).recorded
      ((session.programming rerouted).1.filterMap (RouterM.failureEvent? rerouted.2.id))

/-- The session after the deltas of a VRF were programmed and the VRF was stored under an id. -/
def settle (id : UInt32) (rerouted : Rerouted) (session : Session Kernel) : Session Kernel :=
  (session.programmed rerouted).stored id (session.programmedVrf rerouted)

/-- The deltas of a VRF when all its routes are selected anew. -/
def refresh (vrf : Vrf) (session : Session Kernel) : Rerouted :=
  vrf.refresh (session.state.interfaces.resolver vrf.id)

/-- The router-id selection of a VRF among the addresses of its interfaces. -/
def routerIdAfter (vrf : Vrf) (session : Session Kernel) : RouterIdSelection :=
  vrf.routerId.update (session.state.routerIdCandidates vrf.id)

/-- The VRF after its routes and its router-id were selected anew. -/
def refreshedVrf (vrf : Vrf) (session : Session Kernel) : Vrf :=
  { session.programmedVrf (session.refresh vrf) with routerId := session.routerIdAfter vrf }

/-- The session after the routes and the router-id of a VRF were selected anew. -/
def refreshed (vrf : Vrf) (session : Session Kernel) : Session Kernel :=
  (session.programmed (session.refresh vrf)).recorded
    (if (session.routerIdAfter vrf).routerId ≠ vrf.routerId.routerId then
      [.routerIdChanged vrf.id (session.routerIdAfter vrf).routerId] else [])

/-- The session after a VRF was refreshed and stored under an id. -/
def settleRefreshed (id : UInt32) (vrf : Vrf) (session : Session Kernel) : Session Kernel :=
  (session.refreshed vrf).stored id (session.refreshedVrf vrf)

/-- The session after the VRF of an id, if it exists, took settings and was refreshed. -/
def resettledAt (settings : Vrf → Vrf) (session : Session Kernel) (id : UInt32) :
    Session Kernel :=
  match session.find? id with
  | none => session
  | some vrf => session.settleRefreshed id (settings vrf)

/-- The session after the VRF of an id was refreshed, if it exists. -/
abbrev refreshedAt : Session Kernel → UInt32 → Session Kernel :=
  resettledAt fun vrf => vrf

/-- The session after the routes of a VRF followed a change, if the VRF exists. -/
def followed (session : Session Kernel) (change : InterfaceChange) : Session Kernel :=
  match session.find? change.vrf with
  | none => session.recorded [.interface change]
  | some vrf =>
    match RouterM.reroute session.state.interfaces change vrf with
    | .error _ => session.recorded [.interface change]
    | .ok rerouted => (session.recorded [.interface change]).settle change.vrf rerouted

/-- The ids of the VRFs that changes concern. -/
def concerned (changes : List InterfaceChange) : List UInt32 :=
  (SortedSet.ofList (changes.map InterfaceChange.vrf)).keys

/-- The session after the routes followed changes and the concerned VRFs were refreshed. -/
def follow (changes : List InterfaceChange) (session : Session Kernel) : Session Kernel :=
  (concerned changes).foldl refreshedAt (changes.foldl followed session)

/-! ### The VRFs of a session -/

section Vrfs

omit [KernelBackend Kernel]

variable (id listed : UInt32) (vrf : Vrf) (session : Session Kernel)

theorem find?_stored : (session.stored id vrf).find? listed =
    if id = listed then (session.find? listed).map fun _ => vrf else session.find? listed :=
  SortedMap.find?_modify session.state.vrfs.byId id listed _

end Vrfs

theorem find?_settle (id listed : UInt32) (rerouted : Rerouted) (session : Session Kernel) :
    (session.settle id rerouted).find? listed =
      if id = listed then (session.find? listed).map fun _ => session.programmedVrf rerouted
      else session.find? listed :=
  find?_stored id listed _ (session.programmed rerouted)

theorem find?_settleRefreshed (id listed : UInt32) (vrf : Vrf) (session : Session Kernel) :
    (session.settleRefreshed id vrf).find? listed =
      if id = listed then (session.find? listed).map fun _ => session.refreshedVrf vrf
      else session.find? listed :=
  find?_stored id listed _ (session.refreshed vrf)

/-- Programming changes what the synchronizer knows, and no routes. -/
theorem sameRoutes_programmedVrf (rerouted : Rerouted) (session : Session Kernel) :
    rerouted.2.SameRoutes (session.programmedVrf rerouted) :=
  .of_ribs rfl rfl rfl rfl

theorem sameRoutes_refreshedVrf (vrf : Vrf) (session : Session Kernel) :
    (session.refresh vrf).2.SameRoutes (session.refreshedVrf vrf) :=
  .of_ribs rfl rfl rfl rfl

theorem interfaces_resettledAt (settings : Vrf → Vrf) (session : Session Kernel) (id : UInt32) :
    (session.resettledAt settings id).state.interfaces = session.state.interfaces := by
  unfold resettledAt
  split <;> rfl

theorem interfaces_followed (session : Session Kernel) (change : InterfaceChange) :
    (session.followed change).state.interfaces = session.state.interfaces := by
  unfold followed
  split
  · rfl
  · split <;> rfl

end Session

/-! ### Keys -/

theorem VrfTable.get_eq_ok_iff {table : VrfTable} {id : UInt32} {vrf : Vrf} :
    table.get id = .ok vrf ↔ table.byId.find? id = some vrf := by
  unfold get
  cases table.byId.find? id with
  | none => exact ⟨nofun, nofun⟩
  | some stored => exact ⟨fun got => congrArg some (Except.ok.inj got), fun found =>
      congrArg Except.ok (Option.some.inj found)⟩

/-- Every VRF is stored under its id. -/
def VrfTable.IsKeyed (table : VrfTable) : Prop :=
  ∀ id vrf, table.byId.find? id = some vrf → vrf.id = id

/-- Every VRF is stored under its id, and every interface under its name. -/
structure RoutingState.IsKeyed {Kernel : Type} (state : RoutingState Kernel) : Prop where
  vrfs : state.vrfs.IsKeyed
  interfaces : state.interfaces.IsKeyed

/-- An id and the VRF stored under it agree. -/
theorem VrfTable.isKeyed_store {table : VrfTable} (isKeyed : table.IsKeyed) {id : UInt32}
    {vrf : Vrf} (own : vrf.id = id) : (table.store id vrf).IsKeyed := by
  intro listed known found
  rw [store, SortedMap.find?_modify] at found
  split at found
  next here =>
    obtain ⟨_, _, rfl⟩ := Option.map_eq_some_iff.1 found
    rw [own, here]
  next => exact isKeyed listed known found

namespace Session

variable {Kernel : Type} [KernelBackend Kernel]

theorem isKeyed_resettledAt {settings : Vrf → Vrf} (sameId : ∀ vrf, (settings vrf).id = vrf.id)
    {session : Session Kernel} (isKeyed : session.state.vrfs.IsKeyed) (id : UInt32) :
    (session.resettledAt settings id).state.vrfs.IsKeyed := by
  unfold resettledAt
  split
  next => exact isKeyed
  next vrf found =>
    exact VrfTable.isKeyed_store isKeyed ((sameId vrf).trans (isKeyed id vrf found))

end Session

namespace RouterM

variable {Kernel Value Next : Type}

/-! ### Programs that always succeed -/

theorem run_bind (program : RouterM Kernel Value) (next : Value → RouterM Kernel Next)
    (session : Session Kernel) :
    (program >>= next) session =
      match program session with
      | .ok value after => next value after
      | .error error after => .error error after := by
  show EStateM.bind program next session = _
  unfold EStateM.bind
  cases program session <;> rfl

theorem run_getState_bind (next : RoutingState Kernel → RouterM Kernel Next)
    (session : Session Kernel) : (getState >>= next) session = next session.state session :=
  rfl

theorem run_record_bind (event : RoutingEvent) (next : Unit → RouterM Kernel Next)
    (session : Session Kernel) :
    (record event >>= next) session = next () (session.recorded [event]) :=
  rfl

theorem run_forM_record (events : List RoutingEvent) (session : Session Kernel) :
    (events.forM record : RouterM Kernel PUnit) session = .ok () (session.recorded events) := by
  induction events generalizing session with
  | nil =>
    rw [Session.recorded_nil]
    rfl
  | cons event rest inductionHypothesis =>
    show (record event >>= fun _ => rest.forM record) session = _
    rw [run_bind]
    show (rest.forM record : RouterM Kernel PUnit) (session.recorded [event]) = _
    rw [inductionHypothesis, Session.recorded, Session.recorded, Session.recorded,
      List.append_assoc, List.singleton_append]

section Programming

variable [KernelBackend Kernel]

theorem run_program (rerouted : Rerouted) (session : Session Kernel) :
    program rerouted session =
      .ok (session.programmedVrf rerouted) (session.programmed rerouted) := by
  show ((((session.programming rerouted).1.filterMap (failureEvent? rerouted.2.id)).forM record :
    RouterM Kernel PUnit) >>= fun _ => pure (session.programmedVrf rerouted))
      (session.withKernels _) = _
  rw [run_bind, run_forM_record]
  rfl

theorem run_refreshVrf (vrf : Vrf) (session : Session Kernel) :
    refreshVrf vrf session = .ok (session.refreshedVrf vrf) (session.refreshed vrf) := by
  unfold refreshVrf
  rw [run_bind]
  show (program (session.refresh vrf) >>= _) session = _
  rw [run_bind, run_program]
  show (if (session.routerIdAfter vrf).routerId ≠ vrf.routerId.routerId then
      (record (.routerIdChanged vrf.id (session.routerIdAfter vrf).routerId) >>= fun _ =>
        pure (session.refreshedVrf vrf) : RouterM Kernel Vrf)
    else pure (session.refreshedVrf vrf)) (session.programmed (session.refresh vrf)) = _
  rw [Session.refreshed]
  split
  · rfl
  · rw [Session.recorded_nil]
    rfl

theorem run_refreshStored (id : UInt32) (session : Session Kernel) :
    refreshStored id session = .ok () (session.refreshedAt id) := by
  unfold refreshStored Session.refreshedAt Session.resettledAt Session.find?
  rw [run_getState_bind]
  unfold VrfTable.get
  cases session.state.vrfs.byId.find? id with
  | none => rfl
  | some vrf =>
    show (refreshVrf vrf >>= storeVrf id : RouterM Kernel Unit) session = _
    rw [run_bind, run_refreshVrf]
    rfl

end Programming

/-- Programs that succeed for every item of a list succeed for the list. -/
theorem run_forM {Item : Type} {each : Item → RouterM Kernel PUnit}
    {next : Session Kernel → Item → Session Kernel} (good : Session Kernel → Prop)
    {items : List Item}
    (runs : ∀ item ∈ items, ∀ session, good session →
      each item session = .ok () (next session item))
    (keeps : ∀ item ∈ items, ∀ session, good session → good (next session item))
    {session : Session Kernel} (isGood : good session) :
    items.forM each session = .ok () (items.foldl next session) := by
  induction items generalizing session with
  | nil => rfl
  | cons item rest inductionHypothesis =>
    show (each item >>= fun _ => rest.forM each) session = _
    rw [run_bind, runs item List.mem_cons_self session isGood]
    exact inductionHypothesis
      (fun later member => runs later (List.mem_cons_of_mem _ member))
      (fun later member => keeps later (List.mem_cons_of_mem _ member))
      (keeps item List.mem_cons_self session isGood)

/-! ### Following changes -/

/-- A change moves the routes of its VRF in one of the known ways, and it never fails. -/
theorem exists_reroute {interfaces : InterfaceTable} {change : InterfaceChange} {vrf : Vrf}
    (own : vrf.id = change.vrf)
    (attributed : change.what ≠ .detached → ∀ interface,
      interfaces.find? change.name = some interface → interface.vrf = change.vrf) :
    ∃ rerouted, reroute interfaces change vrf = .ok rerouted ∧
      Vrf.Reroutes (interfaces.resolver change.vrf) vrf rerouted := by
  have ownConnected : change.what ≠ .detached → ∀ candidate ∈
      (interfaces.find? change.name).toList.flatMap Interface.connected,
      candidate.vrf = vrf.id := by
    intro stays candidate member
    obtain ⟨interface, found, connected⟩ := List.mem_flatMap.1 member
    obtain ⟨network, _, rfl⟩ := List.mem_map.1 connected
    rw [own]
    exact attributed stays interface (Option.mem_toList.1 found)
  unfold reroute
  cases what : change.what with
  | usable now => exact ⟨_, rfl, Vrf.reroutes_self _ vrf⟩
  | routingDisabled => exact ⟨_, rfl, Vrf.reroutes_purgeStatics change.name⟩
  | addressAdded network =>
    have ownCandidate :
        (connectedCandidate change.vrf change.name change.index network).vrf = vrf.id := own.symm
    obtain ⟨rerouted, announced⟩ :=
      Vrf.exists_announce (interfaces.resolver change.vrf) ownCandidate
    exact ⟨rerouted, announced, Vrf.reroutes_announce announced⟩
  | addressRemoved network =>
    dsimp only
    split
    next candidate remains =>
      have ownCandidate := ownConnected (by rw [what]; nofun) candidate
        (List.mem_of_find?_eq_some remains)
      obtain ⟨rerouted, announced⟩ :=
        Vrf.exists_announce (interfaces.resolver change.vrf) ownCandidate
      exact ⟨rerouted, announced, Vrf.reroutes_announce announced⟩
    next => exact ⟨_, rfl, Vrf.reroutes_withdrawInstance _ _ _⟩
  | attached =>
    obtain ⟨rerouted, announced⟩ := Vrf.exists_announceAll (interfaces.resolver change.vrf)
      (ownConnected (by rw [what]; nofun))
    exact ⟨rerouted, announced, Vrf.reroutes_announceAll announced⟩
  | detached => exact ⟨_, rfl, Vrf.reroutes_withdrawConnected change.index⟩

section Following

variable [KernelBackend Kernel] {changes : List InterfaceChange} {session : Session Kernel}

/-- Every change names the VRF of its interface, unless the interface left. -/
def Attributed (interfaces : InterfaceTable) (changes : List InterfaceChange) : Prop :=
  ∀ change ∈ changes, change.what ≠ .detached →
    ∀ interface, interfaces.find? change.name = some interface → interface.vrf = change.vrf

/-- How a session follows a change: the change is recorded, and the VRF that it names, if it
exists, is rerouted in one of the known ways. -/
theorem followed_cases (isKeyed : session.state.vrfs.IsKeyed)
    (attributed : Attributed session.state.interfaces changes) {change : InterfaceChange}
    (member : change ∈ changes) :
    (session.find? change.vrf = none ∧
      session.followed change = session.recorded [.interface change]) ∨
    ∃ vrf rerouted, session.find? change.vrf = some vrf ∧
      reroute session.state.interfaces change vrf = .ok rerouted ∧
      Vrf.Reroutes (session.state.interfaces.resolver change.vrf) vrf rerouted ∧
      session.followed change =
        (session.recorded [.interface change]).settle change.vrf rerouted := by
  unfold Session.followed
  cases found : session.find? change.vrf with
  | none => exact Or.inl ⟨rfl, rfl⟩
  | some vrf =>
    obtain ⟨rerouted, answered, reroutes⟩ := exists_reroute (isKeyed change.vrf vrf found)
      (attributed change member)
    refine Or.inr ⟨vrf, rerouted, rfl, answered, reroutes, ?_⟩
    dsimp only
    rw [answered]

theorem run_applyChange (isKeyed : session.state.vrfs.IsKeyed)
    (attributed : Attributed session.state.interfaces changes) {change : InterfaceChange}
    (member : change ∈ changes) :
    applyChange change session = .ok () (session.followed change) := by
  unfold applyChange
  rw [run_record_bind, run_getState_bind]
  unfold VrfTable.get
  rcases followed_cases isKeyed attributed member with
    ⟨missing, follows⟩ | ⟨vrf, rerouted, found, answered, _, follows⟩
  · have unlisted : (session.recorded [.interface change]).state.vrfs.byId.find? change.vrf =
      none := missing
    rw [unlisted, follows]
    rfl
  · have listed : (session.recorded [.interface change]).state.vrfs.byId.find? change.vrf =
      some vrf := found
    rw [listed, follows]
    show (ofExcept (reroute session.state.interfaces change vrf) >>= fun rerouted =>
      program rerouted >>= storeVrf change.vrf : RouterM Kernel Unit) _ = _
    rw [answered]
    show (program rerouted >>= storeVrf change.vrf : RouterM Kernel Unit) _ = _
    rw [run_bind, run_program]
    rfl

theorem isKeyed_followed (isKeyed : session.state.vrfs.IsKeyed)
    (attributed : Attributed session.state.interfaces changes) {change : InterfaceChange}
    (member : change ∈ changes) : (session.followed change).state.vrfs.IsKeyed := by
  rcases followed_cases isKeyed attributed member with
    ⟨_, follows⟩ | ⟨vrf, rerouted, found, _, reroutes, follows⟩
  · rw [follows]
    exact isKeyed
  · rw [follows]
    refine VrfTable.isKeyed_store isKeyed ?_
    exact reroutes.id_eq.trans (isKeyed change.vrf vrf found)

/-- The routes follow some of the changes, one after the other, and that never fails. -/
theorem run_forM_applyChange (isKeyed : session.state.vrfs.IsKeyed)
    (attributed : Attributed session.state.interfaces changes) {some : List InterfaceChange}
    (listed : ∀ change ∈ some, change ∈ changes) :
    (some.forM applyChange : RouterM Kernel PUnit) session =
      .ok () (some.foldl Session.followed session) := by
  refine run_forM
    (fun next => next.state.interfaces = session.state.interfaces ∧ next.state.vrfs.IsKeyed)
    (fun change member next isGood => ?_) (fun change member next isGood => ?_) ⟨rfl, isKeyed⟩
  · exact run_applyChange isGood.2 (isGood.1 ▸ attributed) (listed change member)
  · exact ⟨(next.interfaces_followed change).trans isGood.1,
      isKeyed_followed isGood.2 (isGood.1 ▸ attributed) (listed change member)⟩

/-- Following changes never fails. -/
theorem run_applyChanges (isKeyed : session.state.vrfs.IsKeyed)
    (attributed : Attributed session.state.interfaces changes) :
    applyChanges changes session = .ok () (session.follow changes) := by
  unfold applyChanges
  rw [run_bind, run_forM_applyChange isKeyed attributed fun _ member => member]
  exact run_forM (fun _ => True) (fun id _ next _ => run_refreshStored id next)
    (fun _ _ _ _ => trivial) trivial

/-- What the interfaces answer to an event, the session follows. -/
theorem run_onInterfaces {event : VrfTable → InterfaceTable → Tracked} {after : InterfaceTable}
    (isKeyed : session.state.vrfs.IsKeyed) (attributed : Attributed after changes)
    (answered : event session.state.vrfs session.state.interfaces = .ok (changes, after)) :
    onInterfaces event session =
      .ok () ((session.withInterfaces after).follow changes).published := by
  have runs : applyChanges changes (session.withInterfaces after) =
      .ok () ((session.withInterfaces after).follow changes) :=
    run_applyChanges isKeyed attributed
  have follows : (getState >>= fun state => ofExcept (event state.vrfs state.interfaces) >>=
      fun result => modifyState (fun state => { state with interfaces := result.2 }) >>=
        fun _ => applyChanges result.1 : RouterM Kernel Unit) session =
      .ok () ((session.withInterfaces after).follow changes) := by
    rw [run_getState_bind, answered]
    exact runs
  unfold onInterfaces publishing
  rw [follows]
  rfl

end Following

end RouterM

end ControlPlane
