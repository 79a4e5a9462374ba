/-
This file proves that no operation fails because a candidate is announced to a VRF
that is not its own. The tables of interfaces and VRFs fail for other reasons, and
so do all programs that are built of them. There remain the programs that announce
candidates: an operation announces a candidate to the VRF that the candidate names,
and what an interface contributes goes to the VRF of the interface.
-/

import ControlPlane.Proofs.Router.Reachable

namespace ControlPlane

/-- A candidate was announced to a VRF that is not its own. -/
def RouteError.IsMismatch : RouteError → Prop
  | .vrfMismatch _ _ => True
  | _ => False

/-- The result is no failure because of a VRF that does not match. -/
def Fits {Value : Type} (result : Except RouteError Value) : Prop :=
  ∀ error, result = .error error → ¬ error.IsMismatch

section Results

variable {Value Next : Type}

theorem fits_ok (value : Value) : Fits (.ok value) :=
  fun _ same => nomatch same

theorem fits_error {error : RouteError} (other : ¬ error.IsMismatch) :
    Fits (.error error : Except RouteError Value) := by
  intro found same
  cases same
  exact other

theorem Fits.bind {result : Except RouteError Value} {next : Value → Except RouteError Next}
    (fits : Fits result) (rest : ∀ value, Fits (next value)) : Fits (result >>= next) := by
  cases result with
  | error error => exact fits_error (fits error rfl)
  | ok value => exact rest value

end Results

/-! ### Tables -/

namespace VrfTable

variable (table : VrfTable)

theorem fits_get (own : UInt32) : Fits (table.get own) := by
  unfold get
  split
  · exact fits_ok _
  · exact fits_error id

theorem fits_idOf (name : String) : Fits (table.idOf name) := by
  unfold idOf
  split
  · exact fits_ok _
  · exact fits_error id

theorem fits_add (vrf : Vrf) : Fits (table.add vrf) := by
  unfold add
  split
  · exact fits_error id
  · split
    · exact fits_error id
    · exact fits_ok _

theorem fits_remove (own : UInt32) : Fits (table.remove own) :=
  (table.fits_get own).bind fun _ => fits_ok _

end VrfTable

namespace InterfaceTable

variable (table : InterfaceTable) (name : String)

theorem fits_get : Fits (table.get name) := by
  unfold get
  split
  · exact fits_ok _
  · exact fits_error id

theorem fits_appear (interface : Interface) : Fits (table.appear interface) := by
  refine Fits.bind ?_ fun _ => fits_ok _
  unfold add
  split
  · exact fits_error id
  · exact fits_ok _

theorem fits_disappear : Fits (table.disappear name) :=
  Fits.bind ((table.fits_get name).bind fun _ => fits_ok _) fun _ => fits_ok _

theorem fits_setAdmin (isUp : Bool) : Fits (table.setAdmin name isUp) :=
  (table.fits_get name).bind fun _ => fits_ok _

theorem fits_setOper (isUp : Bool) : Fits (table.setOper name isUp) := by
  refine (table.fits_get name).bind fun interface => ?_
  by_cases isLag : interface.kind = .lag
  · simp only [isLag, if_true]
    exact fits_ok _
  · simp only [isLag, if_false]
    exact fits_ok _

theorem fits_setRouting (routes : Bool) : Fits (table.setRouting name routes) := by
  refine (table.fits_get name).bind fun interface => ?_
  by_cases same : interface.mode = LinkMode.ofBool routes <;>
    simp only [same, if_true, if_false] <;> exact fits_ok _

theorem fits_addAddress (network : Network) : Fits (table.addAddress name network) := by
  refine (table.fits_get name).bind fun interface => ?_
  cases interface.addresses.contains network <;> exact fits_ok _

theorem fits_removeAddress (network : Network) : Fits (table.removeAddress name network) := by
  refine (table.fits_get name).bind fun interface => ?_
  cases interface.addresses.contains network <;> exact fits_ok _

theorem fits_moveTo (vrf : UInt32) : Fits (table.moveTo name vrf) := by
  refine (table.fits_get name).bind fun interface => ?_
  by_cases same : interface.vrf = vrf <;> simp only [same, if_true, if_false] <;> exact fits_ok _

end InterfaceTable

theorem Vrf.fits_removeStatic (resolver : Resolver) (route : StaticRoute) (vrf : Vrf) :
    Fits (vrf.removeStatic resolver route) := by
  refine Fits.bind ?_ fun _ => fits_ok _
  unfold StaticTable.remove
  dsimp only
  split
  · exact fits_ok _
  · exact fits_error fun mismatch => mismatch

/-! ### Programs -/

namespace RouterM

variable {Kernel Value Next : Type} {session : Session Kernel}

/-- The program does not fail because of a VRF that does not match. -/
def FitsIn (session : Session Kernel) (program : RouterM Kernel Value) : Prop :=
  Ends program session (fun _ _ => True) fun error _ => ¬ error.IsMismatch

theorem fitsIn_bind {program : RouterM Kernel Value} {next : Value → RouterM Kernel Next}
    (fits : FitsIn session program) (rest : ∀ value after, FitsIn after (next value)) :
    FitsIn session (program >>= next) :=
  ends_bind (ends_imp fits (fun value after _ => rest value after) fun _ _ other => other)

/-- A program that succeeds, and what is done after it. -/
theorem fitsIn_bind_of_run {program : RouterM Kernel Value} {next : Value → RouterM Kernel Next}
    {value : Value} {after : Session Kernel} (runs : program session = .ok value after)
    (rest : FitsIn after (next value)) : FitsIn session (program >>= next) :=
  ends_bind (ends_of_run runs rest)

theorem fitsIn_ofExcept {result : Except RouteError Value} (fits : Fits result) :
    FitsIn session (ofExcept result) :=
  ends_ofExcept (fun _ _ => trivial) fits

theorem fitsIn_accept (result : ConfigResult) : FitsIn session (accept result) :=
  ends_accept (fun _ => trivial) fun _ _ => id

theorem fitsIn_publishing {mutation : RouterM Kernel Value} (fits : FitsIn session mutation) :
    FitsIn session (publishing mutation) :=
  ends_publishing fits

theorem fitsIn_getVrf (id : UInt32) : FitsIn session (getVrf id) :=
  fitsIn_bind_of_run rfl (fitsIn_ofExcept (session.state.vrfs.fits_get id))

theorem fitsIn_forM {Item : Type} {each : Item → RouterM Kernel PUnit} (items : List Item)
    (fits : ∀ item session, FitsIn session (each item)) : FitsIn session (items.forM each) :=
  ends_forM items (fun item session _ => fits item session) trivial

variable [KernelBackend Kernel]

/-- An operation on one VRF fits if what it does to the VRF of the id fits. -/
theorem fitsIn_onVrf {id : UInt32} {operate : Resolver → Vrf → RouterM Kernel Rerouted}
    (fits : ∀ vrf, session.find? id = some vrf →
      FitsIn session (operate (session.state.interfaces.resolver id) vrf)) :
    FitsIn session (onVrf id operate) := by
  refine fitsIn_publishing (ends_bind (ends_getVrf (fun vrf found => ?_)
    (session.state.vrfs.fits_get id)))
  refine fitsIn_bind_of_run rfl (fitsIn_bind (fits vrf found) fun rerouted after => ?_)
  exact fitsIn_bind_of_run (run_program rerouted after) (ends_of_run rfl trivial)

/-- An operation on the interfaces fits if its event does: what the event answers is followed
without failure. -/
theorem fitsIn_onInterfaces (operation : Operation) {event : VrfTable → InterfaceTable → Tracked}
    (isKeyed : session.state.IsKeyed)
    (fits : Fits (event session.state.vrfs session.state.interfaces))
    (performs : ∀ changes after, event session.state.vrfs session.state.interfaces =
      .ok (changes, after) → InterfaceOperation session.state operation changes after) :
    FitsIn session (onInterfaces event) := by
  cases answered : event session.state.vrfs session.state.interfaces with
  | ok result =>
    obtain ⟨changes, after⟩ := result
    have accounts := (performs changes after answered).accounts isKeyed.interfaces
    exact ends_of_run (run_onInterfaces isKeyed.vrfs accounts.attributed answered) trivial
  | error error =>
    refine fitsIn_publishing (fitsIn_bind_of_run rfl ?_)
    rw [answered] at fits ⊢
    exact ends_bind (ends_ofExcept (fun _ same => nomatch same) fits)

/-! ### Operations -/

theorem fitsIn_announce (isKeyed : session.state.IsKeyed) (candidate : Candidate) :
    FitsIn session (announce candidate) := by
  refine ends_bind (ends_accept (fun _ => fitsIn_onVrf fun vrf found => ?_) fun _ _ => id)
  obtain ⟨rerouted, announced⟩ := Vrf.exists_announce
    (session.state.interfaces.resolver candidate.vrf) (isKeyed.vrfs _ vrf found).symm
  rw [announced]
  exact fitsIn_ofExcept (fits_ok rerouted)

/-- An operation on one VRF that cannot fail once the VRF is found. -/
theorem fitsIn_onVrf_pure (id : UInt32) (operate : Resolver → Vrf → Rerouted) :
    FitsIn session (onVrf id fun resolver vrf => pure (operate resolver vrf)) :=
  fitsIn_onVrf fun _ _ => ends_of_run rfl trivial

theorem fitsIn_addStatic (id : UInt32) (route : StaticRoute) :
    FitsIn session (addStatic id route) :=
  fitsIn_bind_of_run rfl (fitsIn_bind (fitsIn_accept _) fun _ _ => fitsIn_onVrf_pure _ _)

theorem fitsIn_removeStatic (id : UInt32) (route : StaticRoute) :
    FitsIn session (removeStatic id route) :=
  fitsIn_onVrf fun vrf _ => fitsIn_ofExcept (vrf.fits_removeStatic _ route)

theorem fitsIn_setBgp (id : UInt32) (config : BgpConfig) : FitsIn session (setBgp id config) :=
  fitsIn_onVrf fun _ _ => fitsIn_bind (fitsIn_accept _) fun _ _ => ends_of_run rfl trivial

theorem fitsIn_setDistance (id : UInt32) (config : DistanceConfig) :
    FitsIn session (setDistance id config) :=
  fitsIn_bind (fitsIn_accept _) fun _ _ => fitsIn_onVrf_pure _ _

theorem fitsIn_setRouterId (id : UInt32) (routerId : Option IPv4) :
    FitsIn session (setRouterId id routerId) := by
  refine fitsIn_bind (fitsIn_accept _) fun _ _ => fitsIn_onVrf fun vrf _ => ?_
  dsimp only
  split <;> exact ends_of_run rfl trivial

theorem fitsIn_setEcmp (config : EcmpConfig) : FitsIn session (setEcmp config) := by
  have limits : ∀ id (session : Session Kernel), FitsIn session (limitPaths config.maxPaths id) :=
    fun id session => fitsIn_bind (fitsIn_getVrf id) fun vrf after =>
      fitsIn_bind_of_run (run_refreshVrf _ after) (ends_of_run rfl trivial)
  refine fitsIn_bind (fitsIn_accept _) fun _ _ => fitsIn_publishing (fitsIn_bind_of_run rfl ?_)
  exact fitsIn_bind (fitsIn_forM _ limits) fun _ _ => ends_of_run rfl trivial

theorem fitsIn_resync : FitsIn session resync := by
  have sums : ∀ ids (session : Session Kernel), FitsIn session (sumOver resyncVrf ids) := by
    intro ids
    induction ids with
    | nil => exact fun _ => ends_of_run rfl trivial
    | cons id rest inductionHypothesis =>
      refine fun session => fitsIn_bind (fitsIn_bind (fitsIn_getVrf id) fun _ _ => ?_)
        fun _ after => fitsIn_bind (inductionHypothesis after) fun _ _ => ends_of_run rfl trivial
      exact ends_of_run rfl trivial
  exact fitsIn_publishing (fitsIn_bind_of_run rfl (sums _ _))

theorem fitsIn_configureVrf (vrf : Vrf) (config : VrfConfig) :
    FitsIn session (configureVrf vrf config) := by
  refine fitsIn_bind (fitsIn_bind_of_run rfl (fitsIn_bind (fitsIn_accept _) fun _ _ => ?_))
    fun _ after => fitsIn_bind_of_run rfl (fitsIn_bind_of_run (run_program _ _) ?_)
  · cases config.bgp with
    | none => exact ends_of_run rfl trivial
    | some bgp => exact fitsIn_accept _
  · exact ends_of_run (run_refreshVrf _ _) trivial

theorem fitsIn_addVrf (config : VrfConfig) : FitsIn session (addVrf config) := by
  have refuses : ∀ (error : ConfigError) (rest : Unit → RouterM Kernel UInt32),
      FitsIn session (accept (.error error) >>= rest) := fun error rest =>
    ends_bind (ends_accept (fun passed => nomatch passed) fun _ _ => id)
  refine fitsIn_publishing (fitsIn_bind_of_run rfl ?_)
  by_cases nameTaken : session.state.vrfs.idByName.contains config.name = true
  · simp only [nameTaken, if_true]
    exact refuses _ _
  · by_cases idTaken : session.state.vrfs.contains config.id = true
    · simp only [nameTaken, idTaken, if_true]
      exact refuses _ _
    · simp only [nameTaken, idTaken]
      refine ends_bind (ends_openKernel (fun kernels _ => ?_) fun _ _ => id)
      refine fitsIn_bind (fitsIn_configureVrf _ config) fun vrf after => fitsIn_bind_of_run rfl ?_
      refine fitsIn_bind (fitsIn_ofExcept (after.state.vrfs.fits_add vrf)) fun _ _ => ?_
      exact ends_of_run rfl trivial

theorem fitsIn_removeVrf (name : String) : FitsIn session (removeVrf name) := by
  refine fitsIn_publishing (fitsIn_bind_of_run rfl (fitsIn_bind
    (fitsIn_ofExcept (session.state.vrfs.fits_idOf name)) fun id after => ?_))
  by_cases isDefault : id = defaultVrfId
  · simp only [isDefault, if_true]
    exact not_false
  · simp only [isDefault, if_false]
    cases (session.state.interfaces.attachedTo id).isEmpty with
    | false => exact not_false
    | true =>
      simp only [Bool.not_true, Bool.false_eq_true, if_false]
      refine fitsIn_bind (fitsIn_ofExcept (session.state.vrfs.fits_remove id)) fun result _ => ?_
      exact fitsIn_bind_of_run rfl (fitsIn_bind_of_run (run_program _ _) (ends_of_run rfl trivial))

theorem fitsIn_addInterface (isKeyed : session.state.IsKeyed) (config : InterfaceConfig) :
    FitsIn session (addInterface config) := by
  refine ends_bind (ends_accept (fun checked => ?_) fun _ _ => id)
  refine fitsIn_onInterfaces (.addInterface config) isKeyed ?_ fun changes after answered => ?_
  · exact (session.state.vrfs.fits_idOf _).bind fun id => session.state.interfaces.fits_appear _
  · obtain ⟨id, named, answered⟩ := exists_of_bind_eq_ok answered
    exact .added checked named answered

theorem fitsIn_removeInterface (isKeyed : session.state.IsKeyed) (name : String) :
    FitsIn session (removeInterface name) := by
  refine fitsIn_onInterfaces (.removeInterface name) isKeyed ?_ fun changes after answered => ?_
  · exact (session.state.interfaces.fits_disappear name).bind fun _ => fits_ok _
  · obtain ⟨result, disappeared, answered⟩ := exists_of_bind_eq_ok answered
    cases answered
    exact .removed disappeared

theorem fitsIn_moveInterface (isKeyed : session.state.IsKeyed) (name vrf : String) :
    FitsIn session (moveInterface name vrf) := by
  refine fitsIn_onInterfaces (.moveInterface name vrf) isKeyed ?_ fun changes after answered => ?_
  · exact (session.state.vrfs.fits_idOf _).bind fun id =>
      session.state.interfaces.fits_moveTo name id
  · obtain ⟨id, named, answered⟩ := exists_of_bind_eq_ok answered
    exact .moved named answered

/-- No operation fails because of a VRF that does not match. -/
theorem fitsIn_perform (isKeyed : session.state.IsKeyed) (operation : Operation) :
    FitsIn session operation.perform := by
  have answers : ∀ {Value : Type} {program : RouterM Kernel Value} {answer : Value → Response},
      FitsIn session program → FitsIn session (program >>= fun value => pure (answer value)) :=
    fun fits => fitsIn_bind fits fun _ _ => ends_of_run rfl trivial
  cases operation with
  | addVrf config => exact answers (fitsIn_addVrf config)
  | removeVrf name => exact answers (fitsIn_removeVrf name)
  | addInterface config => exact answers (fitsIn_addInterface isKeyed config)
  | removeInterface name => exact answers (fitsIn_removeInterface isKeyed name)
  | setAdmin name isUp =>
    exact answers (fitsIn_onInterfaces _ isKeyed (session.state.interfaces.fits_setAdmin name isUp)
      fun _ _ answered => .adminSet answered)
  | setOper name isUp =>
    exact answers (fitsIn_onInterfaces _ isKeyed (session.state.interfaces.fits_setOper name isUp)
      fun _ _ answered => .operSet answered)
  | setRouting name routes =>
    exact answers (fitsIn_onInterfaces _ isKeyed
      (session.state.interfaces.fits_setRouting name routes)
      fun _ _ answered => .routingSet answered)
  | addAddress name network =>
    exact answers (ends_bind (ends_accept (fun checked => fitsIn_onInterfaces _ isKeyed
      (session.state.interfaces.fits_addAddress name network)
      fun _ _ answered => .addressAdded checked answered) fun _ _ => id))
  | removeAddress name network =>
    exact answers (fitsIn_onInterfaces _ isKeyed
      (session.state.interfaces.fits_removeAddress name network)
      fun _ _ answered => .addressRemoved answered)
  | moveInterface name vrf => exact answers (fitsIn_moveInterface isKeyed name vrf)
  | announce candidate => exact answers (fitsIn_announce isKeyed candidate)
  | withdraw | withdrawInstance | removeBgp => exact answers (fitsIn_onVrf_pure _ _)
  | addStatic vrf route => exact answers (fitsIn_addStatic vrf route)
  | removeStatic vrf route => exact answers (fitsIn_removeStatic vrf route)
  | setBgp vrf config => exact answers (fitsIn_setBgp vrf config)
  | setDistance vrf config => exact answers (fitsIn_setDistance vrf config)
  | setRouterId vrf routerId => exact answers (fitsIn_setRouterId vrf routerId)
  | setEcmp config => exact answers (fitsIn_setEcmp config)
  | resync => exact answers fitsIn_resync

end RouterM

end ControlPlane
