/-
This file says what becomes of a single VRF when a session follows an event on the
interfaces. The VRF is rerouted by the changes that name it, one after the other,
and then refreshed. VRFs do not see each other's changes, none of them comes or
goes, and none changes its name or its settings.
-/

import ControlPlane.Proofs.Router.Reachable
import ControlPlane.Proofs.VrfContents

namespace ControlPlane

/-! ### Changes of one VRF -/

/-- The origins whose candidates an event on an interface adds or removes. -/
def InterfaceEvent.touches : InterfaceEvent → Origin → Prop
  | .usable _ => fun _ => False
  | .routingDisabled => (· = .static)
  | .addressAdded _ | .addressRemoved _ | .attached | .detached => (· = .connected)

namespace Vrf

/-- A VRF is rerouted by changes in order, and programmed after each. -/
inductive Follows (interfaces : InterfaceTable) : List InterfaceChange → Vrf → Vrf → Prop
  | finished (vrf : Vrf) : Follows interfaces [] vrf vrf
  | rerouted {change : InterfaceChange} {rest : List InterfaceChange} {vrf next after : Vrf}
      {rerouted : Rerouted} (answered : RouterM.reroute interfaces change vrf = .ok rerouted)
      (programmed : next = { rerouted.2 with sync := next.sync })
      (later : Follows interfaces rest next after) :
      Follows interfaces (change :: rest) vrf after

/-- Connected interfaces give connected candidates. -/
theorem origin_of_mem_connected {interfaces : InterfaceTable} {name : String}
    {candidate : Candidate}
    (member : candidate ∈ (interfaces.find? name).toList.flatMap Interface.connected) :
    candidate.origin = .connected := by
  obtain ⟨interface, _, connected⟩ := List.mem_flatMap.1 member
  obtain ⟨network, _, rfl⟩ := List.mem_map.1 connected
  rfl

section Reroute

variable {interfaces : InterfaceTable} {change : InterfaceChange} {vrf : Vrf}
  {rerouted : Rerouted}

/-- A change adds and removes candidates of the origins that its event touches. -/
theorem edits_reroute (answered : RouterM.reroute interfaces change vrf = .ok rerouted) :
    Edits change.what.touches vrf rerouted.2 := by
  unfold RouterM.reroute at answered
  cases what : change.what with
  | usable now =>
    rw [what] at answered
    cases answered
    exact edits_self vrf
  | routingDisabled =>
    rw [what] at answered
    cases answered
    exact edits_purgeStatics (by exact rfl) change.name vrf
  | addressAdded network =>
    rw [what] at answered
    exact edits_announce (by exact rfl) answered
  | addressRemoved network =>
    rw [what] at answered
    dsimp only at answered
    split at answered
    next candidate remains =>
      exact edits_announce (origin_of_mem_connected (List.mem_of_find?_eq_some remains)) answered
    next =>
      cases answered
      exact edits_withdrawInstance _ _ (by exact rfl)
  | attached =>
    rw [what] at answered
    exact edits_announceAll (fun _ member => origin_of_mem_connected member) answered
  | detached =>
    rw [what] at answered
    cases answered
    exact edits_inTurn (fun _ _ => edits_withdrawInstance _ _ (by exact rfl)) _ vrf

end Reroute

namespace Follows

variable {interfaces : InterfaceTable} {changes : List InterfaceChange} {vrf after : Vrf}

/-- Programming changes what the synchronizer knows, and no contents. -/
theorem sameContents_of_programmed {first second : Vrf}
    (programmed : second = { first with sync := second.sync }) : first.SameContents second := by
  rw [programmed]
  exact .of_sameRoutes (.of_ribs rfl rfl rfl rfl) rfl

/-- What programming and every change keep, following changes keeps. -/
theorem keeps (good : Vrf → Prop) (follows : Follows interfaces changes vrf after)
    (programs : ∀ first second : Vrf, second = { first with sync := second.sync } →
      good first → good second)
    (reroutes : ∀ change ∈ changes, ∀ (vrf : Vrf) rerouted,
      RouterM.reroute interfaces change vrf = .ok rerouted → good vrf → good rerouted.2)
    (isGood : good vrf) : good after := by
  induction follows with
  | finished => exact isGood
  | rerouted answered programmed _ inductionHypothesis =>
    have nextGood := programs _ _ programmed
      (reroutes _ List.mem_cons_self _ _ answered isGood)
    exact inductionHypothesis
      (fun change member => reroutes change (List.mem_cons_of_mem _ member)) nextGood

/-- Following changes adds and removes candidates of the origins that their events touch. -/
theorem edits (follows : Follows interfaces changes vrf after) :
    Edits (fun origin => ∃ change ∈ changes, change.what.touches origin) vrf after := by
  refine follows.keeps (Edits _ vrf) ?_ ?_ (edits_self vrf)
  · exact fun first second programmed edits =>
      .followed edits (.resettled (sameContents_of_programmed programmed))
  · exact fun change member first rerouted answered edits =>
      .followed edits ((edits_reroute answered).mono fun origin touched =>
        ⟨change, member, touched⟩)

end Follows

end Vrf

/-! ### Sessions VRF by VRF -/

section Related

variable {Item : Type} {relates alike : Item → Item → Prop} {first second : Option Item}

theorem rel_imp (implies : ∀ item other, relates item other → alike item other)
    (related : Option.Rel relates first second) : Option.Rel alike first second := by
  cases related with
  | none => exact .none
  | some holds => exact .some (implies _ _ holds)

/-- Related values have the same image if the relation says so. -/
theorem map_eq_of_rel {Image : Type} {before after : Item → Image}
    (keeps : ∀ item other, relates item other → after other = before item)
    (related : Option.Rel relates first second) : second.map after = first.map before := by
  cases related with
  | none => rfl
  | some holds => exact congrArg some (keeps _ _ holds)

end Related

/-- The changes that name a VRF, in order. -/
def changesOf (id : UInt32) (changes : List InterfaceChange) : List InterfaceChange :=
  changes.filter fun change => change.vrf = id

section ChangesOf

variable {id : UInt32} {change : InterfaceChange} {rest : List InterfaceChange}

theorem changesOf_cons_own (own : change.vrf = id) :
    changesOf id (change :: rest) = change :: changesOf id rest :=
  List.filter_cons_of_pos (decide_eq_true own)

theorem changesOf_cons_other (other : change.vrf ≠ id) :
    changesOf id (change :: rest) = changesOf id rest :=
  List.filter_cons_of_neg fun own => other (of_decide_eq_true own)

end ChangesOf

variable {Kernel : Type} [KernelBackend Kernel]

namespace Session

variable {session : Session Kernel} {changes : List InterfaceChange} {id : UInt32} {after : Vrf}

/-- The second session has the VRFs of the first under the same ids and names. -/
structure SameNames (first second : Session Kernel) : Prop where
  idByName_eq : second.state.vrfs.idByName = first.state.vrfs.idByName
  name_eq : ∀ id, (second.find? id).map Vrf.name = (first.find? id).map Vrf.name

namespace SameNames

variable {first second third : Session Kernel}

omit [KernelBackend Kernel] in
theorem refl (session : Session Kernel) : SameNames session session :=
  ⟨rfl, fun _ => rfl⟩

omit [KernelBackend Kernel] in
theorem trans (left : SameNames first second) (right : SameNames second third) :
    SameNames first third where
  idByName_eq := right.idByName_eq.trans left.idByName_eq
  name_eq id := (right.name_eq id).trans (left.name_eq id)

omit [KernelBackend Kernel] in
theorem isSome_eq (same : SameNames first second) (id : UInt32) :
    (second.find? id).isSome = (first.find? id).isSome := by
  have isSome := congrArg Option.isSome (same.name_eq id)
  rwa [Option.isSome_map, Option.isSome_map] at isSome

end SameNames

omit [KernelBackend Kernel] in
theorem sameNames_stored {vrf next : Vrf} (found : session.find? id = some vrf)
    (sameName : next.name = vrf.name) : SameNames session (session.stored id next) := by
  refine ⟨rfl, fun listed => ?_⟩
  rw [find?_stored]
  split
  next here =>
    subst here
    rw [found, Option.map_some, Option.map_some, Option.map_some, sameName]
  next => rfl

theorem sameNames_settle {vrf : Vrf} {rerouted : Rerouted} (found : session.find? id = some vrf)
    (sameName : rerouted.2.name = vrf.name) : SameNames session (session.settle id rerouted) := by
  have stored : SameNames (session.programmed rerouted) (session.settle id rerouted) :=
    sameNames_stored found sameName
  exact ⟨stored.idByName_eq, stored.name_eq⟩

theorem sameNames_followed (session : Session Kernel) (change : InterfaceChange) :
    SameNames session (session.followed change) := by
  unfold followed
  split
  · exact ⟨rfl, fun _ => rfl⟩
  next vrf found =>
    split
    · exact ⟨rfl, fun _ => rfl⟩
    next rerouted answered =>
      have settled : SameNames (session.recorded [.interface change]) _ :=
        sameNames_settle found (Vrf.edits_reroute answered).name_eq
      exact ⟨settled.idByName_eq, settled.name_eq⟩

theorem sameNames_resettledAt {settings : Vrf → Vrf}
    (sameName : ∀ vrf, (settings vrf).name = vrf.name) (session : Session Kernel) (id : UInt32) :
    SameNames session (session.resettledAt settings id) := by
  unfold resettledAt
  split
  · exact .refl session
  next vrf found =>
    have stored : SameNames (session.refreshed (settings vrf))
        (session.settleRefreshed id (settings vrf)) := sameNames_stored found (sameName vrf)
    exact ⟨stored.idByName_eq, stored.name_eq⟩

theorem sameNames_resyncedAt (session : Session Kernel) (id : UInt32) :
    SameNames session (session.resyncedAt id) := by
  unfold resyncedAt
  split
  · exact .refl session
  next vrf found =>
    have sameName : ({ vrf with sync := (session.retrying vrf).sync } : Vrf).name = vrf.name := rfl
    have stored : SameNames session (session.stored id _) := sameNames_stored found sameName
    exact ⟨stored.idByName_eq, stored.name_eq⟩

omit [KernelBackend Kernel] in
theorem sameNames_foldl {Item : Type} {step : Session Kernel → Item → Session Kernel}
    (keeps : ∀ session item, SameNames session (step session item)) (items : List Item)
    (session : Session Kernel) : SameNames session (items.foldl step session) :=
  List.foldlRecOn (motive := SameNames session) items step (.refl session)
    fun next known item _ => known.trans (keeps next item)

/-- To follow changes adds and removes no VRF and changes no name. -/
theorem sameNames_follow (session : Session Kernel) (changes : List InterfaceChange) :
    SameNames session (session.follow changes) :=
  (sameNames_foldl sameNames_followed changes session).trans
    (sameNames_foldl (sameNames_resettledAt fun _ => rfl) (concerned changes) _)

/-- A VRF is rerouted by the changes that name it and no others. -/
theorem find?_foldl_followed (isKeyed : session.state.vrfs.IsKeyed)
    (attributed : RouterM.Attributed session.state.interfaces changes)
    (found : (changes.foldl followed session).find? id = some after) :
    ∃ vrf, session.find? id = some vrf ∧
      Vrf.Follows session.state.interfaces (changesOf id changes) vrf after := by
  induction changes generalizing session with
  | nil => exact ⟨after, found, .finished after⟩
  | cons change rest inductionHypothesis =>
    have sameInterfaces := session.interfaces_followed change
    obtain ⟨next, nextFound, follows⟩ := inductionHypothesis
      (RouterM.isKeyed_followed isKeyed attributed List.mem_cons_self)
      (sameInterfaces ▸ fun later member => attributed later (List.mem_cons_of_mem _ member)) found
    rw [sameInterfaces] at follows
    rcases RouterM.followed_cases isKeyed attributed List.mem_cons_self with
      ⟨missing, steps⟩ | ⟨vrf, rerouted, isFound, answered, _, steps⟩
    · rw [steps] at nextFound
      have isListed : session.find? id = some next := nextFound
      have other : change.vrf ≠ id := fun same => by
        rw [same, isListed] at missing
        cases missing
      rw [changesOf_cons_other other]
      exact ⟨next, isListed, follows⟩
    · rw [steps, find?_settle] at nextFound
      by_cases own : change.vrf = id
      · subst own
        have isListed : (session.recorded [.interface change]).find? change.vrf = some vrf :=
          isFound
        rw [if_pos rfl, isListed, Option.map_some, Option.some.injEq] at nextFound
        rw [changesOf_cons_own rfl]
        refine ⟨vrf, isFound, .rerouted answered ?_ follows⟩
        rw [← nextFound]
        rfl
      · rw [if_neg own] at nextFound
        rw [changesOf_cons_other own]
        exact ⟨next, nextFound, follows⟩

/-- To refresh VRFs changes neither the contents nor the policy of any. -/
theorem find?_foldl_refreshedAt {ids : List UInt32}
    (found : (ids.foldl refreshedAt session).find? id = some after) :
    ∃ vrf, session.find? id = some vrf ∧ vrf.SameContents after ∧ after.policy = vrf.policy := by
  induction ids generalizing session with
  | nil => exact ⟨after, found, .refl after, rfl⟩
  | cons first rest inductionHypothesis =>
    obtain ⟨next, nextFound, same, samePolicy⟩ := inductionHypothesis found
    unfold refreshedAt resettledAt at nextFound
    split at nextFound
    next => exact ⟨next, nextFound, same, samePolicy⟩
    next vrf isFound =>
      rw [find?_settleRefreshed] at nextFound
      split at nextFound
      next here =>
        subst here
        rw [isFound, Option.map_some, Option.some.injEq] at nextFound
        subst nextFound
        have refreshed := Vrf.sameContents_refresh (session.state.interfaces.resolver vrf.id) vrf
        have programmed := Vrf.SameContents.of_sameRoutes (sameRoutes_refreshedVrf vrf session) rfl
        exact ⟨vrf, isFound, (refreshed.trans programmed).trans same, samePolicy⟩
      next => exact ⟨next, nextFound, same, samePolicy⟩

/-- A VRF after an event was followed is one of before that was rerouted by the changes that name
it and then refreshed. -/
theorem find?_follow (isKeyed : session.state.vrfs.IsKeyed)
    (attributed : RouterM.Attributed session.state.interfaces changes)
    (found : (session.follow changes).find? id = some after) :
    ∃ vrf next, session.find? id = some vrf ∧
      Vrf.Follows session.state.interfaces (changesOf id changes) vrf next ∧
      next.SameContents after ∧ after.policy = next.policy := by
  obtain ⟨next, nextFound, same, samePolicy⟩ := find?_foldl_refreshedAt found
  obtain ⟨vrf, isFound, follows⟩ := find?_foldl_followed isKeyed attributed nextFound
  exact ⟨vrf, next, isFound, follows, same, samePolicy⟩

/-- Following an event relates the VRFs of the session before it, one by one, to those after it. -/
theorem rel_find?_follow (isKeyed : session.state.vrfs.IsKeyed)
    (attributed : RouterM.Attributed session.state.interfaces changes) (id : UInt32) :
    Option.Rel (fun vrf after => ∃ next,
        Vrf.Follows session.state.interfaces (changesOf id changes) vrf next ∧
          next.SameContents after ∧ after.policy = next.policy)
      (session.find? id) ((session.follow changes).find? id) := by
  have sameIds := (sameNames_follow session changes).isSome_eq id
  cases found : (session.follow changes).find? id with
  | none =>
    rw [found, Option.isSome_none, eq_comm, Option.isSome_eq_false_iff, Option.isNone_iff_eq_none]
      at sameIds
    rw [sameIds]
    exact .none
  | some after =>
    obtain ⟨vrf, next, isFound, followed⟩ := find?_follow isKeyed attributed found
    rw [isFound]
    exact .some ⟨next, followed⟩

end Session

end ControlPlane
