/-
This file says what the automatic selection of a router-id chooses. The candidates
are the addresses of version 4 of the usable interfaces of a VRF. Evaluating the
selection keeps the active candidate while it may stay, and else takes one of the
highest rank, so that the outcome is elected: it is a candidate if there is any,
and a loopback address if there is one. To evaluate an elected selection again
among the same candidates changes nothing. The order in which the candidates are
listed decides only which one of several of the same rank is taken.
-/

import ControlPlane.Proofs.Interface
import ControlPlane.Router.State

namespace ControlPlane

/-! ### Rank -/

namespace RouterIdCandidate

/-- The lexicographic order of loopback and address. -/
def NotAbove (first second : RouterIdCandidate) : Prop :=
  (first.loopback = true → second.loopback = true) ∧
    (first.loopback = second.loopback → first.address ≤ second.address)

instance (first second : RouterIdCandidate) : Decidable (first.NotAbove second) :=
  inferInstanceAs (Decidable (_ ∧ _))

theorem rank_le_iff {first second : RouterIdCandidate} :
    first.rank ≤ second.rank ↔ first.NotAbove second := by
  have firstBound := first.address.isLt
  have secondBound := second.address.isLt
  rw [NotAbove, rank, rank, BitVec.le_def]
  cases first.loopback <;> cases second.loopback <;> simp <;> omega

theorem best?_eq_none_iff {candidates : List RouterIdCandidate} :
    best? candidates = none ↔ candidates = [] := by
  cases candidates with
  | nil => exact ⟨fun _ => rfl, fun _ => rfl⟩
  | cons candidate rest =>
    simp only [best?]
    split <;> simp
    split <;> simp

/-- The best candidate is one of the candidates, and none of them is above it. -/
theorem best?_eq_some {candidates : List RouterIdCandidate} {best : RouterIdCandidate}
    (found : best? candidates = some best) :
    best ∈ candidates ∧ ∀ candidate ∈ candidates, candidate.NotAbove best := by
  simp only [← rank_le_iff]
  induction candidates generalizing best with
  | nil => cases found
  | cons candidate rest inductionHypothesis =>
    simp only [best?] at found
    cases later : best? rest with
    | none =>
      simp only [later, Option.some.injEq] at found
      subst found
      simp [best?_eq_none_iff.1 later]
    | some bestLater =>
      obtain ⟨member, highest⟩ := inductionHypothesis later
      simp only [later] at found
      split at found
      next less =>
        cases found
        refine ⟨List.mem_cons_self, List.forall_mem_cons.2 ⟨Nat.le_refl _, ?_⟩⟩
        exact fun other inRest => Nat.le_trans (highest other inRest) (Nat.le_of_lt less)
      next notLess =>
        cases found
        exact ⟨List.mem_cons_of_mem _ member,
          List.forall_mem_cons.2 ⟨Nat.le_of_not_lt notLess, highest⟩⟩

/-- The candidate may stay active: it is still one of the candidates, and it is a loopback address
unless there is none. -/
def MayStay (candidates : List RouterIdCandidate) (active : RouterIdCandidate) : Prop :=
  active ∈ candidates ∧
    (active.loopback = true ∨ ∀ candidate ∈ candidates, candidate.loopback = false)

instance (candidates : List RouterIdCandidate) (active : RouterIdCandidate) :
    Decidable (active.MayStay candidates) :=
  inferInstanceAs (Decidable (_ ∧ _))

theorem mayStay_perm {first second : List RouterIdCandidate} (permutes : first.Perm second)
    {active : RouterIdCandidate} : active.MayStay first ↔ active.MayStay second := by
  simp only [MayStay, permutes.mem_iff]

end RouterIdCandidate

/-! ### Selection -/

namespace RouterIdSelection

open RouterIdCandidate

variable {selection : RouterIdSelection} {candidates : List RouterIdCandidate}

theorem keepsActive_iff :
    selection.keepsActive candidates = true ↔
      ∃ active, selection.active = some active ∧ active.MayStay candidates := by
  unfold keepsActive MayStay
  cases selection.active with
  | none => simp
  | some active => simp

theorem active_update (selection : RouterIdSelection) (candidates : List RouterIdCandidate) :
    (selection.update candidates).active =
      if selection.keepsActive candidates then selection.active else best? candidates := by
  unfold update
  split <;> rfl

/-- What is selected depends on what was active before, and not on what is configured. -/
theorem active_update_congr {other : RouterIdSelection} (same : other.active = selection.active) :
    (other.update candidates).active = (selection.update candidates).active := by
  rw [active_update, active_update, same, keepsActive, keepsActive, same]

/-- Without candidates none becomes active. -/
theorem update_nil (inactive : selection.active = none) : selection.update [] = selection := by
  obtain ⟨configured, active⟩ := selection
  cases inactive
  rfl

theorem routerId_of_inactive (inactive : selection.active = none) :
    selection.routerId = selection.configured := by
  rw [routerId, inactive]
  cases selection.configured <;> rfl

/-- The active candidate stays active while it may stay, whatever other candidates there are. -/
theorem active_update_of_mayStay {active : RouterIdCandidate}
    (isActive : selection.active = some active) (mayStay : active.MayStay candidates) :
    (selection.update candidates).active = some active := by
  have keeps : selection.keepsActive candidates = true :=
    keepsActive_iff.2 ⟨active, isActive, mayStay⟩
  rw [active_update, if_pos keeps, isActive]

/-- A new active candidate is one of the candidates, and none of them is above it. -/
theorem highest_of_active_update {best : RouterIdCandidate}
    (leaves : ∀ active, selection.active = some active → ¬ active.MayStay candidates)
    (chosen : (selection.update candidates).active = some best) :
    best ∈ candidates ∧ ∀ candidate ∈ candidates, candidate.NotAbove best := by
  have changes : ¬ selection.keepsActive candidates = true := fun keeps => by
    obtain ⟨active, isActive, mayStay⟩ := keepsActive_iff.1 keeps
    exact leaves active isActive mayStay
  rw [active_update, if_neg changes] at chosen
  exact best?_eq_some chosen

/-- There is an active candidate if there are candidates, and it is one of them; if one of them is
a loopback address, so is the active one. -/
structure IsElected (candidates : List RouterIdCandidate) (selection : RouterIdSelection) :
    Prop where
  eq_none_iff : selection.active = none ↔ candidates = []
  mayStay : ∀ active, selection.active = some active → active.MayStay candidates

theorem IsElected.congr {other : RouterIdSelection} (isElected : selection.IsElected candidates)
    (same : other.active = selection.active) : other.IsElected candidates :=
  ⟨same ▸ isElected.eq_none_iff, fun active isActive => isElected.mayStay active (same ▸ isActive)⟩

theorem IsElected.of_perm {listed : List RouterIdCandidate}
    (isElected : selection.IsElected listed) (permutes : listed.Perm candidates) :
    selection.IsElected candidates where
  eq_none_iff := by
    rw [isElected.eq_none_iff]
    exact ⟨fun empty => (empty ▸ permutes).nil_eq.symm, fun empty => (empty ▸ permutes).eq_nil⟩
  mayStay active isActive := (mayStay_perm permutes).1 (isElected.mayStay active isActive)

/-- Evaluating the selection elects. -/
theorem isElected_update (selection : RouterIdSelection) (candidates : List RouterIdCandidate) :
    (selection.update candidates).IsElected candidates := by
  by_cases keeps : selection.keepsActive candidates = true
  · have kept := active_update selection candidates
    rw [if_pos keeps] at kept
    obtain ⟨active, isActive, mayStay⟩ := keepsActive_iff.1 keeps
    rw [isActive] at kept
    refine ⟨⟨fun none => ?_, fun empty => ?_⟩, fun other isOther => ?_⟩
    · rw [kept] at none
      cases none
    · rw [empty] at mayStay
      cases mayStay.1
    · rw [kept] at isOther
      cases isOther
      exact mayStay
  · have chosen := active_update selection candidates
    rw [if_neg keeps] at chosen
    refine ⟨by rw [chosen, best?_eq_none_iff], fun best isBest => ?_⟩
    rw [chosen] at isBest
    obtain ⟨member, highest⟩ := best?_eq_some isBest
    refine ⟨member, ?_⟩
    by_cases isLoopback : best.loopback = true
    · exact Or.inl isLoopback
    · refine Or.inr fun candidate inCandidates => ?_
      exact Bool.eq_false_iff.2 fun above => isLoopback ((highest candidate inCandidates).1 above)

/-- An elected selection stays when it is evaluated again. -/
theorem IsElected.active_update (isElected : selection.IsElected candidates) :
    (selection.update candidates).active = selection.active := by
  rw [RouterIdSelection.active_update]
  split
  · rfl
  next changes =>
    cases active : selection.active with
    | none => rw [isElected.eq_none_iff.1 active, best?]
    | some candidate =>
      exact absurd (keepsActive_iff.2 ⟨candidate, active, isElected.mayStay candidate active⟩)
        changes

end RouterIdSelection

/-! ### Candidates -/

namespace InterfaceTable

theorem values_forwarding (table : InterfaceTable) (vrf : UInt32) :
    (table.forwarding vrf).values = (table.attachedTo vrf).filter Interface.isUsable := by
  have forwards : ((fun interface : Interface => interface.forwards vrf) ∘ Prod.snd) =
      fun entry : String × Interface => entry.2.forwards vrf := rfl
  rw [attachedTo, List.filter_filter, interfaces, SortedMap.values, SortedMap.values, forwarding,
    List.filter_map]
  congr 1
  refine List.filter_congr fun entry _ => ?_
  exact Bool.and_comm _ _

/-- The candidates of a VRF are found on the interfaces that resolve its next hops. -/
theorem routerIdCandidates_congr {first second : InterfaceTable} {vrf : UInt32}
    (same : second.forwarding vrf = first.forwarding vrf) :
    second.routerIdCandidates vrf = first.routerIdCandidates vrf := by
  have sameListed : (second.attachedTo vrf).filter Interface.isUsable =
      (first.attachedTo vrf).filter Interface.isUsable := by
    rw [← values_forwarding, ← values_forwarding, same]
  exact congrArg (List.flatMap _) sameListed

/-- However the interfaces are listed, they offer the same candidates. -/
theorem candidatesAmong_perm {first second : List Interface} (permutes : first.Perm second)
    (vrf : UInt32) : (candidatesAmong first vrf).Perm (candidatesAmong second vrf) :=
  List.Perm.flatMap_right _ ((permutes.filter _).filter _)

theorem mem_ipv4Addresses_iff {interface : Interface} {word : IPv4} :
    word ∈ interface.ipv4Addresses ↔
      ∃ network ∈ interface.networks, network.address = .v4 word := by
  rw [Interface.ipv4Addresses, List.mem_filterMap]
  refine exists_congr fun network => and_congr_right fun _ => ?_
  cases network.address with
  | v4 own => simp
  | v6 own => simp

/-- The candidates of a VRF are the addresses of version 4 of its usable interfaces. -/
theorem mem_routerIdCandidates_iff {table : InterfaceTable} {vrf : UInt32}
    {candidate : RouterIdCandidate} :
    candidate ∈ table.routerIdCandidates vrf ↔
      ∃ name interface, table.find? name = some interface ∧ interface.vrf = vrf ∧
        interface.isUsable = true ∧ candidate.name = interface.name ∧
        candidate.loopback = interface.isLoopback ∧
        ∃ network ∈ interface.networks, network.address = .v4 candidate.address := by
  have listed : ∀ interface, interface ∈ (table.attachedTo vrf).filter Interface.isUsable ↔
      ∃ name, table.find? name = some interface ∧ interface.vrf = vrf ∧
        interface.isUsable = true := by
    intro interface
    rw [List.mem_filter, attachedTo, List.mem_filter, decide_eq_true_eq, interfaces,
      SortedMap.mem_values_iff]
    constructor
    · rintro ⟨⟨⟨name, found⟩, attached⟩, usable⟩
      exact ⟨name, found, attached, usable⟩
    · rintro ⟨name, found, attached, usable⟩
      exact ⟨⟨⟨name, found⟩, attached⟩, usable⟩
  show candidate ∈ ((table.attachedTo vrf).filter Interface.isUsable).flatMap _ ↔ _
  rw [List.mem_flatMap]
  constructor
  · rintro ⟨interface, member, offered⟩
    obtain ⟨name, found, attached, usable⟩ := (listed interface).1 member
    obtain ⟨word, hasAddress, rfl⟩ := List.mem_map.1 offered
    exact ⟨name, interface, found, attached, usable, rfl, rfl,
      mem_ipv4Addresses_iff.1 hasAddress⟩
  · rintro ⟨name, interface, found, attached, usable, sameName, sameLoopback, hasAddress⟩
    refine ⟨interface, (listed interface).2 ⟨name, found, attached, usable⟩, ?_⟩
    refine List.mem_map.2 ⟨candidate.address, mem_ipv4Addresses_iff.2 hasAddress, ?_⟩
    rw [← sameName, ← sameLoopback]

end InterfaceTable

namespace RoutingState

variable {Kernel : Type}

/-- In every state the listed candidates of a VRF are those of its interfaces. -/
theorem routerIdCandidates_perm (state : RoutingState Kernel) (vrf : UInt32) :
    (state.routerIdCandidates vrf).Perm (state.interfaces.routerIdCandidates vrf) :=
  InterfaceTable.candidatesAmong_perm (state.listing.isPerm _ _) vrf

/-- Without interfaces there are no candidates. -/
theorem routerIdCandidates_eq_nil {state : RoutingState Kernel}
    (empty : state.interfaces = .empty) (vrf : UInt32) : state.routerIdCandidates vrf = [] := by
  have permutes := state.routerIdCandidates_perm vrf
  rw [empty] at permutes
  exact permutes.eq_nil

end RoutingState

end ControlPlane
