/-
This file says what operations on the routes of a VRF do to the contents of its
tables. Every operation adds candidates, removes candidates, exchanges those of
one origin, or changes nothing but settings and what selection wrote. It does so
for certain origins only, and the entries of all other origins stay. The
static entries, which are derived from the static routes, stay derived.
-/

import ControlPlane.Proofs.Contents
import ControlPlane.Proofs.RibHistory
import ControlPlane.Proofs.StaticTable
import ControlPlane.Proofs.Vrf

namespace ControlPlane

/-- Where candidates are listed shows in the contents. -/
theorem CandidateSet.IsFiled.of_contents {destination : Prefix} {first second : CandidateSet}
    (isFiled : first.IsFiled destination) (same : second.contents = first.contents) :
    second.IsFiled destination := by
  have alike : ∀ key, (second.candidates.find? key).map Candidate.erased =
      (first.candidates.find? key).map Candidate.erased := fun key => by
    rw [← find?_contents, same, find?_contents]
  refine ⟨?_, fun key candidate found => ?_⟩
  · obtain ⟨key, candidate, found⟩ := isFiled.nonempty
    have listed := alike key
    rw [found, Option.map_some, Option.map_eq_some_iff] at listed
    obtain ⟨other, otherFound, _⟩ := listed
    exact ⟨key, other, otherFound⟩
  · have listed := alike key
    rw [found, Option.map_some, eq_comm, Option.map_eq_some_iff] at listed
    obtain ⟨other, otherFound, sameErased⟩ := listed
    obtain ⟨own, sameKey⟩ := isFiled.candidatesOf key other otherFound
    rw [← Candidate.key_erased, ← sameErased, Candidate.key_erased]
    exact ⟨(congrArg Candidate.destination sameErased).symm.trans own, sameKey⟩

theorem Rib.IsFiled.of_contents {first second : Rib} (isFiled : first.IsFiled)
    (same : second.contents = first.contents) : second.IsFiled := by
  intro destination set found
  have listed := congrArg (SortedMap.find? · destination) same
  rw [find?_contents, find?_contents, found, Option.map_some, eq_comm,
    Option.map_eq_some_iff] at listed
  obtain ⟨other, otherFound, sameContents⟩ := listed
  exact (isFiled destination other otherFound).of_contents sameContents.symm

namespace Vrf

/-- The candidate that a VRF lists under a prefix and a key, without what selection wrote into
it. -/
def entryAt? (vrf : Vrf) (destination : Prefix) (key : CandidateKey) : Option Candidate :=
  (vrf.rib destination.family).entryAt? destination key

/-- In both tables, every prefix is of the family of the table and has candidates, and each of
these is listed under its own prefix and key. -/
structure IsFiled (vrf : Vrf) : Prop where
  rib_isFiled : ∀ family, (vrf.rib family).IsFiled
  family_eq : ∀ family destination set, (vrf.rib family).find? destination = some set →
    destination.family = family

theorem isFiled_create (name : String) (id : UInt32) (netns : String) (attempts : Nat) :
    (create name id netns attempts).IsFiled where
  rib_isFiled family := by cases family <;> exact Rib.isFiled_empty _
  family_eq family _ _ found := by cases family <;> cases found

/-- The candidates for a prefix are those that are listed under its keys. -/
theorem IsFiled.mem_candidatesAt_iff {vrf : Vrf} (isFiled : vrf.IsFiled) {destination : Prefix}
    {key : CandidateKey} {candidate : Candidate} :
    candidate ∈ vrf.candidatesAt destination ∧ candidate.key = key ↔
      ((vrf.rib destination.family).setAt destination).candidates.find? key = some candidate := by
  have listed := (isFiled.rib_isFiled destination.family).candidatesOf_setAt destination
  constructor
  · rintro ⟨member, rfl⟩
    obtain ⟨⟨key, _⟩, entry, rfl⟩ := List.mem_map.1 member
    have found := SortedMap.find?_eq_some_iff.2 entry
    rwa [← (listed key _ found).2] at found
  · intro found
    exact ⟨List.mem_map.2 ⟨(key, candidate), SortedMap.find?_eq_some_iff.1 found, rfl⟩,
      (listed key candidate found).2⟩

/-- Two VRFs have the same name, the same id and the same static routes and list the same
candidates. -/
structure SameContents (first second : Vrf) : Prop where
  name_eq : second.name = first.name
  id_eq : second.id = first.id
  statics_eq : second.statics = first.statics
  family_eq : ∀ family, (second.rib family).family = (first.rib family).family
  contents_eq : ∀ family, (second.rib family).contents = (first.rib family).contents

namespace SameContents

variable {first second third : Vrf}

theorem refl (vrf : Vrf) : vrf.SameContents vrf :=
  ⟨rfl, rfl, rfl, fun _ => rfl, fun _ => rfl⟩

theorem trans (left : first.SameContents second) (right : second.SameContents third) :
    first.SameContents third where
  name_eq := right.name_eq.trans left.name_eq
  id_eq := right.id_eq.trans left.id_eq
  statics_eq := right.statics_eq.trans left.statics_eq
  family_eq family := (right.family_eq family).trans (left.family_eq family)
  contents_eq family := (right.contents_eq family).trans (left.contents_eq family)

/-- Only settings, or what is programmed, differ. -/
theorem of_sameRoutes (same : first.SameRoutes second)
    (sameStatics : second.statics = first.statics) : first.SameContents second where
  name_eq := same.name_eq
  id_eq := same.id_eq
  statics_eq := sameStatics
  family_eq family := by rw [same.rib_eq]
  contents_eq family := by rw [same.rib_eq]

theorem isFiled (same : first.SameContents second) (isFiled : first.IsFiled) : second.IsFiled where
  rib_isFiled family := (isFiled.rib_isFiled family).of_contents (same.contents_eq family)
  family_eq family destination set found := by
    have listed := congrArg (SortedMap.find? · destination) (same.contents_eq family)
    rw [Rib.find?_contents, Rib.find?_contents, found, Option.map_some, eq_comm,
      Option.map_eq_some_iff] at listed
    obtain ⟨other, otherFound, _⟩ := listed
    exact isFiled.family_eq family destination other otherFound

theorem entryAt?_eq (same : first.SameContents second) (destination : Prefix)
    (key : CandidateKey) : second.entryAt? destination key = first.entryAt? destination key := by
  rw [entryAt?, Rib.entryAt?, same.contents_eq, entryAt?, Rib.entryAt?]

end SameContents

theorem sameContents_refresh (resolver : Resolver) (vrf : Vrf) :
    vrf.SameContents (vrf.refresh resolver).2 where
  name_eq := rfl
  id_eq := rfl
  statics_eq := rfl
  family_eq family := by rw [rib_refresh]; rfl
  contents_eq family := by rw [rib_refresh, Rib.contents_refresh]

/-! ### Operations on one table -/

section OnRib

variable {vrf : Vrf} {destination : Prefix} {operate : SelectionPolicy → Rib → Delta × Rib}

theorem isFiled_onRib {resolver : Resolver} (isFiled : vrf.IsFiled)
    (keeps : ∀ policy (rib : Rib), rib.IsFiled → (operate policy rib).2.IsFiled)
    (reselects : ∀ policy rib, Rib.Reselects resolver policy destination rib (operate policy rib)) :
    (vrf.onRib destination.family operate).2.IsFiled := by
  have ribs : ∀ family, ((vrf.onRib destination.family operate).2.rib family) =
      if destination.family = family then
        (operate vrf.policy (vrf.rib destination.family)).2
      else vrf.rib family := fun family => rib_setRib vrf destination.family family _
  refine ⟨fun family => ?_, fun family listed set found => ?_⟩
  · rw [ribs]
    split
    · exact keeps _ _ (isFiled.rib_isFiled destination.family)
    · exact isFiled.rib_isFiled family
  · rw [ribs] at found
    split at found
    next own =>
      by_cases here : destination = listed
      · exact here ▸ own
      · rw [(reselects _ _).others listed here] at found
        exact (isFiled.family_eq _ listed set found).trans own
    next => exact isFiled.family_eq family listed set found

theorem statics_onRib (vrf : Vrf) (family : Family)
    (operate : SelectionPolicy → Rib → Delta × Rib) :
    (vrf.onRib family operate).2.statics = vrf.statics :=
  statics_setRib _ _ _

theorem id_onRib (vrf : Vrf) (family : Family) (operate : SelectionPolicy → Rib → Delta × Rib) :
    (vrf.onRib family operate).2.id = vrf.id :=
  id_setRib _ _ _

/-- What an operation on a prefix does to the entries of its table, it does to those of the
VRF. -/
theorem entryAt?_onRib {listed : Prefix} {key : CandidateKey} {touched : Prop} [Decidable touched]
    {entry : Option Candidate}
    (answers : ∀ policy (rib : Rib), (operate policy rib).2.entryAt? listed key =
      if destination = listed ∧ touched then entry else rib.entryAt? listed key) :
    (vrf.onRib destination.family operate).2.entryAt? listed key =
      if destination = listed ∧ touched then entry else vrf.entryAt? listed key := by
  show ((vrf.setRib destination.family _).rib listed.family).entryAt? listed key = _
  rw [rib_setRib]
  by_cases sameFamily : destination.family = listed.family
  · rw [if_pos sameFamily, answers, sameFamily]
    rfl
  · have elsewhere : destination ≠ listed := fun same => sameFamily (congrArg Prefix.family same)
    rw [if_neg sameFamily, if_neg fun both => elsewhere both.1]
    rfl

end OnRib

/-! ### Entries after operations -/

section Entries

variable (resolver : Resolver) (vrf : Vrf) (listed : Prefix) (key : CandidateKey)

theorem entryAt?_withdrawInstance (destination : Prefix) (origin : Origin) (inst : UInt32) :
    (vrf.withdrawInstance resolver destination origin inst).2.entryAt? listed key =
      if destination = listed ∧ decide (key = (origin, inst)) = true then none
      else vrf.entryAt? listed key :=
  entryAt?_onRib fun policy rib =>
    Rib.entryAt?_removeWhere resolver policy rib destination _ listed key

/-- A candidate that is announced is listed at its configured distance. -/
theorem entryAt?_announce {resolver : Resolver} {vrf : Vrf} {candidate : Candidate}
    {rerouted : Rerouted} (announced : vrf.announce resolver candidate = .ok rerouted) :
    rerouted.2.entryAt? listed key =
      if candidate.destination = listed ∧ candidate.key = key then
        some { candidate.erased with
          distance := (vrf.configuredDistance? candidate).getD candidate.distance }
      else vrf.entryAt? listed key := by
  unfold announce at announced
  split at announced
  · cases announced
  · cases announced
    exact entryAt?_onRib fun policy rib => Rib.entryAt?_insert resolver policy rib _ listed key

theorem entryAt?_refreshStatic (destination : Prefix) :
    (refreshStatic resolver destination vrf).2.entryAt? listed key =
      if destination = listed ∧ key.1 = .static then
        (((vrf.statics.candidates vrf.id destination).filter fun candidate =>
          candidate.destination = destination && candidate.key = key).getLast?).map Candidate.erased
      else vrf.entryAt? listed key :=
  entryAt?_onRib fun policy rib =>
    Rib.entryAt?_replaceOrigin resolver policy rib destination .static _ listed key

end Entries

/-! ### Which origins an operation touches -/

/-- One VRF becomes the other by adding, removing and exchanging candidates of certain origins. The
static routes stay, unless the static origin is among them. -/
inductive Edits (touches : Origin → Prop) : Vrf → Vrf → Prop
  | resettled {first second : Vrf} (same : first.SameContents second) : Edits touches first second
  | configured {vrf : Vrf} (statics : StaticTable) (touched : touches .static) :
      Edits touches vrf { vrf with statics }
  | inserted {vrf : Vrf} (resolver : Resolver) {candidate : Candidate}
      (touched : touches candidate.origin) :
      Edits touches vrf (vrf.onRib candidate.destination.family fun policy rib =>
        rib.insert resolver policy candidate).2
  | removed {vrf : Vrf} (resolver : Resolver) (destination : Prefix) {picks : CandidateKey → Bool}
      (touched : ∀ key, picks key = true → touches key.1) :
      Edits touches vrf (vrf.onRib destination.family fun policy rib =>
        rib.removeWhere resolver policy destination picks).2
  | replaced {vrf : Vrf} (resolver : Resolver) (destination : Prefix) {origin : Origin}
      (candidates : List Candidate) (touched : touches origin) :
      Edits touches vrf (vrf.onRib destination.family fun policy rib =>
        rib.replaceOrigin resolver policy destination origin candidates).2
  | followed {first second third : Vrf} (before : Edits touches first second)
      (after : Edits touches second third) : Edits touches first third

namespace Edits

variable {touches : Origin → Prop} {first second : Vrf}

theorem name_eq (edits : Edits touches first second) : second.name = first.name := by
  induction edits with
  | resettled same => exact same.name_eq
  | configured => rfl
  | inserted | removed | replaced => exact name_setRib _ _ _
  | followed _ _ before after => exact after.trans before

theorem id_eq (edits : Edits touches first second) : second.id = first.id := by
  induction edits with
  | resettled same => exact same.id_eq
  | configured => rfl
  | inserted | removed | replaced => exact id_onRib _ _ _
  | followed _ _ before after => exact after.trans before

theorem isFiled (edits : Edits touches first second) (isFiled : first.IsFiled) :
    second.IsFiled := by
  induction edits with
  | resettled same => exact same.isFiled isFiled
  | configured => exact ⟨isFiled.rib_isFiled, isFiled.family_eq⟩
  | inserted resolver =>
    exact isFiled_onRib isFiled
      (fun policy rib ribFiled => ribFiled.insert resolver policy _)
      fun policy rib => Rib.reselects_insert resolver policy rib _
  | removed resolver destination =>
    exact isFiled_onRib isFiled
      (fun policy rib ribFiled => ribFiled.removeWhere resolver policy destination _)
      fun policy rib => Rib.reselects_removeWhere resolver policy rib destination _
  | replaced resolver destination candidates =>
    exact isFiled_onRib isFiled
      (fun policy rib ribFiled => ribFiled.replaceOrigin resolver policy destination _ candidates)
      fun policy rib => Rib.reselects_replaceOrigin resolver policy rib destination _ _
  | followed _ _ before after => exact after (before isFiled)

/-- The entries of an origin that is not touched stay. -/
theorem entryAt?_eq (edits : Edits touches first second) {key : CandidateKey}
    (untouched : ¬ touches key.1) (destination : Prefix) :
    second.entryAt? destination key = first.entryAt? destination key := by
  induction edits with
  | resettled same => exact same.entryAt?_eq destination key
  | configured => rfl
  | @inserted vrf resolver candidate touched =>
    rw [entryAt?_onRib fun policy rib => Rib.entryAt?_insert resolver policy rib candidate _ key]
    refine if_neg fun both => untouched ?_
    rw [← both.2]
    exact touched
  | @removed vrf resolver own picks touched =>
    rw [entryAt?_onRib fun policy rib =>
      Rib.entryAt?_removeWhere resolver policy rib own picks _ key]
    exact if_neg fun both => untouched (touched key both.2)
  | @replaced vrf resolver own origin candidates touched =>
    rw [entryAt?_onRib fun policy rib =>
      Rib.entryAt?_replaceOrigin resolver policy rib own origin candidates _ key]
    exact if_neg fun (both : own = destination ∧ key.1 = origin) => untouched (both.2 ▸ touched)
  | followed _ _ before after => exact after.trans before

theorem statics_eq (edits : Edits touches first second) (untouched : ¬ touches .static) :
    second.statics = first.statics := by
  induction edits with
  | resettled same => exact same.statics_eq
  | configured _ touched => exact absurd touched untouched
  | inserted | removed | replaced => exact statics_onRib _ _ _
  | followed _ _ before after => exact after.trans before

theorem mono {touches' : Origin → Prop} (edits : Edits touches first second)
    (included : ∀ origin, touches origin → touches' origin) : Edits touches' first second := by
  induction edits with
  | resettled same => exact .resettled same
  | configured statics touched => exact .configured statics (included _ touched)
  | inserted resolver touched => exact .inserted resolver (included _ touched)
  | removed resolver destination touched =>
    exact .removed resolver destination fun key picked => included _ (touched key picked)
  | replaced resolver destination candidates touched =>
    exact .replaced resolver destination candidates (included _ touched)
  | followed _ _ before after => exact .followed before after

end Edits

/-! ### The operations on routes -/

section Operations

variable {touches : Origin → Prop} {resolver : Resolver} {vrf : Vrf}

theorem edits_self (vrf : Vrf) : Edits touches vrf vrf :=
  .resettled (.refl vrf)

theorem edits_inTurn {Item : Type} {operate : Item → Vrf → Rerouted}
    (each : ∀ item vrf, Edits touches vrf (operate item vrf).2) (items : List Item) (vrf : Vrf) :
    Edits touches vrf (inTurn operate items vrf).2 := by
  induction items generalizing vrf with
  | nil => exact edits_self vrf
  | cons item rest inductionHypothesis =>
    exact .followed (each item vrf) (inductionHypothesis (operate item vrf).2)

theorem edits_announce {candidate : Candidate} {rerouted : Rerouted}
    (touched : touches candidate.origin)
    (announced : vrf.announce resolver candidate = .ok rerouted) :
    Edits touches vrf rerouted.2 := by
  unfold announce at announced
  split at announced
  · cases announced
  · cases announced
    exact .inserted resolver touched

theorem edits_announceAll {candidates : List Candidate} {rerouted : Rerouted}
    (touched : ∀ candidate ∈ candidates, touches candidate.origin)
    (announced : vrf.announceAll resolver candidates = .ok rerouted) :
    Edits touches vrf rerouted.2 := by
  induction candidates generalizing vrf rerouted with
  | nil =>
    cases announced
    exact edits_self vrf
  | cons candidate rest inductionHypothesis =>
    obtain ⟨one, first, announced⟩ := exists_of_bind_eq_ok announced
    obtain ⟨others, second, announced⟩ := exists_of_bind_eq_ok announced
    cases announced
    have later := inductionHypothesis
      (fun later member => touched later (List.mem_cons_of_mem _ member)) second
    exact .followed (edits_announce (touched candidate List.mem_cons_self) first) later

theorem edits_withdraw (destination : Prefix) {origin : Origin} (touched : touches origin) :
    Edits touches vrf (vrf.withdraw resolver destination origin).2 :=
  .removed resolver destination fun _ picked => of_decide_eq_true picked ▸ touched

theorem edits_withdrawInstance (destination : Prefix) {origin : Origin} (inst : UInt32)
    (touched : touches origin) :
    Edits touches vrf (vrf.withdrawInstance resolver destination origin inst).2 :=
  .removed resolver destination fun _ picked => by
    rw [of_decide_eq_true picked]
    exact touched

theorem edits_refreshStatic (touched : touches .static) (destination : Prefix) (vrf : Vrf) :
    Edits touches vrf (refreshStatic resolver destination vrf).2 :=
  .replaced resolver destination _ touched

theorem edits_addStatic (touched : touches .static) (route : StaticRoute) (vrf : Vrf) :
    Edits touches vrf (addStatic resolver route vrf).2 :=
  .followed (.configured (vrf.statics.add route).2 touched) (edits_refreshStatic touched _ _)

theorem edits_removeStatic (touched : touches .static) {route : StaticRoute} {rerouted : Rerouted}
    (removed : removeStatic resolver route vrf = .ok rerouted) : Edits touches vrf rerouted.2 := by
  obtain ⟨result, _, removed⟩ := exists_of_bind_eq_ok removed
  cases removed
  exact .followed (.configured result.2 touched) (edits_refreshStatic touched _ _)

theorem edits_purgeStatics (touched : touches .static) (name : String) (vrf : Vrf) :
    Edits touches vrf (purgeStatics resolver name vrf).2 :=
  .followed (.configured (vrf.statics.purge name (vrf.boundStatics name)).2 touched)
    (edits_inTurn (edits_refreshStatic touched) _ _)

end Operations

/-! ### Static entries -/

/-- The static entries of a prefix are the candidates that the static routes give. -/
def DerivesStaticsAt (vrf : Vrf) (destination : Prefix) : Prop :=
  ∀ inst candidate, vrf.entryAt? destination (.static, inst) = some candidate ↔
    candidate ∈ vrf.statics.candidates vrf.id destination ∧ candidate.inst = inst

/-- The static entries of all prefixes are those that the static routes give. -/
def DerivesStatics (vrf : Vrf) : Prop :=
  ∀ destination, vrf.DerivesStaticsAt destination

section Statics

variable {first second vrf : Vrf} {destination : Prefix}

/-- Nothing that the static entries of a prefix depend on has changed. -/
theorem DerivesStaticsAt.congr (derives : first.DerivesStaticsAt destination)
    (sameId : second.id = first.id)
    (sameHops : second.statics.hopsOf destination = first.statics.hopsOf destination)
    (sameEntries : ∀ inst, second.entryAt? destination (.static, inst) =
      first.entryAt? destination (.static, inst)) : second.DerivesStaticsAt destination := by
  intro inst candidate
  rw [sameEntries, sameId, StaticTable.candidates_congr sameHops]
  exact derives inst candidate

/-- An operation that does not touch the static origin keeps the static entries as they are to
be. -/
theorem Edits.derivesStatics {touches : Origin → Prop} (edits : Edits touches first second)
    (untouched : ¬ touches .static) (derives : first.DerivesStatics) : second.DerivesStatics :=
  fun destination => (derives destination).congr edits.id_eq (by rw [edits.statics_eq untouched])
    fun _ => edits.entryAt?_eq untouched destination

/-- What a test accepts last is what it accepts at all, if it accepts only one. -/
theorem getLast?_filter_eq_some_iff {Item : Type} {items : List Item} {accepts : Item → Bool}
    (unique : ∀ first ∈ items, ∀ second ∈ items,
      accepts first = true → accepts second = true → first = second) {item : Item} :
    (items.filter accepts).getLast? = some item ↔ item ∈ items ∧ accepts item = true := by
  rw [← List.mem_filter]
  refine ⟨List.mem_of_getLast?, fun member => ?_⟩
  have last := List.getLast?_eq_some_getLast (List.ne_nil_of_mem member)
  rw [last]
  have lastMember := List.mem_filter.1 (List.getLast_mem (List.ne_nil_of_mem member))
  have known := List.mem_filter.1 member
  exact congrArg some (unique _ lastMember.1 _ known.1 lastMember.2 known.2)

/-- Static routes give candidates that selection has not seen yet. -/
theorem mem_candidates {table : StaticTable} {id : UInt32} {candidate : Candidate}
    (listed : candidate ∈ table.candidates id destination) :
    candidate.erased = candidate ∧ candidate.origin = .static ∧
      candidate.destination = destination := by
  obtain ⟨distance, _, rfl⟩ := StaticTable.mem_candidates_iff.1 listed
  refine ⟨?_, rfl, rfl⟩
  simp only [Candidate.erased, StaticTable.candidateAt, List.map_map]
  rfl

/-- A prefix whose static entries were derived anew has those that the static routes give. -/
theorem derivesStaticsAt_refreshStatic_self (resolver : Resolver) (destination : Prefix)
    (vrf : Vrf) : (refreshStatic resolver destination vrf).2.DerivesStaticsAt destination := by
  intro inst candidate
  have own : ∀ listed : Candidate, listed ∈ vrf.statics.candidates vrf.id destination →
      ((listed.destination = destination && listed.key = (.static, inst)) = true ↔
        listed.inst = inst) := by
    intro listed member
    obtain ⟨_, isStatic, here⟩ := mem_candidates member
    simp [here, Candidate.key, isStatic]
  have unique : ∀ first ∈ vrf.statics.candidates vrf.id destination,
      ∀ second ∈ vrf.statics.candidates vrf.id destination,
      (first.destination = destination && first.key = (.static, inst)) = true →
      (second.destination = destination && second.key = (.static, inst)) = true →
      first = second := by
    intro first firstListed second secondListed firstOwn secondOwn
    refine StaticTable.eq_of_inst_eq firstListed secondListed ?_
    rw [(own first firstListed).1 firstOwn, (own second secondListed).1 secondOwn]
  rw [entryAt?_refreshStatic, if_pos ⟨rfl, rfl⟩, Option.map_eq_some_iff]
  show _ ↔ candidate ∈ ((vrf.onRib destination.family _).2.statics.candidates
    (vrf.onRib destination.family _).2.id destination) ∧ _
  rw [statics_onRib, id_onRib]
  constructor
  · rintro ⟨listed, isLast, rfl⟩
    obtain ⟨member, accepted⟩ := (getLast?_filter_eq_some_iff unique).1 isLast
    rw [(mem_candidates member).1]
    exact ⟨member, (own listed member).1 accepted⟩
  · rintro ⟨member, sameInst⟩
    have isLast := (getLast?_filter_eq_some_iff unique).2
      ⟨member, (own candidate member).2 sameInst⟩
    exact ⟨candidate, isLast, (mem_candidates member).1⟩

/-- Other prefixes keep their static entries. -/
theorem derivesStaticsAt_refreshStatic (resolver : Resolver) {own : Prefix}
    (derives : own = destination ∨ vrf.DerivesStaticsAt destination) :
    (refreshStatic resolver own vrf).2.DerivesStaticsAt destination := by
  by_cases here : own = destination
  · subst here
    exact derivesStaticsAt_refreshStatic_self resolver own vrf
  · refine (derives.resolve_left here).congr (id_onRib _ _ _)
      (congrArg (StaticTable.hopsOf · destination) (statics_onRib _ _ _)) fun inst => ?_
    rw [entryAt?_refreshStatic]
    exact if_neg fun both => here both.1

theorem derivesStaticsAt_inTurn (resolver : Resolver) {prefixes : List Prefix}
    (derives : destination ∈ prefixes ∨ vrf.DerivesStaticsAt destination) :
    (inTurn (refreshStatic resolver) prefixes vrf).2.DerivesStaticsAt destination := by
  induction prefixes generalizing vrf with
  | nil => exact derives.resolve_left List.not_mem_nil
  | cons first rest inductionHypothesis =>
    refine inductionHypothesis ?_
    rcases derives with member | derives
    · rcases List.mem_cons.1 member with rfl | inRest
      · exact Or.inr (derivesStaticsAt_refreshStatic resolver (Or.inl rfl))
      · exact Or.inl inRest
    · exact Or.inr (derivesStaticsAt_refreshStatic resolver (Or.inr derives))

/-- New static routes leave the static entries alone of a prefix that keeps its next hops. -/
theorem DerivesStaticsAt.withStatics {statics : StaticTable}
    (derives : vrf.DerivesStaticsAt destination)
    (sameHops : statics.hopsOf destination = vrf.statics.hopsOf destination) :
    Vrf.DerivesStaticsAt { vrf with statics } destination :=
  derives.congr rfl sameHops fun _ => rfl

theorem DerivesStatics.addStatic (derives : vrf.DerivesStatics) (resolver : Resolver)
    (route : StaticRoute) : (addStatic resolver route vrf).2.DerivesStatics := by
  intro destination
  refine derivesStaticsAt_refreshStatic resolver ?_
  by_cases here : (vrf.statics.add route).1 = destination
  · exact Or.inl here
  · exact Or.inr ((derives destination).withStatics (StaticTable.hopsOf_add_of_ne here))

theorem DerivesStatics.removeStatic (derives : vrf.DerivesStatics) {resolver : Resolver}
    {route : StaticRoute} {rerouted : Rerouted}
    (removed : removeStatic resolver route vrf = .ok rerouted) : rerouted.2.DerivesStatics := by
  obtain ⟨result, answered, removed⟩ := exists_of_bind_eq_ok removed
  cases removed
  intro destination
  refine derivesStaticsAt_refreshStatic resolver ?_
  by_cases here : result.1 = destination
  · exact Or.inl here
  · exact Or.inr ((derives destination).withStatics (StaticTable.hopsOf_remove_of_ne answered here))

theorem DerivesStatics.purgeStatics (derives : vrf.DerivesStatics) (resolver : Resolver)
    (name : String) : (purgeStatics resolver name vrf).2.DerivesStatics := by
  intro destination
  refine derivesStaticsAt_inTurn resolver ?_
  by_cases affected : destination ∈ (vrf.statics.purge name (vrf.boundStatics name)).1
  · exact Or.inl affected
  · exact Or.inr ((derives destination).withStatics
      (StaticTable.hopsOf_purge_of_notMem name _ affected))

end Statics

end Vrf

end ControlPlane
