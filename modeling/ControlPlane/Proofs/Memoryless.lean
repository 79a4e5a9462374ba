/-
This file proves that the selection of a table has no memory. Two tables that list
the same candidates are equal once both are refreshed under one resolver and one
policy, whatever was done to each before and under whatever resolvers and
policies. If nothing else was ever used, they are equal as they are, because
every operation leaves a table settled. In particular it does not matter in which
order candidates are added.
-/

import ControlPlane.Proofs.Contents
import ControlPlane.Proofs.RibHistory

namespace ControlPlane

/-- The step selects under the given resolver and policy. -/
def RibStep.IsUnder (resolver : Resolver) (policy : SelectionPolicy) (step : RibStep) : Prop :=
  step.resolver = resolver ∧ step.policy = policy

namespace Rib

variable {resolver : Resolver} {policy : SelectionPolicy} {rib : Rib}

theorem family_insert (resolver : Resolver) (policy : SelectionPolicy) (rib : Rib)
    (candidate : Candidate) : (rib.insert resolver policy candidate).2.family = rib.family :=
  rfl

theorem family_removeWhere (destination : Prefix) (picks : CandidateKey → Bool) :
    (rib.removeWhere resolver policy destination picks).2.family = rib.family := by
  unfold removeWhere
  split
  · rfl
  · dsimp only
    split
    · rfl
    · split <;> rfl

theorem family_step (rib : Rib) (step : RibStep) : (rib.step step).2.family = rib.family := by
  obtain ⟨resolver, policy, operation⟩ := step
  cases operation with
  | insert | refresh | purge => rfl
  | withdraw | withdrawInstance => exact family_removeWhere _ _
  | replaceOrigin =>
    unfold step perform replaceOrigin
    dsimp only
    split
    · exact family_removeWhere _ _
    · rfl

theorem family_history (steps : List RibStep) (rib : Rib) :
    (rib.history steps).2.family = rib.family := by
  induction steps generalizing rib with
  | nil => rfl
  | cons first rest inductionHypothesis =>
    exact (inductionHypothesis (rib.step first).2).trans (rib.family_step first)

/-! ### Histories under one resolver and policy -/

/-- A step keeps a table settled under the resolver and the policy of the step. -/
theorem IsSettled.step (isSettled : rib.IsSettled resolver policy) {step : RibStep}
    (isUnder : step.IsUnder resolver policy) : (rib.step step).2.IsSettled resolver policy := by
  obtain ⟨_, _, operation⟩ := step
  obtain ⟨rfl, rfl⟩ := isUnder
  cases operation with
  | insert candidate => exact (reselects_insert _ _ rib candidate).isSettled isSettled
  | withdraw destination origin =>
    exact (reselects_removeWhere _ _ rib destination _).isSettled isSettled
  | withdrawInstance destination origin inst =>
    exact (reselects_removeWhere _ _ rib destination _).isSettled isSettled
  | replaceOrigin destination origin candidates =>
    exact (reselects_replaceOrigin _ _ rib destination origin candidates).isSettled isSettled
  | refresh => exact isSettled_refresh _ _ rib
  | purge => exact fun _ _ found => nomatch found

theorem IsSettled.history (isSettled : rib.IsSettled resolver policy) {steps : List RibStep}
    (areUnder : ∀ step ∈ steps, step.IsUnder resolver policy) :
    (rib.history steps).2.IsSettled resolver policy := by
  induction steps generalizing rib with
  | nil => exact isSettled
  | cons first rest inductionHypothesis =>
    have stepSettled := isSettled.step (areUnder first List.mem_cons_self)
    exact inductionHypothesis stepSettled fun later member =>
      areUnder later (List.mem_cons_of_mem _ member)

/-! ### The order of insertions -/

/-- The candidates for the prefix of a candidate together with it, before selection. -/
def withCandidate (rib : Rib) (candidate : Candidate) : CandidateSet :=
  { rib.setAt candidate.destination with
    candidates :=
      (rib.setAt candidate.destination).candidates.insert candidate.key candidate }

theorem find?_contents_withCandidate (rib : Rib) (candidate : Candidate) (key : CandidateKey) :
    (rib.withCandidate candidate).contents.find? key =
      if candidate.key = key then some candidate.erased
      else rib.entryAt? candidate.destination key := by
  rw [withCandidate, CandidateSet.find?_contents, SortedMap.find?_insert,
    apply_ite (Option.map Candidate.erased), ← entryAt?_eq, Option.map_some]

theorem find?_insert (resolver : Resolver) (policy : SelectionPolicy) (rib : Rib)
    (candidate : Candidate) (listed : Prefix) :
    (rib.insert resolver policy candidate).2.find? listed =
      if candidate.destination = listed then
        some ((rib.withCandidate candidate).select resolver policy candidate.destination).2
      else rib.find? listed :=
  find?_reselect resolver policy rib candidate.destination _ listed

theorem withCandidate_insert_of_ne (resolver : Resolver) (policy : SelectionPolicy) (rib : Rib)
    {first second : Candidate} (elsewhere : first.destination ≠ second.destination) :
    (rib.insert resolver policy first).2.withCandidate second = rib.withCandidate second := by
  have same : (rib.insert resolver policy first).2.setAt second.destination =
      rib.setAt second.destination := by
    rw [setAt, find?_insert, if_neg elsewhere, setAt]
  rw [withCandidate, same, withCandidate]

/-- Candidates with different prefixes or keys can be added in either order. -/
theorem insert_comm (resolver : Resolver) (policy : SelectionPolicy) (rib : Rib)
    {first second : Candidate}
    (distinct : (first.destination, first.key) ≠ (second.destination, second.key)) :
    ((rib.insert resolver policy first).2.insert resolver policy second).2 =
      ((rib.insert resolver policy second).2.insert resolver policy first).2 := by
  have sameFamily : ((rib.insert resolver policy first).2.insert resolver policy second).2.family =
      ((rib.insert resolver policy second).2.insert resolver policy first).2.family := by
    rw [family_insert, family_insert, family_insert, family_insert]
  refine ext_find? sameFamily fun listed => ?_
  rw [find?_insert, find?_insert, find?_insert, find?_insert]
  by_cases same : first.destination = second.destination
  · have keys : first.key ≠ second.key := fun sameKey => distinct (Prod.ext same sameKey)
    have alike : ((rib.insert resolver policy first).2.withCandidate second).contents =
        ((rib.insert resolver policy second).2.withCandidate first).contents := by
      refine SortedMap.ext_find? fun key => ?_
      rw [find?_contents_withCandidate, find?_contents_withCandidate, entryAt?_insert,
        entryAt?_insert, same]
      simp only [true_and]
      by_cases isFirst : first.key = key
      · have notSecond : second.key ≠ key := fun isSecond => keys (isFirst.trans isSecond.symm)
        rw [if_neg notSecond, if_pos isFirst, if_pos isFirst]
      · rw [if_neg isFirst, if_neg isFirst]
    rw [same, CandidateSet.select_snd_of_contents alike]
    split
    · rfl
    · rfl
  · rw [withCandidate_insert_of_ne resolver policy rib same,
      withCandidate_insert_of_ne resolver policy rib (Ne.symm same)]
    by_cases isFirst : first.destination = listed
    · have notSecond : second.destination ≠ listed :=
        fun isSecond => same (isFirst.trans isSecond.symm)
      rw [if_pos isFirst, if_neg notSecond, if_pos isFirst]
    · rw [if_neg isFirst, if_neg isFirst]

/-! ### Selection has no memory -/

/-- Histories of an empty table that end with the same contents end with the same table once it is
refreshed, whatever resolvers and policies they used, and with the same table as it is if they used
one resolver and one policy. Insertions under different prefixes or keys commute. -/
theorem history_memoryless (family : Family) :
    (∀ first second : List RibStep,
      ((empty family).history first).2.contents = ((empty family).history second).2.contents →
        (∀ resolver policy,
          (((empty family).history first).2.refresh resolver policy).2 =
            (((empty family).history second).2.refresh resolver policy).2) ∧
        (∀ resolver policy, (∀ step ∈ first ++ second, step.IsUnder resolver policy) →
          ((empty family).history first).2 = ((empty family).history second).2)) ∧
    ∀ resolver policy (rib : Rib) (first second : Candidate),
      (first.destination, first.key) ≠ (second.destination, second.key) →
        ((rib.insert resolver policy first).2.insert resolver policy second).2 =
          ((rib.insert resolver policy second).2.insert resolver policy first).2 := by
  refine ⟨fun first second same => ?_, fun resolver policy rib _ _ distinct =>
    insert_comm resolver policy rib distinct⟩
  have sameFamily : ((empty family).history first).2.family =
      ((empty family).history second).2.family := by
    rw [family_history, family_history]
  refine ⟨fun resolver policy => refresh_snd_congr resolver policy sameFamily same,
    fun resolver policy areUnder => ?_⟩
  have emptySettled : (empty family).IsSettled resolver policy := fun _ _ found => nomatch found
  have firstSettled := emptySettled.history fun step member =>
    areUnder step (List.mem_append_left _ member)
  have secondSettled := emptySettled.history fun step member =>
    areUnder step (List.mem_append_right _ member)
  exact firstSettled.eq_of_contents secondSettled sameFamily same

/-- A route of an origin over an interface. -/
def sampleCandidate (origin : Origin) : Candidate :=
  (Candidate.create 0 (Prefix.ofNetwork ⟨.v4 0x0A100000, 12, by decide⟩) origin).addHop
    (.interface "eth0")

/-- The route is added while all next hops resolve. -/
def sampleInsertion (origin : Origin) : RibStep :=
  ⟨fun _ => some ⟨1, "eth0"⟩, {}, .insert (sampleCandidate origin)⟩

theorem history_memoryless_sampleInsertion :
    let first := ((empty .ipv4).history [sampleInsertion .static, sampleInsertion .ospf]).2
    let second := ((empty .ipv4).history [sampleInsertion .ospf, sampleInsertion .static]).2
    (first.installed (sampleCandidate .static).destination).isSome ∧
      first.contents = second.contents ∧ first = second ∧
      (first.refresh (fun _ => none) {}).2 = (second.refresh (fun _ => none) {}).2 ∧
      (((empty .ipv4).insert (fun _ => none) {} (sampleCandidate .static)).2.insert (fun _ => none)
          {} (sampleCandidate .ospf)).2 =
        (((empty .ipv4).insert (fun _ => none) {} (sampleCandidate .ospf)).2.insert (fun _ => none)
          {} (sampleCandidate .static)).2 := by
  intro first second
  have same : first.contents = second.contents := by decide +kernel
  have isInstalled : (first.installed (sampleCandidate .static).destination).isSome := by
    decide +kernel
  have distinct : ((sampleCandidate .static).destination, (sampleCandidate .static).key) ≠
      ((sampleCandidate .ospf).destination, (sampleCandidate .ospf).key) := by decide
  have areUnder : ∀ step ∈ [sampleInsertion .static, sampleInsertion .ospf] ++
      [sampleInsertion .ospf, sampleInsertion .static],
      step.IsUnder (fun _ => some ⟨1, "eth0"⟩) {} := by
    simp [sampleInsertion, RibStep.IsUnder]
  obtain ⟨refreshed, settled⟩ := (history_memoryless .ipv4).1
    [sampleInsertion .static, sampleInsertion .ospf]
    [sampleInsertion .ospf, sampleInsertion .static] same
  have commutes := (history_memoryless .ipv4).2 (fun _ => none) {} (empty .ipv4)
    (sampleCandidate .static) (sampleCandidate .ospf) distinct
  exact ⟨isInstalled, same, settled _ _ areUnder, refreshed (fun _ => none) {}, commutes⟩

end Rib

end ControlPlane
