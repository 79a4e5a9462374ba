/-
This file compares two ways to exchange the candidates of an origin for a prefix.
Done at once, the table selects a single time among the new candidates. Done step
by step, the origin is withdrawn and its new candidates are added one after the
other, with a selection in between each time. Both end with the same table. A
selection reads the contents of a set only, so every selection but the last is
forgotten, whether it was made among some candidates, among none, or not at all
because the prefix had been dropped.
-/

import ControlPlane.Proofs.Memoryless

namespace ControlPlane

namespace Rib

/-- Exchanges the candidates of an origin for a prefix step by step: they are withdrawn, and then
those given for the same prefix and origin are added in their order. -/
def replaceStepwise (resolver : Resolver) (policy : SelectionPolicy) (rib : Rib)
    (destination : Prefix) (origin : Origin) (candidates : List Candidate) : Rib :=
  (candidates.filter fun candidate =>
    candidate.origin = origin && candidate.destination = destination).foldl
      (fun rib candidate => (rib.insert resolver policy candidate).2)
      (rib.withdraw resolver policy destination origin).2

variable (resolver : Resolver) (policy : SelectionPolicy) (rib : Rib) {destination : Prefix}

/-! ### One selection instead of two -/

theorem family_reselect (candidates : SortedMap CandidateKey Candidate) :
    (rib.reselect resolver policy destination candidates).2.family = rib.family :=
  rfl

/-- What is selected for a prefix depends on the rest of the table and on the contents of the new
candidates. -/
theorem reselect_snd_congr {first second : Rib} (sameFamily : first.family = second.family)
    (others : ∀ other, destination ≠ other → first.find? other = second.find? other)
    {firstCandidates secondCandidates : SortedMap CandidateKey Candidate}
    (same : ∀ key, (firstCandidates.find? key).map Candidate.erased =
      (secondCandidates.find? key).map Candidate.erased) :
    (first.reselect resolver policy destination firstCandidates).2 =
      (second.reselect resolver policy destination secondCandidates).2 := by
  refine ext_find? sameFamily fun listed => ?_
  rw [find?_reselect, find?_reselect]
  split
  next =>
    refine congrArg some (CandidateSet.select_snd_of_contents ?_ resolver policy destination)
    refine SortedMap.ext_find? fun key => ?_
    rw [CandidateSet.find?_contents, CandidateSet.find?_contents]
    exact same key
  next elsewhere => exact others listed elsewhere

/-- To add a candidate to a table that differs from another one at the prefix only is to select
once, in the other table, among what is listed there and the candidate. -/
theorem insert_snd_eq_reselect {changed : Rib} {candidate : Candidate}
    (sameFamily : changed.family = rib.family)
    (others : ∀ other, candidate.destination ≠ other → changed.find? other = rib.find? other)
    {candidates : SortedMap CandidateKey Candidate}
    (lists : ∀ key, changed.entryAt? candidate.destination key =
      (candidates.find? key).map Candidate.erased) :
    (changed.insert resolver policy candidate).2 =
      (rib.reselect resolver policy candidate.destination
        (candidates.insert candidate.key candidate)).2 := by
  refine reselect_snd_congr resolver policy sameFamily others fun key => ?_
  rw [SortedMap.find?_insert, SortedMap.find?_insert]
  split
  · rfl
  · rw [← entryAt?_eq]
    exact lists key

/-- The selection before the addition of a candidate is forgotten. -/
theorem insert_reselect {candidate : Candidate} (here : candidate.destination = destination)
    (candidates : SortedMap CandidateKey Candidate) :
    ((rib.reselect resolver policy destination candidates).2.insert resolver policy candidate).2 =
      (rib.reselect resolver policy destination
        (candidates.insert candidate.key candidate)).2 := by
  subst here
  refine insert_snd_eq_reselect resolver policy rib (family_reselect resolver policy rib candidates)
    (fun other elsewhere => ?_) fun key => ?_
  · rw [find?_reselect, if_neg elsewhere]
  · rw [entryAt?_reselect, if_pos rfl]

/-- So is what the withdrawal before it did, be it a selection or the end of the prefix. -/
theorem insert_withdraw (origin : Origin) {candidate : Candidate}
    (here : candidate.destination = destination) :
    ((rib.withdraw resolver policy destination origin).2.insert resolver policy candidate).2 =
      (rib.reselect resolver policy destination
        (((rib.setAt destination).candidates.filter fun key _ => key.1 ≠ origin).insert
          candidate.key candidate)).2 := by
  subst here
  have withdrawn := reselects_removeWhere resolver policy rib candidate.destination
    fun key => key.1 = origin
  refine insert_snd_eq_reselect resolver policy rib (family_removeWhere _ _) withdrawn.others
    fun key => ?_
  rw [entryAt?_removeWhere, entryAt?_eq, SortedMap.find?_filter]
  by_cases isOrigin : key.1 = origin <;>
    cases (rib.setAt candidate.destination).candidates.find? key <;>
      simp [isOrigin, Option.filter]

/-- Of many additions to one prefix only the last selection counts. -/
theorem foldl_insert_reselect {added : List Candidate}
    (here : ∀ candidate ∈ added, candidate.destination = destination)
    (candidates : SortedMap CandidateKey Candidate) :
    added.foldl (fun rib candidate => (rib.insert resolver policy candidate).2)
        (rib.reselect resolver policy destination candidates).2 =
      (rib.reselect resolver policy destination
        (added.foldl (fun map candidate => map.insert candidate.key candidate) candidates)).2 := by
  induction added generalizing candidates with
  | nil => rfl
  | cons candidate rest inductionHypothesis =>
    rw [List.foldl_cons, List.foldl_cons,
      insert_reselect resolver policy rib (here candidate List.mem_cons_self)]
    exact inductionHypothesis (fun later member => here later (List.mem_cons_of_mem _ member)) _

/-! ### At once and step by step -/

theorem replaceOrigin_snd (destination : Prefix) (origin : Origin) (candidates : List Candidate) :
    (rib.replaceOrigin resolver policy destination origin candidates).2 =
      rib.replaceStepwise resolver policy destination origin candidates := by
  unfold replaceOrigin replaceStepwise
  dsimp only
  have own : ∀ candidate ∈ candidates.filter fun candidate =>
      candidate.origin = origin && candidate.destination = destination,
      candidate.destination = destination := fun candidate member => by
    have isOwn := (List.mem_filter.1 member).2
    rw [Bool.and_eq_true, decide_eq_true_iff, decide_eq_true_iff] at isOwn
    exact isOwn.2
  generalize (candidates.filter fun candidate =>
    candidate.origin = origin && candidate.destination = destination) = added at own ⊢
  cases added with
  | nil => rfl
  | cons first rest =>
    rw [List.foldl_cons, List.foldl_cons,
      insert_withdraw resolver policy rib origin (own first List.mem_cons_self),
      foldl_insert_reselect resolver policy rib
        fun later member => own later (List.mem_cons_of_mem _ member)]
    rfl

/-- The exchange of an origin's candidates at once ends with the table of the exchange step by
step. It answers one delta, which leads from the route installed before to the one installed
after, and which says that nothing changes exactly when these are equal. -/
theorem replaceOrigin_eq_stepwise (destination : Prefix) (origin : Origin)
    (candidates : List Candidate) :
    let result := rib.replaceOrigin resolver policy destination origin candidates
    result.2 = rib.replaceStepwise resolver policy destination origin candidates ∧
      result.1 =
        .transition destination (rib.installed destination) (result.2.installed destination) ∧
      result.1.Tells (rib.installed destination) (result.2.installed destination) ∧
      (result.1.isUnchanged ↔ rib.installed destination = result.2.installed destination) := by
  intro result
  have answered : result.1 =
      .transition destination (rib.installed destination) (result.2.installed destination) :=
    (reselects_replaceOrigin resolver policy rib destination origin candidates).delta_eq
  refine ⟨replaceOrigin_snd resolver policy rib destination origin candidates, answered, ?_, ?_⟩
  · rw [answered]
    exact Delta.tells_transition destination _ _
  · rw [answered]
    exact Delta.isUnchanged_transition

/-- Step by step, a route that stays is removed and added again. -/
example :
    let resolver : Resolver := fun _ => some ⟨1, "eth0"⟩
    let candidate := sampleCandidate .ospf
    let rib := ((empty .ipv4).insert resolver {} candidate).2
    let withdrawn := rib.withdraw resolver {} candidate.destination .ospf
    (rib.replaceOrigin resolver {} candidate.destination .ospf [candidate]).1.isUnchanged ∧
      withdrawn.1.desired? = none ∧ ¬ withdrawn.1.isUnchanged ∧
      ¬ (withdrawn.2.insert resolver {} candidate).1.isUnchanged := by
  decide +kernel

end Rib

end ControlPlane
