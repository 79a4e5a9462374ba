/-
This file follows a table of candidates through every sequence of operations, each
with a resolver and a policy of its own. The deltas that the operations answer,
replayed on no routes, give the installed routes of the table: no delta is missing,
repeated or of the wrong kind. No prefix is kept without candidates, and every
candidate stays under its own prefix and key.
-/

import ControlPlane.Proofs.Replay
import ControlPlane.Proofs.Rib

namespace ControlPlane

/-! ### Histories -/

/-- What may be done to a table of candidates. -/
inductive RibOperation
  | insert (candidate : Candidate)
  | withdraw (destination : Prefix) (origin : Origin)
  | withdrawInstance (destination : Prefix) (origin : Origin) (inst : UInt32)
  | replaceOrigin (destination : Prefix) (origin : Origin) (candidates : List Candidate)
  | refresh
  | purge

/-- An operation with the resolver and the policy under which it selects. -/
structure RibStep where
  resolver : Resolver
  policy : SelectionPolicy
  operation : RibOperation

namespace Rib

/-- Performs an operation and answers its deltas. -/
def perform (resolver : Resolver) (policy : SelectionPolicy) (rib : Rib) :
    RibOperation → List Delta × Rib
  | .insert candidate =>
    let result := rib.insert resolver policy candidate
    ([result.1], result.2)
  | .withdraw destination origin =>
    let result := rib.withdraw resolver policy destination origin
    ([result.1], result.2)
  | .withdrawInstance destination origin inst =>
    let result := rib.withdrawInstance resolver policy destination origin inst
    ([result.1], result.2)
  | .replaceOrigin destination origin candidates =>
    let result := rib.replaceOrigin resolver policy destination origin candidates
    ([result.1], result.2)
  | .refresh => rib.refresh resolver policy
  | .purge => rib.purge

def step (rib : Rib) (step : RibStep) : List Delta × Rib :=
  rib.perform step.resolver step.policy step.operation

/-- Takes some steps and answers all their deltas. -/
def history : List RibStep → Rib → List Delta × Rib
  | [], rib => ([], rib)
  | first :: rest, rib =>
    let (deltas, rib) := rib.step first
    let (later, rib) := history rest rib
    (deltas ++ later, rib)

/-! ### Deltas of a history -/

section Deltas

variable {rib : Rib}

/-- What an operation on one prefix answers, as a list of deltas. -/
theorem Reselects.carryAll {resolver : Resolver} {policy : SelectionPolicy} {destination : Prefix}
    {result : Delta × Rib} (reselects : Reselects resolver policy destination rib result)
    (addressed : ∀ listed, Addressed listed (rib.installed listed)) :
    Delta.CarryAll [result.1] rib.installed result.2.installed ∧
      ∀ listed, Addressed listed (result.2.installed listed) :=
  ⟨Delta.carryAll_singleton (reselects.carries addressed), reselects.addressed addressed⟩

/-- The deltas of a step lead from the installed routes before it to those after it. -/
theorem carryAll_step (addressed : ∀ listed, Addressed listed (rib.installed listed))
    (step : RibStep) :
    Delta.CarryAll (rib.step step).1 rib.installed (rib.step step).2.installed ∧
      ∀ listed, Addressed listed ((rib.step step).2.installed listed) := by
  obtain ⟨resolver, policy, operation⟩ := step
  cases operation with
  | insert candidate => exact (reselects_insert resolver policy rib candidate).carryAll addressed
  | withdraw destination origin =>
    exact (reselects_removeWhere resolver policy rib destination _).carryAll addressed
  | withdrawInstance destination origin inst =>
    exact (reselects_removeWhere resolver policy rib destination _).carryAll addressed
  | replaceOrigin destination origin candidates =>
    exact (reselects_replaceOrigin resolver policy rib destination origin candidates).carryAll
      addressed
  | refresh =>
    exact ⟨carryAll_refresh resolver policy addressed, addressed_refresh resolver policy rib⟩
  | purge => exact ⟨carryAll_purge addressed, addressed_none⟩

theorem carryAll_history (addressed : ∀ listed, Addressed listed (rib.installed listed))
    (steps : List RibStep) :
    Delta.CarryAll (rib.history steps).1 rib.installed (rib.history steps).2.installed := by
  induction steps generalizing rib with
  | nil => rfl
  | cons first rest inductionHypothesis =>
    obtain ⟨carries, stillAddressed⟩ := carryAll_step addressed first
    exact Delta.carryAll_append carries (inductionHypothesis stillAddressed)

end Deltas

end Rib

/-! ### Where candidates are listed -/

/-- The candidates of a prefix are listed under their keys. -/
def CandidatesOf (destination : Prefix) (candidates : SortedMap CandidateKey Candidate) : Prop :=
  ∀ key candidate, candidates.find? key = some candidate →
    candidate.destination = destination ∧ candidate.key = key

/-- The candidates for a prefix as a table keeps them: there is one, and each is listed under its
own prefix and key. -/
structure CandidateSet.IsFiled (destination : Prefix) (set : CandidateSet) : Prop where
  nonempty : ∃ key candidate, set.candidates.find? key = some candidate
  candidatesOf : CandidatesOf destination set.candidates

section Candidates

variable {destination : Prefix} {candidates : SortedMap CandidateKey Candidate}

theorem candidatesOf_insert (listed : CandidatesOf destination candidates) {candidate : Candidate}
    (own : candidate.destination = destination) :
    CandidatesOf destination (candidates.insert candidate.key candidate) := by
  intro key found isFound
  rw [SortedMap.find?_insert] at isFound
  split at isFound
  next same =>
    cases isFound
    exact ⟨own, same⟩
  next => exact listed key found isFound

theorem candidatesOf_filter (listed : CandidatesOf destination candidates)
    (accepts : CandidateKey → Candidate → Bool) :
    CandidatesOf destination (candidates.filter accepts) := by
  intro key candidate isFound
  rw [SortedMap.find?_filter] at isFound
  exact listed key candidate (Option.filter_eq_some_iff.1 isFound).1

theorem candidatesOf_foldl_insert (listed : CandidatesOf destination candidates)
    {added : List Candidate} (own : ∀ candidate ∈ added, candidate.destination = destination) :
    CandidatesOf destination
      (added.foldl (fun map candidate => map.insert candidate.key candidate) candidates) :=
  List.foldlRecOn (motive := CandidatesOf destination) added _ listed
    fun _ inserted candidate member => candidatesOf_insert inserted (own candidate member)

/-- A map is not empty once something has been added. -/
theorem exists_find?_foldl_insert {added : List Candidate} (nonempty : added ≠ [])
    (candidates : SortedMap CandidateKey Candidate) :
    ∃ key candidate, (added.foldl (fun map candidate => map.insert candidate.key candidate)
      candidates).find? key = some candidate := by
  rw [← List.dropLast_concat_getLast nonempty, List.foldl_append]
  refine ⟨(added.getLast nonempty).key, added.getLast nonempty, ?_⟩
  rw [List.foldl_cons, List.foldl_nil, SortedMap.find?_insert, if_pos rfl]

end Candidates

namespace CandidateSet

/-- Selection keeps what is listed, and where. -/
theorem isFiled_select (resolver : Resolver) (policy : SelectionPolicy) {destination : Prefix}
    {set : CandidateSet} (isFiled : set.IsFiled destination) :
    (set.select resolver policy destination).2.IsFiled destination := by
  refine ⟨?_, fun key candidate found => ?_⟩
  · obtain ⟨key, candidate, found⟩ := isFiled.nonempty
    exact ⟨key, _, by rw [find?_select, found, Option.map_some]⟩
  · rw [find?_select] at found
    obtain ⟨before, foundBefore, rfl⟩ := Option.map_eq_some_iff.1 found
    exact isFiled.candidatesOf key before foundBefore

end CandidateSet

namespace Rib

/-- Every prefix of the table has candidates, and each is listed under its own prefix and key. -/
def IsFiled (rib : Rib) : Prop :=
  ∀ destination set, rib.find? destination = some set → set.IsFiled destination

theorem isFiled_empty (family : Family) : (empty family).IsFiled :=
  fun _ _ found => nomatch found

section Filed

variable {rib : Rib} (isFiled : rib.IsFiled) (resolver : Resolver) (policy : SelectionPolicy)
variable (destination : Prefix)
include isFiled

theorem IsFiled.candidatesOf_setAt :
    CandidatesOf destination (rib.setAt destination).candidates := by
  rw [setAt]
  cases found : rib.find? destination with
  | none =>
    intro key candidate listed
    cases listed
  | some set => exact (isFiled destination set found).candidatesOf

theorem IsFiled.reselect {candidates : SortedMap CandidateKey Candidate}
    (nonempty : ∃ key candidate, candidates.find? key = some candidate)
    (listed : CandidatesOf destination candidates) :
    (rib.reselect resolver policy destination candidates).2.IsFiled := by
  intro other set found
  simp only [Rib.reselect, find?, SortedMap.find?_insert] at found
  split at found
  next same =>
    cases found
    exact same ▸ CandidateSet.isFiled_select resolver policy ⟨nonempty, listed⟩
  next => exact isFiled other set found

theorem IsFiled.insert (candidate : Candidate) :
    (rib.insert resolver policy candidate).2.IsFiled := by
  refine isFiled.reselect resolver policy candidate.destination ⟨candidate.key, candidate, ?_⟩
    (candidatesOf_insert (isFiled.candidatesOf_setAt candidate.destination) rfl)
  rw [SortedMap.find?_insert, if_pos rfl]

theorem IsFiled.removeWhere (picks : CandidateKey → Bool) :
    (rib.removeWhere resolver policy destination picks).2.IsFiled := by
  unfold Rib.removeWhere
  split
  next => exact isFiled
  next set found =>
    dsimp only
    split
    next => exact isFiled
    next =>
      split
      next =>
        intro other kept keptFound
        simp only [find?, SortedMap.find?_erase] at keptFound
        split at keptFound
        next => cases keptFound
        next => exact isFiled other kept keptFound
      next isFull =>
        exact isFiled.reselect resolver policy destination
          (SortedMap.exists_find?_of_isEmpty_eq_false (Bool.eq_false_iff.2 isFull))
          (candidatesOf_filter (isFiled destination set found).candidatesOf _)

theorem IsFiled.replaceOrigin (origin : Origin) (candidates : List Candidate) :
    (rib.replaceOrigin resolver policy destination origin candidates).2.IsFiled := by
  unfold Rib.replaceOrigin
  dsimp only
  split
  next => exact isFiled.removeWhere resolver policy destination _
  next isFull =>
    have own : ∀ candidate ∈ candidates.filter fun candidate =>
        candidate.origin = origin && candidate.destination = destination,
        candidate.destination = destination := by
      intro candidate member
      have accepted := (List.mem_filter.1 member).2
      rw [Bool.and_eq_true] at accepted
      exact of_decide_eq_true accepted.2
    refine isFiled.reselect resolver policy destination ?_
      (candidatesOf_foldl_insert (candidatesOf_filter (isFiled.candidatesOf_setAt destination) _)
        own)
    exact exists_find?_foldl_insert (fun none => isFull (List.isEmpty_iff.2 none)) _

theorem IsFiled.refresh : (rib.refresh resolver policy).2.IsFiled := by
  intro destination set found
  rw [find?_refresh] at found
  obtain ⟨before, foundBefore, rfl⟩ := Option.map_eq_some_iff.1 found
  exact CandidateSet.isFiled_select resolver policy (isFiled destination before foundBefore)

/-- A step keeps every candidate at its place. -/
theorem IsFiled.step (step : RibStep) : (rib.step step).2.IsFiled := by
  obtain ⟨resolver, policy, operation⟩ := step
  cases operation with
  | insert candidate => exact isFiled.insert resolver policy candidate
  | withdraw destination origin => exact isFiled.removeWhere resolver policy destination _
  | withdrawInstance destination origin inst =>
    exact isFiled.removeWhere resolver policy destination _
  | replaceOrigin destination origin candidates =>
    exact isFiled.replaceOrigin resolver policy destination origin candidates
  | refresh => exact isFiled.refresh resolver policy
  | purge => exact isFiled_empty rib.family

theorem IsFiled.history (steps : List RibStep) : (rib.history steps).2.IsFiled := by
  induction steps generalizing rib with
  | nil => exact isFiled
  | cons first rest inductionHypothesis => exact inductionHypothesis (isFiled.step first)

end Filed

/-! ### Replaying a history -/

/-- From an empty table, whatever is done to it: the deltas answered so far replay on no routes
and give the installed routes, and the table is filed. As this holds of every list of steps, it
holds after each step of a longer one. -/
theorem replayAll?_history (family : Family) (steps : List RibStep) :
    ∃ routes, Delta.replayAll? ((empty family).history steps).1 SortedMap.empty = some routes ∧
      routes.find? = ((empty family).history steps).2.installed ∧
        ((empty family).history steps).2.IsFiled := by
  have carries := carryAll_history (isProper_empty family).addressed steps
  have listsNone : SortedMap.empty.find? = (empty family).installed := rfl
  obtain ⟨routes, replays, lists⟩ := carries.exists_replayAll? listsNone
  exact ⟨routes, replays, lists, (isFiled_empty family).history steps⟩

end Rib

end ControlPlane
