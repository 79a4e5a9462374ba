/-
This file proves what operations do to a table of candidates. An operation on one
prefix keeps its candidates as they are, forgets the prefix, or selects among new
candidates, and it answers the transition between the installed routes. A refresh
selects anew for every prefix. Both keep a table settled, which means that
selecting again would change nothing, and both answer the deltas that lead from
the installed routes before to those after.
-/

import ControlPlane.Proofs.Selection
import ControlPlane.Proofs.SortedMap
import ControlPlane.Rib

namespace ControlPlane

namespace Rib

/-- The installed routes of a table. -/
def installed (rib : Rib) : RouteMap :=
  fun destination => (rib.find? destination).bind CandidateSet.installed

/-- The table only lists prefixes of a family, and every installed route under its own prefix. -/
structure IsProper (family : Family) (rib : Rib) : Prop where
  family_eq : ∀ destination set, rib.find? destination = some set → destination.family = family
  addressed : ∀ destination, Addressed destination (rib.installed destination)

/-- No prefix of the table would be selected anew. -/
def IsSettled (resolver : Resolver) (policy : SelectionPolicy) (rib : Rib) : Prop :=
  ∀ destination set, rib.find? destination = some set →
    set.IsSettled resolver policy destination

theorem isProper_empty (family : Family) : (empty family).IsProper family where
  family_eq _ _ found := nomatch found
  addressed destination := addressed_none destination

theorem installed_of_find? {rib : Rib} {destination : Prefix} {set : CandidateSet}
    (found : rib.find? destination = some set) : rib.installed destination = set.installed := by
  rw [installed, found, Option.bind_some]

theorem installed_setAt (rib : Rib) (destination : Prefix) :
    (rib.setAt destination).installed = rib.installed destination := by
  rw [setAt, installed]
  cases rib.find? destination with
  | none => rfl
  | some set => rfl

/-! ### Operations on one prefix -/

/-- What an operation on one prefix does to a table: it answers the transition of the prefix,
keeps all other prefixes, and leaves the prefix with the candidates it had, with selected ones or
with none. -/
structure Reselects (resolver : Resolver) (policy : SelectionPolicy) (destination : Prefix)
    (rib : Rib) (result : Delta × Rib) : Prop where
  delta_eq : result.1 =
    .transition destination (rib.installed destination) (result.2.installed destination)
  others : ∀ other, destination ≠ other → result.2.find? other = rib.find? other
  here : ∀ set, result.2.find? destination = some set →
    rib.find? destination = some set ∨
      ∃ changed, set = (CandidateSet.select resolver policy destination changed).2

variable (resolver : Resolver) (policy : SelectionPolicy) (rib : Rib) (destination : Prefix)

theorem reselects_unchanged :
    Reselects resolver policy destination rib (.unchanged destination, rib) where
  delta_eq := (Delta.transition_self destination _).symm
  others _ _ := rfl
  here _ found := Or.inl found

theorem reselects_erase {set : CandidateSet} (found : rib.find? destination = some set) :
    Reselects resolver policy destination rib
      (.transition destination set.installed none,
        { rib with sets := rib.sets.erase destination }) := by
  have absent : (rib.sets.erase destination).find? destination = none := by
    rw [SortedMap.find?_erase, if_pos rfl]
  refine ⟨?_, fun other elsewhere => ?_, fun kept keptFound => ?_⟩
  · rw [installed_of_find? found]
    simp only [installed, find?, absent, Option.bind_none]
  · simp only [find?, SortedMap.find?_erase, if_neg elsewhere]
  · rw [find?, absent] at keptFound
    cases keptFound

theorem reselects_reselect (candidates : SortedMap CandidateKey Candidate) :
    Reselects resolver policy destination rib
      (rib.reselect resolver policy destination candidates) := by
  have selected : (rib.reselect resolver policy destination candidates).2.find? destination =
      some (({ rib.setAt destination with candidates } : CandidateSet).select resolver policy
        destination).2 := by
    simp only [reselect, find?, SortedMap.find?_insert, if_true]
  refine ⟨?_, fun other elsewhere => ?_, fun set found => ?_⟩
  · rw [installed_of_find? selected, ← installed_setAt]
    exact CandidateSet.select_fst resolver policy destination _
  · simp only [reselect, find?, SortedMap.find?_insert, if_neg elsewhere]
  · rw [selected] at found
    exact Or.inr ⟨_, (Option.some.inj found).symm⟩

theorem reselects_insert (candidate : Candidate) :
    Reselects resolver policy candidate.destination rib (rib.insert resolver policy candidate) :=
  reselects_reselect resolver policy rib candidate.destination _

theorem reselects_removeWhere (picks : CandidateKey → Bool) :
    Reselects resolver policy destination rib
      (rib.removeWhere resolver policy destination picks) := by
  unfold removeWhere
  split
  next => exact reselects_unchanged resolver policy rib destination
  next set found =>
    dsimp only
    split
    · exact reselects_unchanged resolver policy rib destination
    · split
      · exact reselects_erase resolver policy rib destination found
      · exact reselects_reselect resolver policy rib destination _

theorem reselects_replaceOrigin (origin : Origin) (candidates : List Candidate) :
    Reselects resolver policy destination rib
      (rib.replaceOrigin resolver policy destination origin candidates) := by
  unfold replaceOrigin
  dsimp only
  split
  · exact reselects_removeWhere resolver policy rib destination _
  · exact reselects_reselect resolver policy rib destination _

section Reselects

variable {resolver policy rib destination} {result : Delta × Rib}

theorem Reselects.installed_others (reselects : Reselects resolver policy destination rib result)
    {other : Prefix} (elsewhere : destination ≠ other) :
    result.2.installed other = rib.installed other := by
  rw [installed, installed, reselects.others other elsewhere]

/-- What is installed for the prefix was installed before, or it is the best route of some
candidates. -/
theorem Reselects.installed_cases (reselects : Reselects resolver policy destination rib result)
    {route : ForwardingRoute} (isInstalled : result.2.installed destination = some route) :
    rib.installed destination = some route ∨
      ∃ changed, IsBestRoute resolver policy destination changed route := by
  obtain ⟨set, found, ofSet⟩ := Option.bind_eq_some_iff.1 isInstalled
  rcases reselects.here set found with kept | ⟨changed, rfl⟩
  · exact Or.inl ((installed_of_find? kept).trans ofSet)
  · exact Or.inr ⟨changed, CandidateSet.isBestRoute_of_select ofSet⟩

/-- The installed routes stay under their own prefixes. -/
theorem Reselects.addressed (reselects : Reselects resolver policy destination rib result)
    (addressed : ∀ listed, Addressed listed (rib.installed listed)) (listed : Prefix) :
    Addressed listed (result.2.installed listed) := by
  by_cases same : destination = listed
  · subst same
    intro route isInstalled
    rcases reselects.installed_cases isInstalled with kept | ⟨_, isBest⟩
    · exact addressed destination route kept
    · exact isBest.destination_eq
  · rw [reselects.installed_others same]
    exact addressed listed

theorem Reselects.isProper (reselects : Reselects resolver policy destination rib result)
    (isProper : rib.IsProper destination.family) : result.2.IsProper destination.family := by
  refine ⟨fun listed set found => ?_, reselects.addressed isProper.addressed⟩
  by_cases same : destination = listed
  · rw [same]
  · rw [reselects.others listed same] at found
    exact isProper.family_eq listed set found

theorem Reselects.isSettled (reselects : Reselects resolver policy destination rib result)
    (isSettled : rib.IsSettled resolver policy) : result.2.IsSettled resolver policy := by
  intro listed set found
  by_cases same : destination = listed
  · subst same
    rcases reselects.here set found with kept | ⟨changed, rfl⟩
    · exact isSettled destination set kept
    · exact CandidateSet.isSettled_select resolver policy destination changed
  · rw [reselects.others listed same] at found
    exact isSettled listed set found

/-- The delta belongs to the prefix and leads to the routes after the operation. -/
theorem Reselects.carries (reselects : Reselects resolver policy destination rib result)
    (addressed : ∀ listed, Addressed listed (rib.installed listed)) :
    result.1.Carries rib.installed result.2.installed := by
  rw [reselects.delta_eq]
  exact Delta.carries_transition (addressed destination) (reselects.addressed addressed destination)
    fun other elsewhere => reselects.installed_others elsewhere

end Reselects

/-! ### Refreshing -/

theorem find?_refresh :
    (rib.refresh resolver policy).2.find? destination =
      (rib.find? destination).map fun set => (set.select resolver policy destination).2 := by
  simp only [refresh, find?, SortedMap.find?_map, Option.map_map, Function.comp_def]

theorem isSettled_refresh : (rib.refresh resolver policy).2.IsSettled resolver policy := by
  intro destination set found
  rw [find?_refresh] at found
  obtain ⟨before, _, rfl⟩ := Option.map_eq_some_iff.1 found
  exact CandidateSet.isSettled_select resolver policy destination before

variable {resolver policy rib destination} in
/-- After a refresh, the best route of the candidates is installed. -/
theorem exists_isBestRoute_of_refresh {route : ForwardingRoute}
    (isInstalled : (rib.refresh resolver policy).2.installed destination = some route) :
    ∃ set, IsBestRoute resolver policy destination set route := by
  obtain ⟨set, found, ofSet⟩ := Option.bind_eq_some_iff.1 isInstalled
  rw [find?_refresh] at found
  obtain ⟨before, _, rfl⟩ := Option.map_eq_some_iff.1 found
  exact ⟨before, CandidateSet.isBestRoute_of_select ofSet⟩

theorem addressed_refresh :
    Addressed destination ((rib.refresh resolver policy).2.installed destination) := by
  intro route isInstalled
  obtain ⟨_, isBest⟩ := exists_isBestRoute_of_refresh isInstalled
  exact isBest.destination_eq

variable {rib} {family : Family}

theorem isProper_refresh (isProper : rib.IsProper family) :
    (rib.refresh resolver policy).2.IsProper family := by
  refine ⟨fun destination set found => ?_, addressed_refresh resolver policy rib⟩
  rw [find?_refresh] at found
  obtain ⟨before, foundBefore, _⟩ := Option.map_eq_some_iff.1 found
  exact isProper.family_eq destination before foundBefore

/-- A refresh answers the transitions of the prefixes whose route changed. -/
theorem refresh_fst :
    (rib.refresh resolver policy).1 = (rib.sets.keys.map fun destination =>
      Delta.transition destination (rib.installed destination)
        ((rib.refresh resolver policy).2.installed destination)).filter (!·.isUnchanged) := by
  have deltas : (rib.refresh resolver policy).1 =
      ((rib.sets.entries.map fun entry =>
        (entry.2.select resolver policy entry.1).1)).filter (!·.isUnchanged) := by
    simp only [refresh, SortedMap.values_map, List.map_map, Function.comp_def]
  rw [deltas, SortedMap.keys, List.map_map]
  congr 1
  refine List.map_congr_left fun entry member => ?_
  have found : rib.find? entry.1 = some entry.2 := SortedMap.find?_eq_some_iff.2 member
  have refreshed := find?_refresh resolver policy rib entry.1
  rw [found, Option.map_some] at refreshed
  rw [Function.comp_apply, installed_of_find? found, installed_of_find? refreshed]
  exact CandidateSet.select_fst resolver policy entry.1 entry.2

theorem carryAll_refresh (addressed : ∀ destination, Addressed destination
      (rib.installed destination)) :
    Delta.CarryAll (rib.refresh resolver policy).1 rib.installed
      (rib.refresh resolver policy).2.installed := by
  rw [refresh_fst]
  refine Delta.carryAll_transitions (addressed_refresh resolver policy rib)
    rib.sets.nodup_keys addressed fun destination absent => ?_
  have missing : rib.find? destination = none := SortedMap.find?_eq_none_of_notMem absent
  rw [installed, installed, find?_refresh, missing, Option.map_none]

/-- A settled table has no installed route where nothing resolves. -/
theorem IsSettled.installed_eq_none {policy : SelectionPolicy} {rib : Rib}
    (isSettled : rib.IsSettled (fun _ => none) policy) (destination : Prefix) :
    rib.installed destination = none := by
  refine Option.bind_eq_none_iff.2 fun set found => ?_
  rw [← congrArg (fun selection => selection.2.installed) (isSettled destination set found)]
  refine CandidateSet.installed_select_eq_none_iff.2 fun candidate _ reachable => ?_
  obtain ⟨hop, _, resolved⟩ := reachable
  cases resolved

/-! ### Removing everything -/

variable (rib)

/-- To remove all candidates answers the removals of the installed routes. -/
theorem purge_fst :
    rib.purge.1 = (rib.sets.keys.map fun destination =>
      Delta.transition destination (rib.installed destination) none).filter (!·.isUnchanged) := by
  have removals : ∀ entries : List (Prefix × CandidateSet),
      (entries.filterMap fun entry => entry.2.installed.map Delta.remove) =
        (entries.map fun entry =>
          Delta.transition entry.1 entry.2.installed none).filter (!·.isUnchanged) := by
    intro entries
    induction entries with
    | nil => rfl
    | cons entry rest inductionHypothesis =>
      rw [List.filterMap_cons, List.map_cons, List.filter_cons, inductionHypothesis]
      cases entry.2.installed <;> rfl
  have answered : rib.purge.1 =
      rib.sets.entries.filterMap fun entry => entry.2.installed.map Delta.remove := by
    rw [purge, SortedMap.values, List.filterMap_map]
    rfl
  rw [answered, removals, SortedMap.keys, List.map_map]
  congr 1
  refine List.map_congr_left fun entry member => ?_
  have found : rib.find? entry.1 = some entry.2 := SortedMap.find?_eq_some_iff.2 member
  rw [Function.comp_apply, installed_of_find? found]

variable {rib}

/-- To remove all candidates of a table that has no installed route answers nothing. -/
theorem purge_fst_eq_nil (nothing : ∀ destination, rib.installed destination = none) :
    rib.purge.1 = [] := by
  rw [purge_fst, List.filter_eq_nil_iff, List.forall_mem_map]
  intro destination _
  rw [nothing]
  exact Bool.false_ne_true

theorem carryAll_purge (addressed : ∀ destination, Addressed destination
      (rib.installed destination)) :
    Delta.CarryAll rib.purge.1 rib.installed rib.purge.2.installed := by
  rw [purge_fst]
  refine Delta.carryAll_transitions addressed_none
    rib.sets.nodup_keys addressed fun destination absent => ?_
  have missing : rib.find? destination = none := SortedMap.find?_eq_none_of_notMem absent
  show none = rib.installed destination
  rw [installed, missing, Option.bind_none]

end Rib

end ControlPlane
