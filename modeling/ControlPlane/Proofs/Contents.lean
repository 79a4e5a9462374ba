/-
This file looks at a table of candidates without what selection wrote into it.
What is left are its contents: which candidates are listed under which prefixes
and keys, and through which next hops. The contents decide all the rest, since
selection reads nothing else, and a settled table is what selection makes of its
contents. The second half says what every operation does to the contents, prefix
by prefix and key by key.
-/

import ControlPlane.Proofs.Rib

namespace ControlPlane

/-! ### What selection writes -/

/-- The next hop before it was resolved. -/
def Hop.erased (hop : Hop) : Hop :=
  .unresolved hop.nextHop

/-- The candidate before its next hops were resolved and before it was marked. -/
def Candidate.erased (candidate : Candidate) : Candidate :=
  { candidate with selected := false, hops := candidate.hops.map Hop.erased }

namespace Candidate

variable (candidate : Candidate)

@[simp]
theorem key_erased : candidate.erased.key = candidate.key :=
  rfl

@[simp]
theorem erased_refresh (resolver : Resolver) :
    (candidate.refresh resolver).erased = candidate.erased := by
  simp [erased, refresh, Hop.erased, Hop.refresh, Function.comp_def]

/-- To resolve next hops it does not matter what they were resolved to before. -/
@[simp]
theorem refresh_erased (resolver : Resolver) :
    candidate.erased.refresh resolver = candidate.refresh resolver := by
  simp [erased, refresh, Hop.erased, Hop.refresh, Hop.unresolved, Function.comp_def]

end Candidate

namespace CandidateSet

/-- The candidates for a prefix without what selection wrote into them. -/
def contents (set : CandidateSet) : SortedMap CandidateKey Candidate :=
  set.candidates.map fun _ candidate => candidate.erased

theorem find?_contents (set : CandidateSet) (key : CandidateKey) :
    set.contents.find? key = (set.candidates.find? key).map Candidate.erased :=
  SortedMap.find?_map _ _ _

/-- Selection keeps the contents. -/
theorem contents_select (resolver : Resolver) (policy : SelectionPolicy) (destination : Prefix)
    (set : CandidateSet) : (set.select resolver policy destination).2.contents = set.contents := by
  refine SortedMap.ext_find? fun key => ?_
  rw [find?_contents, find?_contents, find?_select, Option.map_map]
  refine Option.map_congr fun candidate _ => ?_
  exact candidate.erased_refresh resolver

/-- Refreshed candidates are the refreshed contents. -/
theorem refreshed_eq (resolver : Resolver) (set : CandidateSet) :
    set.refreshed resolver = set.contents.map fun _ candidate => candidate.refresh resolver := by
  refine SortedMap.ext_find? fun key => ?_
  rw [refreshed, SortedMap.find?_map, SortedMap.find?_map, find?_contents, Option.map_map]
  refine Option.map_congr fun candidate _ => ?_
  exact (candidate.refresh_erased resolver).symm

/-- Selection reads nothing but the contents. -/
theorem select_snd_of_contents {first second : CandidateSet}
    (same : first.contents = second.contents) (resolver : Resolver) (policy : SelectionPolicy)
    (destination : Prefix) :
    (first.select resolver policy destination).2 =
      (second.select resolver policy destination).2 := by
  refine select_snd_congr ?_ policy destination
  rw [refreshed_eq, refreshed_eq, same]

end CandidateSet

namespace Rib

variable (resolver : Resolver) (policy : SelectionPolicy)

/-- The candidates of a table by prefix and key, without what selection wrote into them. -/
def contents (rib : Rib) : SortedMap Prefix (SortedMap CandidateKey Candidate) :=
  rib.sets.map fun _ set => set.contents

theorem find?_contents (rib : Rib) (destination : Prefix) :
    rib.contents.find? destination = (rib.find? destination).map CandidateSet.contents :=
  SortedMap.find?_map _ _ _

theorem contents_refresh (rib : Rib) :
    (rib.refresh resolver policy).2.contents = rib.contents := by
  refine SortedMap.ext_find? fun destination => ?_
  rw [find?_contents, find?_contents, find?_refresh, Option.map_map]
  refine Option.map_congr fun set _ => ?_
  exact set.contents_select resolver policy destination

/-- A refresh makes the same of a prefix in all tables that have the same contents there. -/
theorem find?_refresh_congr {first second : Rib} {destination : Prefix}
    (same : first.contents.find? destination = second.contents.find? destination) :
    (first.refresh resolver policy).2.find? destination =
      (second.refresh resolver policy).2.find? destination := by
  rw [find?_contents, find?_contents] at same
  rw [find?_refresh, find?_refresh]
  cases inFirst : first.find? destination with
  | none =>
    rw [inFirst, Option.map_none, eq_comm, Option.map_eq_none_iff] at same
    rw [same]
  | some set =>
    rw [inFirst, Option.map_some, eq_comm, Option.map_eq_some_iff] at same
    obtain ⟨other, inSecond, sameContents⟩ := same
    rw [inSecond, Option.map_some, Option.map_some]
    exact congrArg some (CandidateSet.select_snd_of_contents sameContents.symm _ _ _)

theorem ext_find? {first second : Rib} (sameFamily : first.family = second.family)
    (alike : ∀ destination, first.find? destination = second.find? destination) :
    first = second := by
  obtain ⟨family, sets⟩ := first
  obtain ⟨family', sets'⟩ := second
  have sameSets : sets = sets' := SortedMap.ext_find? alike
  cases sameFamily
  rw [sameSets]

/-- A refresh reads nothing but the contents of a table. -/
theorem refresh_snd_congr {first second : Rib} (sameFamily : first.family = second.family)
    (same : first.contents = second.contents) :
    (first.refresh resolver policy).2 = (second.refresh resolver policy).2 := by
  refine ext_find? sameFamily fun destination => ?_
  exact find?_refresh_congr resolver policy (congrArg (SortedMap.find? · destination) same)

variable {resolver policy}

/-- A refresh keeps a settled table as it is. -/
theorem IsSettled.refresh_snd {rib : Rib} (isSettled : rib.IsSettled resolver policy) :
    (rib.refresh resolver policy).2 = rib := by
  refine ext_find? rfl fun destination => ?_
  rw [find?_refresh]
  cases found : rib.find? destination with
  | none => rfl
  | some set =>
    rw [Option.map_some, isSettled destination set found]

/-- Settled tables agree wherever they have the same contents. -/
theorem IsSettled.find?_congr {first second : Rib} (firstSettled : first.IsSettled resolver policy)
    (secondSettled : second.IsSettled resolver policy) {destination : Prefix}
    (same : first.contents.find? destination = second.contents.find? destination) :
    first.find? destination = second.find? destination := by
  have refreshed := find?_refresh_congr resolver policy same
  rwa [firstSettled.refresh_snd, secondSettled.refresh_snd] at refreshed

/-- Settled tables with the same contents are equal. -/
theorem IsSettled.eq_of_contents {first second : Rib}
    (firstSettled : first.IsSettled resolver policy)
    (secondSettled : second.IsSettled resolver policy) (sameFamily : first.family = second.family)
    (same : first.contents = second.contents) : first = second :=
  ext_find? sameFamily fun destination =>
    firstSettled.find?_congr secondSettled (congrArg (SortedMap.find? · destination) same)

/-! ### Entries -/

/-- Of the candidates with one key the last one that was added is listed. -/
theorem find?_foldl_insert (added : List Candidate) (candidates : SortedMap CandidateKey Candidate)
    (key : CandidateKey) :
    (added.foldl (fun map candidate => map.insert candidate.key candidate) candidates).find? key =
      ((added.filter fun candidate => candidate.key = key).getLast?).or (candidates.find? key) := by
  induction added generalizing candidates with
  | nil => rfl
  | cons candidate rest inductionHypothesis =>
    rw [List.foldl_cons, inductionHypothesis, SortedMap.find?_insert]
    by_cases own : candidate.key = key
    · simp only [own, if_true, List.filter_cons, decide_true, List.getLast?_cons]
      cases (rest.filter fun candidate => candidate.key = key).getLast? <;> rfl
    · simp only [own, if_false, List.filter_cons, decide_false, Bool.false_eq_true]

/-- The candidate that a table lists under a prefix and a key, without what selection wrote into
it. -/
def entryAt? (rib : Rib) (destination : Prefix) (key : CandidateKey) : Option Candidate :=
  (rib.contents.find? destination).bind fun listed => listed.find? key

theorem entryAt?_eq (rib : Rib) (destination : Prefix) (key : CandidateKey) :
    rib.entryAt? destination key =
      ((rib.setAt destination).candidates.find? key).map Candidate.erased := by
  rw [entryAt?, find?_contents, setAt]
  cases rib.find? destination with
  | none => rfl
  | some set => exact set.find?_contents key

/-- A table lists what lies in the set of the prefix. -/
theorem entryAt?_of_find? {rib : Rib} {destination : Prefix} {set : CandidateSet}
    (found : rib.find? destination = some set) (key : CandidateKey) :
    rib.entryAt? destination key = (set.candidates.find? key).map Candidate.erased := by
  rw [entryAt?_eq, setAt, found, Option.getD_some]

section Operations

variable (resolver : Resolver) (policy : SelectionPolicy) (rib : Rib) (destination : Prefix)

theorem find?_reselect (candidates : SortedMap CandidateKey Candidate) (listed : Prefix) :
    (rib.reselect resolver policy destination candidates).2.find? listed =
      if destination = listed then
        some (({ rib.setAt destination with candidates } : CandidateSet).select resolver policy
          destination).2
      else rib.find? listed :=
  SortedMap.find?_insert rib.sets destination listed _

theorem entryAt?_reselect (candidates : SortedMap CandidateKey Candidate) (listed : Prefix)
    (key : CandidateKey) :
    (rib.reselect resolver policy destination candidates).2.entryAt? listed key =
      if destination = listed then (candidates.find? key).map Candidate.erased
      else rib.entryAt? listed key := by
  have reselected := find?_reselect resolver policy rib destination candidates listed
  split
  next here =>
    rw [if_pos here] at reselected
    rw [entryAt?, find?_contents, reselected, Option.map_some, CandidateSet.contents_select,
      Option.bind_some, CandidateSet.find?_contents]
  next elsewhere =>
    rw [if_neg elsewhere] at reselected
    rw [entryAt?, find?_contents, reselected, ← find?_contents, entryAt?]

/-- A new candidate is listed under its prefix and key. -/
theorem entryAt?_insert (candidate : Candidate) (listed : Prefix) (key : CandidateKey) :
    (rib.insert resolver policy candidate).2.entryAt? listed key =
      if candidate.destination = listed ∧ candidate.key = key then some candidate.erased
      else rib.entryAt? listed key := by
  rw [insert, entryAt?_reselect, SortedMap.find?_insert]
  by_cases here : candidate.destination = listed
  · subst here
    by_cases own : candidate.key = key
    · simp only [own, and_self, if_true, Option.map_some]
    · simp only [own, and_false, if_false, if_true, entryAt?_eq]
  · simp only [here, false_and, if_false]

/-- Candidates that a test picks are listed no longer. -/
theorem entryAt?_removeWhere (picks : CandidateKey → Bool) (listed : Prefix) (key : CandidateKey) :
    (rib.removeWhere resolver policy destination picks).2.entryAt? listed key =
      if destination = listed ∧ picks key = true then none else rib.entryAt? listed key := by
  by_cases here : destination = listed
  · subst here
    simp only [true_and]
    unfold removeWhere
    split
    next missing =>
      have nothing : rib.entryAt? destination key = none := by
        rw [entryAt?, find?_contents, missing]
        rfl
      simp only [nothing, ite_self]
    next set found =>
      have kept : ((set.candidates.filter fun key _ => !picks key).find? key).map
          Candidate.erased = if picks key = true then none else rib.entryAt? destination key := by
        rw [SortedMap.find?_filter, entryAt?_of_find? found]
        cases picks key <;> cases set.candidates.find? key <;> rfl
      rw [← kept]
      dsimp only
      split
      next sameSize =>
        -- as many candidates are kept as there were, so all of them are
        have all : (set.candidates.filter fun key _ => !picks key) = set.candidates :=
          SortedMap.eq_of_entries_eq (List.filter_sublist.eq_of_length sameSize)
        rw [all, entryAt?_of_find? found]
      next =>
        split
        next isEmpty =>
          have none : (set.candidates.filter fun key _ => !picks key).find? key = none :=
            SortedMap.find?_eq_none_of_isEmpty isEmpty key
          rw [none, entryAt?, find?_contents, find?, SortedMap.find?_erase, if_pos rfl]
          rfl
        next => rw [entryAt?_reselect, if_pos rfl]
  · simp only [here, false_and, if_false]
    rw [entryAt?, find?_contents,
      (reselects_removeWhere resolver policy rib destination picks).others listed here,
      ← find?_contents, entryAt?]

/-- The candidates of the origin are exchanged. Of those with one key the last one is listed. -/
theorem entryAt?_replaceOrigin (origin : Origin) (candidates : List Candidate) (listed : Prefix)
    (key : CandidateKey) :
    (rib.replaceOrigin resolver policy destination origin candidates).2.entryAt? listed key =
      if destination = listed ∧ key.1 = origin then
        ((candidates.filter fun candidate =>
          candidate.destination = destination && candidate.key = key).getLast?).map Candidate.erased
      else rib.entryAt? listed key := by
  unfold replaceOrigin
  dsimp only
  have own_of_key : key.1 = origin → (candidates.filter fun candidate =>
      candidate.origin = origin && candidate.destination = destination).filter
        (fun candidate => candidate.key = key) = candidates.filter fun candidate =>
          candidate.destination = destination && candidate.key = key := by
    rintro rfl
    rw [List.filter_filter]
    refine List.filter_congr fun candidate _ => ?_
    simp only [Candidate.key, Prod.ext_iff]
    grind
  have other_of_key : key.1 ≠ origin → (candidates.filter fun candidate =>
      candidate.origin = origin && candidate.destination = destination).filter
        (fun candidate => candidate.key = key) = [] := by
    intro other
    refine List.filter_eq_nil_iff.2 fun candidate member => ?_
    have isOwn := (List.mem_filter.1 member).2
    simp only [Candidate.key, Prod.ext_iff]
    grind
  split
  next isEmpty =>
    rw [List.isEmpty_iff.1 isEmpty, List.filter_nil] at own_of_key
    rw [withdraw, entryAt?_removeWhere]
    by_cases isOrigin : key.1 = origin
    · simp only [isOrigin, and_true, decide_true, ← own_of_key isOrigin, List.getLast?_nil,
        Option.map_none]
    · simp only [isOrigin, and_false, decide_false, Bool.false_eq_true, if_false]
  next =>
    have kept : ((rib.setAt destination).candidates.filter fun key _ => key.1 ≠ origin).find? key =
        if key.1 = origin then none else (rib.setAt destination).candidates.find? key := by
      rw [SortedMap.find?_filter]
      split <;> cases (rib.setAt destination).candidates.find? key <;> simp [*]
    rw [entryAt?_reselect, find?_foldl_insert, kept]
    by_cases here : destination = listed
    · subst here
      by_cases isOrigin : key.1 = origin
      · rw [own_of_key isOrigin, if_pos rfl, if_pos isOrigin, if_pos ⟨rfl, isOrigin⟩,
          Option.or_none]
      · rw [other_of_key isOrigin, if_pos rfl, if_neg isOrigin, if_neg fun both => isOrigin both.2,
          entryAt?_eq, List.getLast?_nil, Option.none_or]
    · rw [if_neg here, if_neg fun both => here both.1]

end Operations

end Rib

end ControlPlane
