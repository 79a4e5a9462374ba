/-
This file proves that selection finds the best path of a prefix. The best path is
declared without the selection: a candidate is reachable if some next hop of it
resolves, the winners are the reachable candidates whose distance and origin are
least, and the route ranks the hops that winners offer. Selection computes it
from any marks that the candidates carry, so a second run under the same resolver
and policy changes nothing.
-/

import ControlPlane.Proofs.Delta
import ControlPlane.Proofs.Ranking

namespace ControlPlane

/-! ### The best path -/

namespace Candidate

/-- Some next hop of the candidate resolves. -/
def IsReachable (resolver : Resolver) (candidate : Candidate) : Prop :=
  ∃ hop ∈ candidate.hops, (resolver hop.nextHop).isSome

instance (resolver : Resolver) (candidate : Candidate) :
    Decidable (candidate.IsReachable resolver) :=
  inferInstanceAs (Decidable (∃ _ ∈ _, _))

/-- The lexicographic order of distance and origin. -/
def NotWorse (first second : Candidate) : Prop :=
  first.distance < second.distance ∨
    first.distance = second.distance ∧ first.origin.rank ≤ second.origin.rank

instance (first second : Candidate) : Decidable (first.NotWorse second) :=
  inferInstanceAs (Decidable (_ ∨ _))

/-- A next hop of the candidate resolves to the forwarding hop. -/
def Offers (resolver : Resolver) (candidate : Candidate) (hop : ForwardingHop) : Prop :=
  ∃ listed ∈ candidate.hops, ∃ egress, resolver listed.nextHop = some egress ∧
    hop = ⟨listed.nextHop.gateway?, egress.name, egress.index⟩

end Candidate

namespace CandidateSet

/-- A reachable candidate that no reachable candidate is better than. -/
def IsWinner (resolver : Resolver) (set : CandidateSet) (candidate : Candidate) : Prop :=
  candidate ∈ set.list ∧ candidate.IsReachable resolver ∧
    ∀ other ∈ set.list, other.IsReachable resolver → candidate.NotWorse other

instance (resolver : Resolver) (set : CandidateSet) (candidate : Candidate) :
    Decidable (set.IsWinner resolver candidate) :=
  inferInstanceAs (Decidable (_ ∧ _ ∧ _))

/-- Some winner of the metric offers the hop. -/
def IsOffered (resolver : Resolver) (set : CandidateSet) (metric : UInt32) (hop : ForwardingHop) :
    Prop :=
  ∃ winner, set.IsWinner resolver winner ∧ winner.metric = metric ∧ winner.Offers resolver hop

end CandidateSet

namespace SelectionPolicy

/-- The limits that apply to the routes of an origin. -/
def limits (policy : SelectionPolicy) (origin : Origin) : List Nat :=
  policy.maxPaths.toList.map UInt16.toNat ++
    if origin = .bgp then policy.bgpMaxPaths.toList.map UInt16.toNat else []

/-- The first ones of a ranking, as many as the lowest limit leaves. -/
def keep {Item : Type} (policy : SelectionPolicy) (origin : Origin) (ranked : List Item) :
    List Item :=
  match (policy.limits origin).min? with
  | some limit => ranked.take limit
  | none => ranked

/-- No limit takes all paths away. -/
structure IsOpen (policy : SelectionPolicy) : Prop where
  maxPaths : policy.maxPaths ≠ some 0
  bgpMaxPaths : policy.bgpMaxPaths ≠ some 0

end SelectionPolicy

/-- The declared route of a prefix: it has the distance and origin of the winners and the best
ranked of the hops they offer. Its metric is that of its first hop, which is the lowest metric of
a winner unless the limit leaves no hop. -/
structure IsBestRoute (resolver : Resolver) (policy : SelectionPolicy) (destination : Prefix)
    (set : CandidateSet) (route : ForwardingRoute) : Prop where
  destination_eq : route.destination = destination
  exists_winner : ∃ winner, set.IsWinner resolver winner
  preference_eq : ∀ winner, set.IsWinner resolver winner →
    route.distance = winner.distance ∧ route.origin = winner.origin
  hops_eq : ∃ ranked, IsRanking (set.IsOffered resolver) ranked ∧
    route.hops = (policy.keep route.origin ranked).map Prod.snd ∧
    route.metric = ((policy.keep route.origin ranked).head?.map Prod.fst).getD unreachableMetric
  hops_nodup : route.hops.Nodup
  metric_least : (policy.limits route.origin).min? ≠ some 0 →
    (∃ winner, set.IsWinner resolver winner ∧ winner.metric = route.metric) ∧
      ∀ winner, set.IsWinner resolver winner → route.metric ≤ winner.metric

/-- What selection has to make of the candidates for a prefix: exactly the winners are marked,
every next hop is resolved anew, and the best route is installed if a candidate is reachable. -/
structure IsBestPath (resolver : Resolver) (policy : SelectionPolicy) (destination : Prefix)
    (set selected : CandidateSet) : Prop where
  candidates_eq : ∀ key, selected.candidates.find? key =
    (set.candidates.find? key).map fun candidate =>
      { candidate with
        selected := set.IsWinner resolver candidate
        hops := candidate.hops.map (Hop.refresh resolver) }
  installed_eq_none_iff : selected.installed = none ↔
    ∀ candidate ∈ set.list, ¬ candidate.IsReachable resolver
  installed_best : ∀ route, selected.installed = some route →
    IsBestRoute resolver policy destination set route

/-! ### Preference -/

theorem Origin.rank_lt (origin : Origin) : origin.rank < 4 := by
  cases origin <;> decide

namespace Candidate

theorem preference_le_iff {first second : Candidate} :
    first.preference ≤ second.preference ↔ first.NotWorse second := by
  have firstRank := first.origin.rank_lt
  have secondRank := second.origin.rank_lt
  rw [NotWorse, preference, preference, UInt8.lt_iff_toNat_lt, ← UInt8.toNat_inj]
  omega

/-- Equal preference means equal distance and equal origin. -/
theorem eq_of_preference_eq {first second : Candidate}
    (same : first.preference = second.preference) :
    first.distance = second.distance ∧ first.origin = second.origin := by
  have firstRank := first.origin.rank_lt
  have secondRank := second.origin.rank_lt
  rw [preference, preference] at same
  exact ⟨UInt8.toNat_inj.1 (by omega), Origin.rank_injective (by omega)⟩

@[simp]
theorem preference_refresh (resolver : Resolver) (candidate : Candidate) :
    (candidate.refresh resolver).preference = candidate.preference :=
  rfl

@[simp]
theorem refresh_refresh (resolver : Resolver) (candidate : Candidate) :
    (candidate.refresh resolver).refresh resolver = candidate.refresh resolver := by
  simp [refresh, Hop.refresh, Function.comp_def]

theorem isEligible_refresh (resolver : Resolver) (candidate : Candidate) :
    (candidate.refresh resolver).isEligible = true ↔ candidate.IsReachable resolver := by
  simp [isEligible, refresh, IsReachable, Hop.refresh, Function.comp_def]

end Candidate

theorem preferredCandidate?_eq_none_iff {candidates : List Candidate} :
    preferredCandidate? candidates = none ↔ candidates = [] := by
  cases candidates with
  | nil => exact ⟨fun _ => rfl, fun _ => rfl⟩
  | cons candidate rest =>
    simp only [preferredCandidate?]
    split <;> simp
    split <;> simp

/-- The preferred candidate is one of the candidates, and none of them is preferred to it. -/
theorem preferredCandidate?_eq_some {candidates : List Candidate} {best : Candidate}
    (found : preferredCandidate? candidates = some best) :
    best ∈ candidates ∧ ∀ other ∈ candidates, best.preference ≤ other.preference := by
  induction candidates generalizing best with
  | nil => cases found
  | cons candidate rest inductionHypothesis =>
    simp only [preferredCandidate?] at found
    cases later : preferredCandidate? rest with
    | none =>
      simp only [later, Option.some.injEq] at found
      subst found
      simp [preferredCandidate?_eq_none_iff.1 later]
    | some bestLater =>
      obtain ⟨member, least⟩ := inductionHypothesis later
      simp only [later] at found
      split at found
      next less =>
        cases found
        refine ⟨List.mem_cons_of_mem _ member, fun other inCandidates => ?_⟩
        rcases List.mem_cons.1 inCandidates with rfl | inRest
        · exact Nat.le_of_lt less
        · exact least other inRest
      next notLess =>
        cases found
        refine ⟨List.mem_cons_self, fun other inCandidates => ?_⟩
        rcases List.mem_cons.1 inCandidates with rfl | inRest
        · exact Nat.le_refl _
        · exact Nat.le_trans (Nat.le_of_not_lt notLess) (least other inRest)

/-! ### Limits -/

theorem SelectionPolicy.cap?_eq (policy : SelectionPolicy) (origin : Origin) :
    policy.cap? origin = (policy.limits origin).min? := by
  obtain ⟨maxPaths, bgpMaxPaths⟩ := policy
  unfold cap? limits
  by_cases isBgp : origin = .bgp <;> cases maxPaths <;> cases bgpMaxPaths <;>
    simp [isBgp, List.min?]

theorem rankedOffers_eq (policy : SelectionPolicy) (origin : Origin)
    (offers : List (UInt32 × ForwardingHop)) :
    rankedOffers (policy.cap? origin) offers =
      policy.keep origin (distinctOffers (OrderKey.sort offers)) := by
  have sameLimit := congrArg (rankedOffers · offers) (SelectionPolicy.cap?_eq policy origin)
  exact sameLimit

theorem SelectionPolicy.keep_sublist {Item : Type} (policy : SelectionPolicy) (origin : Origin)
    (ranked : List Item) : (policy.keep origin ranked).Sublist ranked := by
  unfold keep
  split
  · exact List.take_sublist _ _
  · exact List.Sublist.refl _

/-- Unless the limit leaves nothing, what comes first is kept. -/
theorem SelectionPolicy.head?_keep {Item : Type} {policy : SelectionPolicy} {origin : Origin}
    (positive : (policy.limits origin).min? ≠ some 0) (ranked : List Item) :
    (policy.keep origin ranked).head? = ranked.head? := by
  unfold keep
  split
  next limit found =>
    have nonzero : limit ≠ 0 := fun zero => positive (zero ▸ found)
    rw [List.head?_take, if_neg nonzero]
  · rfl

/-! ### Refreshed candidates -/

namespace CandidateSet

theorem mem_list_iff {set : CandidateSet} {candidate : Candidate} :
    candidate ∈ set.list ↔ ∃ key, set.candidates.find? key = some candidate :=
  SortedMap.mem_values_iff

/-- The candidates after their next hops were resolved anew and their marks cleared. -/
def refreshed (resolver : Resolver) (set : CandidateSet) : SortedMap CandidateKey Candidate :=
  set.candidates.map fun _ candidate => candidate.refresh resolver

theorem values_refreshed (resolver : Resolver) (set : CandidateSet) :
    (set.refreshed resolver).values = set.list.map (Candidate.refresh resolver) := by
  simp only [refreshed, list, SortedMap.values, SortedMap.map, List.map_map, Function.comp_def]

/-- The candidate that selection prefers, if any is reachable. -/
def best? (resolver : Resolver) (set : CandidateSet) : Option Candidate :=
  preferredCandidate? ((set.refreshed resolver).values.filter Candidate.isEligible)

theorem best?_eq_none_iff {resolver : Resolver} {set : CandidateSet} :
    set.best? resolver = none ↔ ∀ candidate ∈ set.list, ¬ candidate.IsReachable resolver := by
  rw [best?, preferredCandidate?_eq_none_iff, values_refreshed, List.filter_eq_nil_iff,
    List.forall_mem_map]
  exact forall₂_congr fun candidate _ => not_congr (Candidate.isEligible_refresh resolver candidate)

/-- The preferred candidate is a winner, refreshed. -/
theorem best?_eq_some {resolver : Resolver} {set : CandidateSet} {best : Candidate}
    (found : set.best? resolver = some best) :
    ∃ winner, set.IsWinner resolver winner ∧ best = winner.refresh resolver := by
  obtain ⟨member, least⟩ := preferredCandidate?_eq_some found
  rw [values_refreshed] at member least
  obtain ⟨refreshed, eligible⟩ := List.mem_filter.1 member
  obtain ⟨winner, inSet, rfl⟩ := List.mem_map.1 refreshed
  refine ⟨winner, ⟨inSet, (Candidate.isEligible_refresh resolver winner).1 eligible, ?_⟩, rfl⟩
  intro other otherInSet reachable
  have eligibleOther := (Candidate.isEligible_refresh resolver other).2 reachable
  have notPreferred := least (other.refresh resolver)
    (List.mem_filter.2 ⟨List.mem_map_of_mem otherInSet, eligibleOther⟩)
  exact Candidate.preference_le_iff.1 notPreferred

/-- Winners are the reachable candidates with the preference of any one winner. -/
theorem isWinner_iff {resolver : Resolver} {set : CandidateSet} {winner candidate : Candidate}
    (isWinner : set.IsWinner resolver winner) (member : candidate ∈ set.list) :
    set.IsWinner resolver candidate ↔
      candidate.IsReachable resolver ∧ candidate.preference = winner.preference := by
  obtain ⟨inSet, reachable, least⟩ := isWinner
  constructor
  · rintro ⟨_, candidateReachable, candidateLeast⟩
    refine ⟨candidateReachable, Nat.le_antisymm ?_ ?_⟩
    · exact Candidate.preference_le_iff.2 (candidateLeast winner inSet reachable)
    · exact Candidate.preference_le_iff.2 (least candidate member candidateReachable)
  · rintro ⟨candidateReachable, same⟩
    refine ⟨member, candidateReachable, fun other otherInSet otherReachable => ?_⟩
    rw [← Candidate.preference_le_iff, same, Candidate.preference_le_iff]
    exact least other otherInSet otherReachable

/-- The candidates with the winners marked, beside a preferred one. -/
def marked (resolver : Resolver) (set : CandidateSet) (best : Candidate) :
    SortedMap CandidateKey Candidate :=
  (set.refreshed resolver).map fun _ candidate => markWinners best candidate

/-- What selection answers, by the preferred candidate. -/
theorem select_eq (resolver : Resolver) (policy : SelectionPolicy) (destination : Prefix)
    (set : CandidateSet) :
    set.select resolver policy destination =
      match set.best? resolver with
      | none => (.transition destination set.installed none, ⟨set.refreshed resolver, none⟩)
      | some best =>
        let route := winningRoute policy destination best
          ((set.marked resolver best).values.filter Candidate.selected)
        (.transition destination set.installed (some route),
          ⟨set.marked resolver best, some route⟩) :=
  rfl

/-! ### Marked candidates -/

section Marked

variable {resolver : Resolver} {set : CandidateSet} {winner : Candidate}

/-- Exactly the winners end up marked. -/
theorem markWinners_eq (isWinner : set.IsWinner resolver winner) {candidate : Candidate}
    (member : candidate ∈ set.list) :
    markWinners (winner.refresh resolver) (candidate.refresh resolver) =
      { candidate with
        selected := set.IsWinner resolver candidate
        hops := candidate.hops.map (Hop.refresh resolver) } := by
  have eligible := Candidate.isEligible_refresh resolver candidate
  simp only [markWinners, Candidate.preference_refresh, isWinner_iff isWinner member,
    ← eligible, Bool.decide_and, Bool.decide_eq_true]
  rfl

theorem find?_marked (isWinner : set.IsWinner resolver winner) (key : CandidateKey) :
    (set.marked resolver (winner.refresh resolver)).find? key =
      (set.candidates.find? key).map fun candidate =>
        { candidate with
          selected := set.IsWinner resolver candidate
          hops := candidate.hops.map (Hop.refresh resolver) } := by
  rw [marked, refreshed, SortedMap.find?_map, SortedMap.find?_map, Option.map_map]
  refine Option.map_congr fun candidate found => ?_
  exact markWinners_eq isWinner (mem_list_iff.2 ⟨key, found⟩)

theorem values_marked (best : Candidate) :
    (set.marked resolver best).values =
      set.list.map fun candidate => markWinners best (candidate.refresh resolver) := by
  simp only [marked, refreshed, list, SortedMap.values, SortedMap.map, List.map_map,
    Function.comp_def]

/-- The hops that a marked winner offers are those that its next hops resolve to. -/
theorem mem_offers_markWinners_iff {best candidate : Candidate} {metric : UInt32}
    {hop : ForwardingHop} :
    (metric, hop) ∈ (markWinners best (candidate.refresh resolver)).offers ↔
      candidate.metric = metric ∧ candidate.Offers resolver hop := by
  simp only [Candidate.offers, Candidate.selectedHops, markWinners, Candidate.refresh,
    List.mem_filterMap, List.mem_filter, List.mem_map, Option.map_eq_some_iff, Prod.mk.injEq]
  constructor
  · rintro ⟨_, ⟨⟨listed, member, rfl⟩, _⟩, egress, resolved, sameMetric, sameHop⟩
    exact ⟨sameMetric, listed, member, egress, resolved, sameHop.symm⟩
  · rintro ⟨sameMetric, listed, member, egress, resolved, sameHop⟩
    refine ⟨_, ⟨⟨listed, member, rfl⟩, ?_⟩, egress, resolved, sameMetric, sameHop.symm⟩
    simp [Hop.refresh, resolved]

/-- The marked candidates, in order. -/
def winners (resolver : Resolver) (set : CandidateSet) (best : Candidate) : List Candidate :=
  (set.marked resolver best).values.filter Candidate.selected

theorem mem_offers_winners_iff (isWinner : set.IsWinner resolver winner) {metric : UInt32}
    {hop : ForwardingHop} :
    (metric, hop) ∈ (set.winners resolver (winner.refresh resolver)).flatMap Candidate.offers ↔
      set.IsOffered resolver metric hop := by
  rw [winners, values_marked, List.mem_flatMap]
  constructor
  · rintro ⟨_, member, offered⟩
    obtain ⟨listed, selected⟩ := List.mem_filter.1 member
    obtain ⟨candidate, inSet, rfl⟩ := List.mem_map.1 listed
    rw [markWinners_eq isWinner inSet] at selected
    exact ⟨candidate, of_decide_eq_true selected, mem_offers_markWinners_iff.1 offered⟩
  · rintro ⟨candidate, candidateWins, offered⟩
    refine ⟨_, List.mem_filter.2 ⟨List.mem_map_of_mem candidateWins.1, ?_⟩,
      mem_offers_markWinners_iff.2 offered⟩
    rw [markWinners_eq isWinner candidateWins.1]
    exact decide_eq_true candidateWins

end Marked

/-! ### The route of the winners -/

section Route

variable {resolver : Resolver} {set : CandidateSet} {winner : Candidate}

/-- A winner offers a hop, since one of its next hops resolves. -/
theorem exists_isOffered (isWinner : set.IsWinner resolver winner) :
    ∃ hop, set.IsOffered resolver winner.metric hop := by
  obtain ⟨listed, member, resolves⟩ := isWinner.2.1
  obtain ⟨egress, resolved⟩ := Option.isSome_iff_exists.1 resolves
  exact ⟨_, winner, isWinner, rfl, listed, member, egress, resolved, rfl⟩

/-- The first hop of a ranking of the offered hops has the lowest metric of the winners. -/
theorem head_metric_least (isWinner : set.IsWinner resolver winner)
    {ranked : List (UInt32 × ForwardingHop)}
    (isRanking : IsRanking (set.IsOffered resolver) ranked) :
    ∃ best, ranked.head? = some best ∧
      (∃ other, set.IsWinner resolver other ∧ other.metric = best.1) ∧
      ∀ other, set.IsWinner resolver other → best.1 ≤ other.metric := by
  obtain ⟨hop, offered⟩ := exists_isOffered isWinner
  obtain ⟨least, member, _⟩ := isRanking.exists_mem_le offered
  obtain ⟨best, first⟩ : ∃ best, ranked.head? = some best :=
    Option.isSome_iff_exists.1 (List.isSome_head?.2 (List.ne_nil_of_mem member))
  refine ⟨best, first, ?_, fun other otherWins => ?_⟩
  · have ranked := (isRanking.mem_iff best.1 best.2).1 (List.mem_of_head? first)
    obtain ⟨other, otherWins, sameMetric, _⟩ := ranked.1
    exact ⟨other, otherWins, sameMetric⟩
  · obtain ⟨otherHop, otherOffered⟩ := exists_isOffered otherWins
    exact isRanking.head_le first otherOffered

/-- The ranked offers of the winners. -/
theorem isRanking_winners (isWinner : set.IsWinner resolver winner) :
    IsRanking (set.IsOffered resolver) (distinctOffers (OrderKey.sort
      ((set.winners resolver (winner.refresh resolver)).flatMap Candidate.offers))) := by
  have ranking := isRanking_distinctOffers
    ((set.winners resolver (winner.refresh resolver)).flatMap Candidate.offers)
  simpa only [mem_offers_winners_iff isWinner] using ranking

theorem isBestRoute_winningRoute (policy : SelectionPolicy) (destination : Prefix)
    (isWinner : set.IsWinner resolver winner) :
    IsBestRoute resolver policy destination set
      (winningRoute policy destination (winner.refresh resolver)
        (set.winners resolver (winner.refresh resolver))) := by
  have isRanking := isRanking_winners isWinner
  simp only [winningRoute, rankedOffers_eq]
  generalize distinctOffers _ = ranked at isRanking ⊢
  refine
    { destination_eq := rfl
      exists_winner := ⟨winner, isWinner⟩
      preference_eq := fun other otherWins => ?_
      hops_eq := ⟨ranked, isRanking, rfl, rfl⟩
      hops_nodup := isRanking.nodup_hops.sublist ((policy.keep_sublist _ ranked).map Prod.snd)
      metric_least := fun positive => ?_ }
  · have same := ((isWinner_iff isWinner otherWins.1).1 otherWins).2
    obtain ⟨distances, origins⟩ := Candidate.eq_of_preference_eq same
    exact ⟨distances.symm, origins.symm⟩
  · obtain ⟨best, first, attained, least⟩ := head_metric_least isWinner isRanking
    simp only [SelectionPolicy.head?_keep positive, first, Option.map_some, Option.getD_some]
    exact ⟨attained, least⟩

end Route

/-! ### Selection -/

/-- Selection resolves the next hops of every candidate and marks exactly the winners. -/
theorem find?_select (resolver : Resolver) (policy : SelectionPolicy) (destination : Prefix)
    (set : CandidateSet) (key : CandidateKey) :
    (set.select resolver policy destination).2.candidates.find? key =
      (set.candidates.find? key).map fun candidate =>
        { candidate with
          selected := set.IsWinner resolver candidate
          hops := candidate.hops.map (Hop.refresh resolver) } := by
  rw [select_eq]
  cases found : set.best? resolver with
  | none =>
    show (set.refreshed resolver).find? key = _
    rw [refreshed, SortedMap.find?_map]
    refine Option.map_congr fun candidate _ => ?_
    -- no candidate is reachable, so none wins and the cleared mark is right
    have loses : ¬ set.IsWinner resolver candidate := fun wins =>
      best?_eq_none_iff.1 found candidate wins.1 wins.2.1
    simp only [Candidate.refresh, loses, decide_false]
  | some best =>
    obtain ⟨winner, isWinner, rfl⟩ := best?_eq_some found
    exact find?_marked isWinner key

theorem installed_select_eq_none_iff {resolver : Resolver} {policy : SelectionPolicy}
    {destination : Prefix} {set : CandidateSet} :
    (set.select resolver policy destination).2.installed = none ↔
      ∀ candidate ∈ set.list, ¬ candidate.IsReachable resolver := by
  rw [← best?_eq_none_iff, select_eq]
  split <;> simp_all

theorem isBestRoute_of_select {resolver : Resolver} {policy : SelectionPolicy}
    {destination : Prefix} {set : CandidateSet} {route : ForwardingRoute}
    (installed : (set.select resolver policy destination).2.installed = some route) :
    IsBestRoute resolver policy destination set route := by
  rw [select_eq] at installed
  cases found : set.best? resolver with
  | none =>
    rw [found] at installed
    cases installed
  | some best =>
    rw [found] at installed
    cases installed
    obtain ⟨winner, isWinner, rfl⟩ := best?_eq_some found
    exact isBestRoute_winningRoute policy destination isWinner

/-- Selection computes the best path: it marks exactly the winners, resolves all next hops, and
installs the best route if there is one. -/
theorem select_isBestPath (resolver : Resolver) (policy : SelectionPolicy) (destination : Prefix)
    (set : CandidateSet) :
    IsBestPath resolver policy destination set (set.select resolver policy destination).2 where
  candidates_eq := find?_select resolver policy destination set
  installed_eq_none_iff := installed_select_eq_none_iff
  installed_best _ installed := isBestRoute_of_select installed

/-- Selection answers the change from the route that was installed to the one that is. -/
theorem select_fst (resolver : Resolver) (policy : SelectionPolicy) (destination : Prefix)
    (set : CandidateSet) :
    (set.select resolver policy destination).1 = .transition destination set.installed
      (set.select resolver policy destination).2.installed := by
  rw [select_eq]
  split <;> rfl

/-! ### Selecting again -/

/-- Nothing is selected anew for a prefix: selection answers no change and keeps every mark, every
resolved next hop and the installed route. -/
def IsSettled (resolver : Resolver) (policy : SelectionPolicy) (destination : Prefix)
    (set : CandidateSet) : Prop :=
  set.select resolver policy destination = (.unchanged destination, set)

/-- When nothing is selected anew, every next hop is marked with what it resolves to. -/
theorem IsSettled.hops_eq {resolver : Resolver} {policy : SelectionPolicy} {destination : Prefix}
    {set : CandidateSet} (isSettled : set.IsSettled resolver policy destination)
    {key : CandidateKey} {candidate : Candidate}
    (found : set.candidates.find? key = some candidate) :
    candidate.hops = candidate.hops.map (Hop.refresh resolver) := by
  have selects := find?_select resolver policy destination set key
  rw [isSettled, found, Option.map_some] at selects
  exact congrArg Candidate.hops (Option.some.inj selects)

/-- What selection makes of candidates depends on their refreshed state alone. -/
theorem select_snd_congr {resolver : Resolver} {first second : CandidateSet}
    (same : first.refreshed resolver = second.refreshed resolver) (policy : SelectionPolicy)
    (destination : Prefix) :
    (first.select resolver policy destination).2 =
      (second.select resolver policy destination).2 := by
  rw [select_eq, select_eq]
  simp only [best?, marked, same]
  split <;> rfl

theorem refreshed_select (resolver : Resolver) (policy : SelectionPolicy) (destination : Prefix)
    (set : CandidateSet) :
    (set.select resolver policy destination).2.refreshed resolver = set.refreshed resolver := by
  refine SortedMap.ext_find? fun key => ?_
  rw [refreshed, refreshed, SortedMap.find?_map, SortedMap.find?_map,
    find?_select, Option.map_map]
  refine Option.map_congr fun candidate _ => ?_
  -- the mark is cleared and the next hops are resolved by the same resolver
  exact Candidate.refresh_refresh resolver candidate

/-- Selecting again under the same resolver and policy changes nothing. -/
theorem isSettled_select (resolver : Resolver) (policy : SelectionPolicy) (destination : Prefix)
    (set : CandidateSet) :
    (set.select resolver policy destination).2.IsSettled resolver policy destination := by
  have again := select_snd_congr (refreshed_select resolver policy destination set) policy
    destination
  refine Prod.ext ?_ again
  rw [select_fst, again]
  exact Delta.transition_self destination _

end CandidateSet

end ControlPlane
