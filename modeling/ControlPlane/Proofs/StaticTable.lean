/-
This file says which candidates come out of static routes: one for every distance
that is configured for the prefix, by ascending distance, with the next hops that
are configured at it. The candidates of a prefix depend on its own next hops
alone, so that an operation on the static routes changes the candidates of those
prefixes only that it answers.
-/

import ControlPlane.Proofs.SortedMap
import ControlPlane.StaticTable

namespace ControlPlane

namespace StaticTable

variable {table : StaticTable}

/-! ### Next hops after operations -/

theorem hopsOf_add (table : StaticTable) (route : StaticRoute) (destination : Prefix) :
    (table.add route).2.hopsOf destination =
      if Prefix.ofNetwork route.destination = destination then
        (table.hopsOf (Prefix.ofNetwork route.destination)).insert route.nextHop route.distance
      else table.hopsOf destination := by
  show ((table.routes.insert _ _).find? destination).getD SortedMap.empty = _
  rw [SortedMap.find?_insert]
  split <;> rfl

/-- Other prefixes than the answered one keep their next hops. -/
theorem hopsOf_add_of_ne {route : StaticRoute} {destination : Prefix}
    (elsewhere : (table.add route).1 ≠ destination) :
    (table.add route).2.hopsOf destination = table.hopsOf destination := by
  rw [hopsOf_add]
  exact if_neg elsewhere

/-- The removed next hop goes, and all others stay. -/
theorem hopsOf_remove {route : StaticRoute} {result : Prefix × StaticTable}
    (removed : table.remove route = .ok result) (destination : Prefix) :
    result.2.hopsOf destination =
      if result.1 = destination then (table.hopsOf destination).erase route.nextHop
      else table.hopsOf destination := by
  unfold remove at removed
  dsimp only at removed
  split at removed
  next =>
    cases removed
    dsimp only
    by_cases here : Prefix.ofNetwork route.destination = destination
    · subst here
      rw [if_pos rfl, hopsOf]
      split
      next isEmpty =>
        rw [SortedMap.find?_erase, if_pos rfl, Option.getD_none]
        refine SortedMap.ext_find? fun nextHop => ?_
        exact (SortedMap.find?_eq_none_of_isEmpty isEmpty nextHop).symm
      next => rw [SortedMap.find?_insert, if_pos rfl, Option.getD_some]
    · rw [if_neg here, hopsOf]
      split
      · rw [SortedMap.find?_erase, if_neg here, hopsOf]
      · rw [SortedMap.find?_insert, if_neg here, hopsOf]
  next => cases removed

theorem hopsOf_remove_of_ne {route : StaticRoute} {result : Prefix × StaticTable}
    (removed : table.remove route = .ok result) {destination : Prefix}
    (elsewhere : result.1 ≠ destination) :
    result.2.hopsOf destination = table.hopsOf destination := by
  rw [hopsOf_remove removed, if_neg elsewhere]

section Purging

variable (name : String) (resolved : List (Prefix × NextHop))

/-- A next hop is bound to an interface. -/
def isBound (destination : Prefix) (nextHop : NextHop) : Bool :=
  nextHop.names name || resolved.contains (destination, nextHop)

/-- Exactly the bound next hops go. -/
theorem hopsOf_purge (table : StaticTable) (destination : Prefix) :
    (table.purge name resolved).2.hopsOf destination =
      (table.hopsOf destination).filter fun nextHop _ =>
        !isBound name resolved destination nextHop := by
  show (((table.routes.map _).filter fun _ hops => !hops.isEmpty).find? destination).getD
    SortedMap.empty = _
  rw [SortedMap.find?_filter, SortedMap.find?_map, hopsOf]
  cases table.routes.find? destination with
  | none => rfl
  | some hops =>
    rw [Option.map_some, Option.getD_some]
    cases isEmpty : (hops.filter fun nextHop _ =>
      !isBound name resolved destination nextHop).isEmpty with
    | false =>
      rw [Option.filter_some_pos]
      · rfl
      · exact congrArg not isEmpty
    | true =>
      rw [Option.filter_some_neg]
      · refine SortedMap.ext_find? fun nextHop => ?_
        exact (SortedMap.find?_eq_none_of_isEmpty isEmpty nextHop).symm
      · exact congrArg not isEmpty

/-- A prefix that is not answered keeps its next hops. -/
theorem hopsOf_purge_of_notMem {destination : Prefix}
    (unaffected : destination ∉ (table.purge name resolved).1) :
    (table.purge name resolved).2.hopsOf destination = table.hopsOf destination := by
  rw [hopsOf_purge]
  refine SortedMap.ext_find? fun nextHop => ?_
  rw [SortedMap.find?_filter]
  cases configured : (table.hopsOf destination).find? nextHop with
  | none => rfl
  | some distance =>
    refine Option.filter_some_pos ?_
    rw [Bool.not_eq_true', Bool.eq_false_iff]
    intro bound
    cases found : table.routes.find? destination with
    | none =>
      rw [hopsOf, found] at configured
      cases configured
    | some hops =>
      rw [hopsOf, found, Option.getD_some] at configured
      refine unaffected (List.mem_map.2 ⟨(destination, hops), List.mem_filter.2 ⟨?_, ?_⟩, rfl⟩)
      · exact SortedMap.find?_eq_some_iff.1 found
      · exact List.any_eq_true.2 ⟨(nextHop, distance), SortedMap.find?_eq_some_iff.1 configured,
          bound⟩

/-- A prefix that is answered lost a next hop. -/
theorem hopsOf_purge_ne_of_mem {destination : Prefix}
    (affected : destination ∈ (table.purge name resolved).1) :
    (table.purge name resolved).2.hopsOf destination ≠ table.hopsOf destination := by
  obtain ⟨⟨own, hops⟩, member, rfl⟩ := List.mem_map.1 affected
  obtain ⟨listed, anyBound⟩ := List.mem_filter.1 member
  obtain ⟨⟨nextHop, distance⟩, configured, bound⟩ := List.any_eq_true.1 anyBound
  have found : table.routes.find? own = some hops := SortedMap.find?_eq_some_iff.2 listed
  have isBound : isBound name resolved own nextHop = true := bound
  intro same
  have kept := congrArg (SortedMap.find? · nextHop)
    ((hopsOf_purge name resolved table own).symm.trans same)
  dsimp only at kept
  rw [SortedMap.find?_filter, hopsOf, found, Option.getD_some,
    SortedMap.find?_eq_some_iff.2 configured, Option.filter_some_neg] at kept
  · cases kept
  · rw [isBound, Bool.not_true]

end Purging

/-! ### Adding in order -/

/-- The table after static routes were added in order. -/
def addAll (table : StaticTable) (routes : List StaticRoute) : StaticTable :=
  routes.foldl (fun table route => (table.add route).2) table

/-- The distance that a next hop of a prefix was last given by some static routes. -/
def lastDistance? (routes : List StaticRoute) (destination : Prefix) (nextHop : NextHop) :
    Option UInt8 :=
  ((routes.filter fun route =>
    Prefix.ofNetwork route.destination = destination && route.nextHop = nextHop).getLast?).map
      StaticRoute.distance

section AddAll

variable {destination : Prefix} {nextHop : NextHop}

theorem lastDistance?_cons (route : StaticRoute) (rest : List StaticRoute) :
    lastDistance? (route :: rest) destination nextHop =
      (lastDistance? rest destination nextHop).or
        (if Prefix.ofNetwork route.destination = destination ∧ route.nextHop = nextHop then
          some route.distance else none) := by
  by_cases own : Prefix.ofNetwork route.destination = destination ∧ route.nextHop = nextHop
  · rw [if_pos own, lastDistance?, List.filter_cons_of_pos (by simp [own]), List.getLast?_cons,
      lastDistance?]
    cases (rest.filter _).getLast? <;> rfl
  · rw [if_neg own, Option.or_none, lastDistance?, List.filter_cons_of_neg, lastDistance?]
    rwa [Bool.and_eq_true, decide_eq_true_eq, decide_eq_true_eq]

/-- A next hop has the distance that it was last given. -/
theorem find?_hopsOf_addAll (table : StaticTable) (routes : List StaticRoute) :
    ((table.addAll routes).hopsOf destination).find? nextHop =
      (lastDistance? routes destination nextHop).or
        ((table.hopsOf destination).find? nextHop) := by
  induction routes generalizing table with
  | nil => rfl
  | cons route rest inductionHypothesis =>
    show (((table.add route).2.addAll rest).hopsOf destination).find? nextHop = _
    rw [inductionHypothesis, lastDistance?_cons, Option.or_assoc, hopsOf_add]
    congr 1
    by_cases own : Prefix.ofNetwork route.destination = destination
    · subst own
      rw [if_pos rfl, SortedMap.find?_insert]
      by_cases sameHop : route.nextHop = nextHop <;> simp [sameHop]
    · simp [own]

/-- A prefix is listed as soon as a static route for it was added. -/
theorem isSome_find?_addAll_iff (table : StaticTable) (routes : List StaticRoute) :
    ((table.addAll routes).routes.find? destination).isSome ↔
      (table.routes.find? destination).isSome ∨
        ∃ route ∈ routes, Prefix.ofNetwork route.destination = destination := by
  induction routes generalizing table with
  | nil => simp [addAll]
  | cons route rest inductionHypothesis =>
    have added : ((table.add route).2.routes.find? destination).isSome ↔
        Prefix.ofNetwork route.destination = destination ∨
          (table.routes.find? destination).isSome := by
      rw [add, SortedMap.find?_insert]
      by_cases own : Prefix.ofNetwork route.destination = destination <;> simp [own]
    show (((table.add route).2.addAll rest).routes.find? destination).isSome ↔ _
    rw [inductionHypothesis, added]
    simp only [List.mem_cons, exists_eq_or_imp, or_assoc, or_left_comm]

end AddAll

/-! ### Candidates of a prefix -/

/-- The distances that are configured for a prefix, in ascending order. -/
def distances (table : StaticTable) (destination : Prefix) : List UInt8 :=
  (SortedSet.ofList (table.hopsOf destination).values).keys

/-- The listed next hops of a distance, in order. -/
def hopsAt (hops : List (NextHop × UInt8)) (distance : UInt8) : List NextHop :=
  (hops.filter fun hop => hop.2 = distance).map Prod.fst

/-- The static candidate of a distance through some next hops. -/
def candidateAt (vrf : UInt32) (destination : Prefix) (distance : UInt8) (nextHops : List NextHop) :
    Candidate :=
  { Candidate.create vrf destination .static with
    distance
    inst := distance.toUInt32
    hops := nextHops.map Hop.unresolved }

section Candidates

variable {vrf : UInt32} {destination : Prefix}

theorem addHop_candidateAt {distance : UInt8} {nextHops : List NextHop} {nextHop : NextHop}
    (fresh : nextHop ∉ nextHops) :
    (candidateAt vrf destination distance nextHops).addHop nextHop =
      candidateAt vrf destination distance (nextHops ++ [nextHop]) := by
  have absent : ¬ ((nextHops.map Hop.unresolved).any fun hop => hop.nextHop = nextHop) = true := by
    rw [List.any_map, List.any_eq_true]
    rintro ⟨listed, member, same⟩
    exact fresh (of_decide_eq_true same ▸ member)
  refine (if_neg absent).trans ?_
  rw [candidateAt, candidateAt, List.map_append, List.map_singleton]

/-- The candidates that were made so far are those of the next hops that were taken so far. -/
def Collects (vrf : UInt32) (destination : Prefix) (byDistance : SortedMap UInt8 Candidate)
    (taken : List (NextHop × UInt8)) : Prop :=
  ∀ distance, byDistance.find? distance =
    if hopsAt taken distance = [] then none
    else some (candidateAt vrf destination distance (hopsAt taken distance))

theorem hopsAt_append_singleton (taken : List (NextHop × UInt8)) (entry : NextHop × UInt8)
    (distance : UInt8) :
    hopsAt (taken ++ [entry]) distance =
      hopsAt taken distance ++ if entry.2 = distance then [entry.1] else [] := by
  rw [hopsAt, List.filter_append, List.map_append, hopsAt]
  by_cases own : entry.2 = distance <;> simp [own]

/-- A further next hop joins the candidate of its distance. -/
theorem Collects.addToDistance {byDistance : SortedMap UInt8 Candidate}
    {taken : List (NextHop × UInt8)} (collects : Collects vrf destination byDistance taken)
    {entry : NextHop × UInt8} (fresh : entry.1 ∉ taken.map Prod.fst) :
    Collects vrf destination (addToDistance vrf destination byDistance entry)
      (taken ++ [entry]) := by
  have freshAt : entry.1 ∉ hopsAt taken entry.2 := fun member =>
    fresh ((List.filter_sublist.map Prod.fst).subset member)
  have soFar : (byDistance.find? entry.2).getD
      { Candidate.create vrf destination .static with
        distance := entry.2, inst := entry.2.toUInt32 } =
      candidateAt vrf destination entry.2 (hopsAt taken entry.2) := by
    rw [collects]
    split
    next none => rw [none, Option.getD_none]; rfl
    next => rw [Option.getD_some]
  intro distance
  rw [StaticTable.addToDistance, SortedMap.find?_insert, soFar, addHop_candidateAt freshAt,
    hopsAt_append_singleton]
  by_cases own : entry.2 = distance
  · subst own
    simp only [if_true, List.append_eq_nil_iff, List.cons_ne_nil, and_false, if_false]
  · simp only [own, if_false, List.append_nil, collects distance]

theorem Collects.foldl_addToDistance {byDistance : SortedMap UInt8 Candidate}
    {taken rest : List (NextHop × UInt8)} (collects : Collects vrf destination byDistance taken)
    (distinct : ((taken ++ rest).map Prod.fst).Nodup) :
    Collects vrf destination (rest.foldl (StaticTable.addToDistance vrf destination) byDistance)
      (taken ++ rest) := by
  induction rest generalizing byDistance taken with
  | nil => rwa [List.append_nil]
  | cons entry rest inductionHypothesis =>
    rw [List.append_cons] at distinct ⊢
    refine inductionHypothesis (collects.addToDistance ?_) distinct
    rw [List.map_append, List.map_append] at distinct
    have takenFirst := (List.nodup_append.1 (List.nodup_append.1 distinct).1).2.2
    exact fun member => takenFirst _ member _ List.mem_cons_self rfl

end Candidates

/-- The candidates of a prefix: one for every configured distance, by ascending distance, with the
next hops of the distance. -/
theorem candidates_eq (table : StaticTable) (vrf : UInt32) (destination : Prefix) :
    table.candidates vrf destination = (table.distances destination).map fun distance =>
      candidateAt vrf destination distance
        (hopsAt (table.hopsOf destination).entries distance) := by
  have none : Collects vrf destination SortedMap.empty [] := fun _ => rfl
  have distinct : (([] ++ (table.hopsOf destination).entries).map Prod.fst).Nodup :=
    (table.hopsOf destination).nodup_keys
  have collects := none.foldl_addToDistance distinct
  rw [List.nil_append] at collects
  have sameMap : (table.hopsOf destination).entries.foldl (addToDistance vrf destination)
      SortedMap.empty = (SortedSet.ofList (table.hopsOf destination).values).map fun distance _ =>
        candidateAt vrf destination distance
          (hopsAt (table.hopsOf destination).entries distance) := by
    refine SortedMap.ext_find? fun distance => ?_
    rw [collects, SortedMap.find?_map]
    by_cases configured : distance ∈ (table.hopsOf destination).values
    · obtain ⟨_, listed⟩ := SortedMap.mem_keys_iff.1 (SortedSet.mem_keys_ofList.2 configured)
      obtain ⟨entry, member, own⟩ := List.mem_map.1 configured
      have some : hopsAt (table.hopsOf destination).entries distance ≠ [] :=
        List.ne_nil_of_mem (List.mem_map_of_mem
          (List.mem_filter.2 ⟨member, decide_eq_true own⟩))
      rw [if_neg some, listed, Option.map_some]
    · have unlisted := SortedMap.find?_eq_none_of_notMem
        (mt SortedSet.mem_keys_ofList.1 configured)
      have none : hopsAt (table.hopsOf destination).entries distance = [] := by
        refine List.map_eq_nil_iff.2 (List.filter_eq_nil_iff.2 fun entry member own => ?_)
        exact configured (List.mem_map.2 ⟨entry, member, of_decide_eq_true own⟩)
      rw [if_pos none, unlisted, Option.map_none]
  rw [candidates, sameMap, SortedMap.values_map, distances, SortedMap.keys, List.map_map]
  rfl

theorem mem_candidates_iff {vrf : UInt32} {destination : Prefix} {candidate : Candidate} :
    candidate ∈ table.candidates vrf destination ↔
      ∃ distance ∈ table.distances destination, candidate =
        candidateAt vrf destination distance
          (hopsAt (table.hopsOf destination).entries distance) := by
  rw [candidates_eq, List.mem_map]
  simp only [eq_comm]

/-- The candidates of a prefix are told apart by their instances. -/
theorem eq_of_inst_eq {vrf : UInt32} {destination : Prefix} {first second : Candidate}
    (firstListed : first ∈ table.candidates vrf destination)
    (secondListed : second ∈ table.candidates vrf destination)
    (same : first.inst = second.inst) : first = second := by
  obtain ⟨distance, _, rfl⟩ := mem_candidates_iff.1 firstListed
  obtain ⟨distance', _, rfl⟩ := mem_candidates_iff.1 secondListed
  have sameDistance : distance = distance' := UInt8.toUInt32_inj.1 same
  rw [sameDistance]

/-- The candidates of a prefix depend on its own next hops alone. -/
theorem candidates_congr {first second : StaticTable} {destination : Prefix}
    (same : second.hopsOf destination = first.hopsOf destination) (vrf : UInt32) :
    second.candidates vrf destination = first.candidates vrf destination := by
  rw [candidates, same, candidates]

end StaticTable

end ControlPlane
