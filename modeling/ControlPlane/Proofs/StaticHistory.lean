/-
This file follows a table of static routes through every sequence of operations and
shows that it is a map from pairs of a prefix and a next hop to distances, held in
two levels. Each operation does to the table what it does to that map, and its
answer can be told from the map alone. An inner map without next hops is never
kept, so that a prefix is listed exactly while one of its pairs is, and the table
is determined by the map: to add the routes that it is made of to the empty table
gives the same table.
-/

import Mathlib.Data.Set.Card
import ControlPlane.Proofs.StaticTable

namespace ControlPlane

theorem Prefix.ofNetwork_network (destination : Prefix) :
    Prefix.ofNetwork destination.network = destination := by
  obtain ⟨⟨address, length, length_le⟩, canonical⟩ := destination
  simp only [Prefix.ofNetwork, Network.base, canonical]

/-- The prefix and the next hop of a static route. -/
def StaticRoute.pair (route : StaticRoute) : Prefix × NextHop :=
  (Prefix.ofNetwork route.destination, route.nextHop)

/-! ### Distances by prefix and next hop -/

/-- What may be done to a table of static routes. -/
inductive StaticOperation
  | add (route : StaticRoute)
  | remove (route : StaticRoute)
  | purge (name : String) (resolved : List (Prefix × NextHop))

/-- The distance of each pair of a prefix and a next hop that has one. -/
abbrev StaticDistances : Type :=
  Prefix × NextHop → Option UInt8

namespace StaticDistances

/-- The distances after an operation. -/
def after (distances : StaticDistances) : StaticOperation → StaticDistances
  | .add route => Function.update distances route.pair (some route.distance)
  | .remove route => Function.update distances route.pair none
  | .purge name resolved => fun pair =>
    if pair.2.names name ∨ pair ∈ resolved then none else distances pair

/-- The distances after some operations, from none. -/
def history (operations : List StaticOperation) : StaticDistances :=
  operations.foldl after fun _ => none

/-- What an operation answers: the prefix of the route, or the prefixes that lost a pair. -/
def Answers (distances : StaticDistances) (answer : Except RouteError (List Prefix)) :
    StaticOperation → Prop
  | .add route => answer = .ok [route.pair.1]
  | .remove route =>
    answer =
      if distances route.pair = none then .error (.unknownRoute route.pair.1)
      else .ok [route.pair.1]
  | .purge name resolved =>
    ∃ lost, answer = .ok lost ∧ lost.Pairwise OrderKey.Before ∧ ∀ destination,
      destination ∈ lost ↔ ∃ nextHop, distances (destination, nextHop) ≠ none ∧
        distances.after (.purge name resolved) (destination, nextHop) = none

/-- The candidates of a prefix are its pairs, parted by distance: one candidate for each distance,
with the distance as instance and the next hops at it. -/
structure Partitions (distances : StaticDistances) (vrf : UInt32) (destination : Prefix)
    (candidates : List Candidate) : Prop where
  ascending : candidates.Pairwise fun earlier later => earlier.distance < later.distance
  complete : ∀ distance, (∃ candidate ∈ candidates, candidate.distance = distance) ↔
    ∃ nextHop, distances (destination, nextHop) = some distance
  exact : ∀ candidate ∈ candidates, ∃ nextHops : List NextHop,
    nextHops.Pairwise OrderKey.Before ∧
      (∀ nextHop, nextHop ∈ nextHops ↔
        distances (destination, nextHop) = some candidate.distance) ∧
      candidate =
        { Candidate.create vrf destination .static with
          distance := candidate.distance
          inst := candidate.distance.toUInt32
          hops := nextHops.map Hop.unresolved }

end StaticDistances

namespace StaticTable

variable {table : StaticTable}

/-- The distances that a table holds. -/
def distanceOf (table : StaticTable) : StaticDistances := fun pair =>
  (table.hopsOf pair.1).find? pair.2

theorem distanceOf_apply (table : StaticTable) (destination : Prefix) (nextHop : NextHop) :
    table.distanceOf (destination, nextHop) = (table.hopsOf destination).find? nextHop :=
  rfl

/-- Performs an operation. A refused one leaves the table as it is. -/
def perform (table : StaticTable) :
    StaticOperation → Except RouteError (List Prefix) × StaticTable
  | .add route =>
    let (destination, after) := table.add route
    (.ok [destination], after)
  | .remove route =>
    match table.remove route with
    | .ok (destination, after) => (.ok [destination], after)
    | .error error => (.error error, table)
  | .purge name resolved =>
    let (lost, after) := table.purge name resolved
    (.ok lost, after)

/-- The table after some operations, from the empty one. -/
def history (operations : List StaticOperation) : StaticTable :=
  operations.foldl (fun table operation => (table.perform operation).2) empty

/-! ### Single operations -/

/-- A route that is not configured is refused, whatever its distance is. -/
theorem remove_eq_error {route : StaticRoute} (absent : table.distanceOf route.pair = none) :
    table.remove route = .error (.unknownRoute route.pair.1) := by
  have notContained : ¬ (table.hopsOf (Prefix.ofNetwork route.destination)).contains
      route.nextHop = true := by
    rw [SortedMap.contains, Option.not_isSome_iff_eq_none]
    exact absent
  exact if_neg notContained

theorem exists_remove_eq_ok {route : StaticRoute}
    (configured : table.distanceOf route.pair ≠ none) :
    ∃ after, table.remove route = .ok (route.pair.1, after) := by
  have contained : (table.hopsOf (Prefix.ofNetwork route.destination)).contains
      route.nextHop = true := by
    rw [SortedMap.contains, Option.isSome_iff_ne_none]
    exact configured
  exact ⟨_, if_pos contained⟩

theorem distanceOf_add (table : StaticTable) (route : StaticRoute) :
    (table.add route).2.distanceOf =
      Function.update table.distanceOf route.pair (some route.distance) := by
  funext pair
  obtain ⟨destination, nextHop⟩ := pair
  rw [distanceOf_apply, hopsOf_add]
  by_cases own : (destination, nextHop) = route.pair
  · rw [own, Function.update_self]
    cases own
    rw [if_pos rfl, SortedMap.find?_insert, if_pos rfl]
  · rw [Function.update_of_ne own]
    split
    next here =>
      have otherHop : route.nextHop ≠ nextHop := fun same => own (Prod.ext here.symm same.symm)
      rw [SortedMap.find?_insert, if_neg otherHop, here]
      rfl
    next => rfl

theorem distanceOf_remove {route : StaticRoute} {result : Prefix × StaticTable}
    (removed : table.remove route = .ok result) :
    result.2.distanceOf = Function.update table.distanceOf route.pair none := by
  have answered : result.1 = Prefix.ofNetwork route.destination := by
    unfold remove at removed
    dsimp only at removed
    split at removed <;> cases removed
    rfl
  funext pair
  obtain ⟨destination, nextHop⟩ := pair
  rw [distanceOf_apply, hopsOf_remove removed, answered]
  by_cases own : (destination, nextHop) = route.pair
  · rw [own, Function.update_self]
    cases own
    rw [if_pos rfl, SortedMap.find?_erase, if_pos rfl]
  · rw [Function.update_of_ne own]
    split
    next here =>
      have otherHop : route.nextHop ≠ nextHop := fun same => own (Prod.ext here.symm same.symm)
      rw [SortedMap.find?_erase, if_neg otherHop]
      rfl
    next => rfl

theorem distanceOf_purge (table : StaticTable) (name : String)
    (resolved : List (Prefix × NextHop)) :
    (table.purge name resolved).2.distanceOf =
      table.distanceOf.after (.purge name resolved) := by
  funext pair
  obtain ⟨destination, nextHop⟩ := pair
  rw [distanceOf_apply, hopsOf_purge, SortedMap.find?_filter, StaticDistances.after]
  dsimp only
  have bound_iff : isBound name resolved destination nextHop = true ↔
      nextHop.names name ∨ (destination, nextHop) ∈ resolved := by
    rw [isBound, Bool.or_eq_true, List.contains_iff_mem]
  split
  next bound => simp [bound_iff.2 bound]
  next free =>
    have isFree : isBound name resolved destination nextHop = false :=
      Bool.eq_false_iff.2 (mt bound_iff.1 free)
    rw [distanceOf_apply]
    cases (table.hopsOf destination).find? nextHop <;> simp [isFree]

/-- An operation does to the table what it does to its distances. -/
theorem distanceOf_perform (table : StaticTable) (operation : StaticOperation) :
    (table.perform operation).2.distanceOf = table.distanceOf.after operation := by
  cases operation with
  | add route => exact distanceOf_add table route
  | remove route =>
    by_cases absent : table.distanceOf route.pair = none
    · have unchanged : table.distanceOf.after (.remove route) = table.distanceOf :=
        Function.update_eq_self_iff.2 absent.symm
      rw [perform, remove_eq_error absent, unchanged]
    · obtain ⟨after, removed⟩ := exists_remove_eq_ok absent
      rw [perform, removed]
      exact distanceOf_remove removed
  | purge name resolved => exact distanceOf_purge table name resolved

/-- The prefixes that a purge answers are those that lost a pair. -/
theorem mem_purge_iff {name : String} {resolved : List (Prefix × NextHop)}
    {destination : Prefix} :
    destination ∈ (table.purge name resolved).1 ↔
      ∃ nextHop, table.distanceOf (destination, nextHop) ≠ none ∧
        table.distanceOf.after (.purge name resolved) (destination, nextHop) = none := by
  rw [← distanceOf_purge]
  constructor
  · intro affected
    -- if no pair were lost, then the next hops of the prefix would be the same
    by_contra noneLost
    refine hopsOf_purge_ne_of_mem name resolved affected (SortedMap.ext_find? fun nextHop => ?_)
    rw [← distanceOf_apply, ← distanceOf_apply]
    by_cases configured : table.distanceOf (destination, nextHop) = none
    · rw [distanceOf_purge, configured]
      exact (congrArg (ite _ none) configured).trans (ite_self none)
    · have kept := fun lost => noneLost ⟨nextHop, configured, lost⟩
      rw [distanceOf_purge] at kept ⊢
      exact ite_eq_right_iff.2 fun bound => absurd (if_pos bound) kept
  · rintro ⟨nextHop, configured, lost⟩
    by_contra unaffected
    have same := hopsOf_purge_of_notMem name resolved unaffected
    exact configured ((congrArg (·.find? nextHop) same).symm.trans lost)

/-- The answer of an operation can be told from the distances alone. -/
theorem answers_perform (table : StaticTable) (operation : StaticOperation) :
    table.distanceOf.Answers (table.perform operation).1 operation := by
  cases operation with
  | add route => rfl
  | remove route =>
    rw [StaticDistances.Answers]
    split
    next absent => rw [perform, remove_eq_error absent]
    next configured =>
      obtain ⟨after, removed⟩ := exists_remove_eq_ok configured
      rw [perform, removed]
  | purge name resolved =>
    refine ⟨(table.purge name resolved).1, rfl, ?_, fun destination => mem_purge_iff⟩
    exact List.pairwise_map.2 (table.routes.ascending.filter _)

/-! ### Listed prefixes -/

/-- No prefix is listed without next hops. -/
def HasNoEmpty (table : StaticTable) : Prop :=
  ∀ destination hops, table.routes.find? destination = some hops → hops.isEmpty = false

theorem hasNoEmpty_empty : HasNoEmpty empty :=
  nofun

theorem HasNoEmpty.add (hasNoEmpty : table.HasNoEmpty) (route : StaticRoute) :
    (table.add route).2.HasNoEmpty := by
  intro destination hops found
  rw [StaticTable.add, SortedMap.find?_insert] at found
  split at found
  · cases found
    refine Bool.eq_false_iff.2 fun isEmpty => ?_
    have absent := SortedMap.find?_eq_none_of_isEmpty isEmpty route.nextHop
    rw [SortedMap.find?_insert, if_pos rfl] at absent
    cases absent
  · exact hasNoEmpty destination hops found

theorem HasNoEmpty.remove (hasNoEmpty : table.HasNoEmpty) {route : StaticRoute}
    {result : Prefix × StaticTable} (removed : table.remove route = .ok result) :
    result.2.HasNoEmpty := by
  unfold StaticTable.remove at removed
  dsimp only at removed
  split at removed
  · cases removed
    intro destination hops found
    dsimp only at found
    split at found
    · rw [SortedMap.find?_erase] at found
      split at found
      · cases found
      · exact hasNoEmpty destination hops found
    next keeps =>
      rw [SortedMap.find?_insert] at found
      split at found
      · cases found
        exact Bool.eq_false_iff.2 keeps
      · exact hasNoEmpty destination hops found
  · cases removed

/-- A purge drops the prefixes that are left without next hops, whatever it was given. -/
theorem hasNoEmpty_purge (table : StaticTable) (name : String)
    (resolved : List (Prefix × NextHop)) : (table.purge name resolved).2.HasNoEmpty := by
  intro destination hops found
  have kept := (SortedMap.find?_filter _ _ _).symm.trans found
  exact Bool.not_eq_true' _ ▸ (Option.filter_eq_some_iff.1 kept).2

theorem HasNoEmpty.perform (hasNoEmpty : table.HasNoEmpty) (operation : StaticOperation) :
    (table.perform operation).2.HasNoEmpty := by
  cases operation with
  | add route => exact hasNoEmpty.add route
  | remove route =>
    rw [StaticTable.perform]
    split
    next removed => exact hasNoEmpty.remove removed
    next => exact hasNoEmpty
  | purge name resolved => exact hasNoEmpty_purge table name resolved

theorem find?_routes (hasNoEmpty : table.HasNoEmpty) (destination : Prefix) :
    table.routes.find? destination =
      if (table.hopsOf destination).isEmpty then none else some (table.hopsOf destination) := by
  rw [hopsOf]
  cases found : table.routes.find? destination with
  | none => rfl
  | some hops =>
    rw [Option.getD_some, hasNoEmpty destination hops found]
    rfl

/-- A table is determined by its distances. -/
theorem eq_of_distanceOf_eq {first second : StaticTable} (firstFull : first.HasNoEmpty)
    (secondFull : second.HasNoEmpty) (same : first.distanceOf = second.distanceOf) :
    first = second := by
  have sameHops : ∀ destination, first.hopsOf destination = second.hopsOf destination :=
    fun destination => SortedMap.ext_find? fun nextHop => congrFun same (destination, nextHop)
  have sameRoutes : first.routes = second.routes := by
    refine SortedMap.ext_find? fun destination => ?_
    rw [find?_routes firstFull, find?_routes secondFull, sameHops]
  cases first
  cases second
  cases sameRoutes
  rfl

/-! ### The routes of a table -/

/-- The routes of a table are made of its pairs, with their distances. -/
theorem mem_configs_iff {route : StaticRoute} :
    route ∈ table.configs ↔ route.destination = route.pair.1.network ∧
      table.distanceOf route.pair = some route.distance := by
  rw [configs, List.mem_flatMap]
  constructor
  · rintro ⟨⟨destination, hops⟩, listed, member⟩
    obtain ⟨⟨nextHop, distance⟩, isHop, rfl⟩ := List.mem_map.1 member
    have own := destination.ofNetwork_network
    refine ⟨congrArg Prefix.network own.symm, ?_⟩
    show ((table.routes.find? (Prefix.ofNetwork destination.network)).getD _).find? nextHop = _
    rw [own, SortedMap.find?_eq_some_iff.2 listed, Option.getD_some]
    exact SortedMap.find?_eq_some_iff.2 isHop
  · rintro ⟨isPrefix, configured⟩
    cases found : table.routes.find? route.pair.1 with
    | none =>
      rw [distanceOf, hopsOf, found] at configured
      cases configured
    | some hops =>
      rw [distanceOf, hopsOf, found, Option.getD_some] at configured
      refine ⟨(route.pair.1, hops), SortedMap.find?_eq_some_iff.1 found, List.mem_map.2
        ⟨(route.nextHop, route.distance), SortedMap.find?_eq_some_iff.1 configured, ?_⟩⟩
      rw [← isPrefix]

theorem exists_mem_configs_iff {pair : Prefix × NextHop} :
    (∃ route ∈ table.configs, route.pair = pair) ↔ table.distanceOf pair ≠ none := by
  constructor
  · rintro ⟨route, member, rfl⟩ absent
    rw [(mem_configs_iff.1 member).2] at absent
    cases absent
  · intro configured
    obtain ⟨distance, found⟩ := Option.ne_none_iff_exists'.1 configured
    have own : (⟨pair.1.network, pair.2, distance⟩ : StaticRoute).pair = pair :=
      Prod.ext pair.1.ofNetwork_network rfl
    exact ⟨_, mem_configs_iff.2 ⟨by rw [own], by rw [own]; exact found⟩, own⟩

/-- No pair is in two routes of a table. -/
theorem nodup_pairs_configs (table : StaticTable) :
    (table.configs.map StaticRoute.pair).Nodup := by
  have pairs : table.configs.map StaticRoute.pair =
      table.routes.entries.flatMap fun entry => entry.2.keys.map fun nextHop =>
        (entry.1, nextHop) := by
    rw [configs, List.map_flatMap]
    refine List.flatMap_congr fun entry _ => ?_
    rw [SortedMap.keys, List.map_map, List.map_map]
    exact List.map_congr_left fun hop _ => Prod.ext entry.1.ofNetwork_network rfl
  rw [pairs, List.nodup_flatMap]
  refine ⟨fun entry _ => ?_, table.routes.ascending.imp fun before => ?_⟩
  · exact entry.2.nodup_keys.map fun _ _ same => (Prod.mk.inj same).2
  · rintro ⟨destination, nextHop⟩ inFirst inSecond
    obtain ⟨_, _, same⟩ := List.mem_map.1 inFirst
    obtain ⟨_, _, same'⟩ := List.mem_map.1 inSecond
    exact before.ne ((Prod.mk.inj same).1.trans (Prod.mk.inj same').1.symm)

theorem length_configs (table : StaticTable) : table.configs.length = table.size := by
  rw [configs, List.length_flatMap, size, SortedMap.values, List.map_map]
  congr 1
  exact List.map_congr_left fun entry _ => List.length_map ..

/-- The size of a table is the number of its pairs. -/
theorem encard_distanceOf (table : StaticTable) :
    Set.encard {pair | table.distanceOf pair ≠ none} = table.size := by
  have listed : {pair | table.distanceOf pair ≠ none} =
      ((table.configs.map StaticRoute.pair).toFinset : Set (Prefix × NextHop)) := by
    ext pair
    rw [List.coe_toFinset, Set.mem_ofPred_eq, Set.mem_ofPred_eq, List.mem_map,
      exists_mem_configs_iff]
  rw [listed, Set.encard_coe_eq_coe_finsetCard,
    List.toFinset_card_of_nodup table.nodup_pairs_configs, List.length_map, length_configs]

/-! ### Tables made of their routes -/

section Listed

variable {routes : List StaticRoute} {pair : Prefix × NextHop}

theorem lastDistance?_eq_none (absent : ∀ route ∈ routes, route.pair ≠ pair) :
    lastDistance? routes pair.1 pair.2 = none := by
  induction routes with
  | nil => rfl
  | cons route rest inductionHypothesis =>
    obtain ⟨isOther, restOther⟩ := List.forall_mem_cons.1 absent
    rw [lastDistance?_cons, inductionHypothesis restOther]
    exact if_neg fun own => isOther (Prod.ext own.1 own.2)

/-- If no pair is listed twice, then each has the distance that is listed with it. -/
theorem lastDistance?_of_mem (apart : (routes.map StaticRoute.pair).Nodup) {route : StaticRoute}
    (member : route ∈ routes) :
    lastDistance? routes route.pair.1 route.pair.2 = some route.distance := by
  induction routes with
  | nil => cases member
  | cons head rest inductionHypothesis =>
    obtain ⟨headApart, restApart⟩ := List.nodup_cons.1 apart
    rw [lastDistance?_cons]
    rcases List.mem_cons.1 member with rfl | inRest
    · rw [lastDistance?_eq_none fun other listed same =>
        headApart (List.mem_map.2 ⟨other, listed, same⟩)]
      exact if_pos ⟨rfl, rfl⟩
    · rw [inductionHypothesis restApart inRest, Option.some_or]

end Listed

/-- To add the routes that a table is made of to the empty table gives the same table. -/
theorem addAll_configs (hasNoEmpty : table.HasNoEmpty) : empty.addAll table.configs = table := by
  have full : (empty.addAll table.configs).HasNoEmpty :=
    List.foldlRecOn (motive := HasNoEmpty) _ _ hasNoEmpty_empty
      fun _ hasNoEmpty route _ => hasNoEmpty.add route
  refine eq_of_distanceOf_eq full hasNoEmpty (funext fun pair => ?_)
  have added : (empty.addAll table.configs).distanceOf pair =
      lastDistance? table.configs pair.1 pair.2 :=
    (find?_hopsOf_addAll empty table.configs).trans (Option.or_none)
  rw [added]
  by_cases absent : table.distanceOf pair = none
  · rw [absent]
    exact lastDistance?_eq_none fun route member own =>
      exists_mem_configs_iff.1 ⟨route, member, own⟩ absent
  · obtain ⟨route, member, rfl⟩ := exists_mem_configs_iff.2 absent
    rw [lastDistance?_of_mem table.nodup_pairs_configs member, (mem_configs_iff.1 member).2]

/-! ### Candidates by distance -/

theorem mem_hopsAt_iff {destination : Prefix} {distance : UInt8} {nextHop : NextHop} :
    nextHop ∈ hopsAt (table.hopsOf destination).entries distance ↔
      table.distanceOf (destination, nextHop) = some distance := by
  rw [distanceOf_apply, SortedMap.find?_eq_some_iff, hopsAt, List.mem_map]
  constructor
  · rintro ⟨hop, member, rfl⟩
    obtain ⟨listed, own⟩ := List.mem_filter.1 member
    exact of_decide_eq_true own ▸ listed
  · exact fun listed => ⟨_, List.mem_filter.2 ⟨listed, decide_eq_true rfl⟩, rfl⟩

/-- The candidates of a prefix part its pairs by distance. -/
theorem partitions_candidates (table : StaticTable) (vrf : UInt32) (destination : Prefix) :
    table.distanceOf.Partitions vrf destination (table.candidates vrf destination) where
  ascending := by
    rw [candidates_eq, List.pairwise_map]
    have ascends : ∀ first second : UInt8, OrderKey.Before first second → first < second := by
      intro first second before
      have codes : [first.toNat] < [second.toNat] := before
      simpa [List.cons_lt_cons_iff, UInt8.lt_iff_toNat_lt] using codes
    exact List.pairwise_map.2 ((SortedSet.ofList _).ascending.imp (ascends _ _))
  complete distance := by
    have configured : distance ∈ table.distances destination ↔
        ∃ nextHop, table.distanceOf (destination, nextHop) = some distance :=
      SortedSet.mem_keys_ofList.trans SortedMap.mem_values_iff
    rw [← configured]
    simp [candidates_eq, candidateAt]
  exact candidate member := by
    obtain ⟨distance, _, rfl⟩ := mem_candidates_iff.1 member
    refine ⟨hopsAt (table.hopsOf destination).entries distance, ?_, fun _ => mem_hopsAt_iff, rfl⟩
    exact List.pairwise_map.2 ((table.hopsOf destination).ascending.filter _)

/-! ### Histories -/

/-- A table that was reached from the empty one is the map that was. -/
theorem distanceOf_history (operations : List StaticOperation) :
    (history operations).distanceOf = StaticDistances.history operations ∧
      (history operations).HasNoEmpty := by
  induction operations using List.reverseRecOn with
  | nil => exact ⟨rfl, hasNoEmpty_empty⟩
  | append_singleton operations operation inductionHypothesis =>
    obtain ⟨same, hasNoEmpty⟩ := inductionHypothesis
    have last : history (operations ++ [operation]) =
        ((history operations).perform operation).2 :=
      List.foldl_concat ..
    have lastDistances : StaticDistances.history (operations ++ [operation]) =
        (StaticDistances.history operations).after operation :=
      List.foldl_concat ..
    rw [last, lastDistances, distanceOf_perform, same]
    exact ⟨rfl, hasNoEmpty.perform operation⟩

/-- After any operations, a table of static routes is the map from pairs of a prefix and a next
hop to distances that the same operations make, and whatever is asked of it is told from that
map: the answer of a further operation, the number of routes, and the candidates of a prefix. -/
theorem history_faithful (operations : List StaticOperation) :
    (history operations).distanceOf = StaticDistances.history operations ∧
      (∀ operation, (StaticDistances.history operations).Answers
        ((history operations).perform operation).1 operation) ∧
      (history operations).HasNoEmpty ∧
      Set.encard {pair | StaticDistances.history operations pair ≠ none} =
        (history operations).size ∧
      (∀ vrf destination, (StaticDistances.history operations).Partitions vrf destination
        ((history operations).candidates vrf destination)) ∧
      empty.addAll (history operations).configs = history operations := by
  obtain ⟨same, hasNoEmpty⟩ := distanceOf_history operations
  rw [← same]
  exact ⟨rfl, answers_perform _, hasNoEmpty, encard_distanceOf _, partitions_candidates _,
    addAll_configs hasNoEmpty⟩

end StaticTable

end ControlPlane
