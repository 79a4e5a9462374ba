/-
This file proves that an address is forwarded by the longest prefix that covers
it, after any history of additions and removals. Two facts carry the proof. What
is stored for a prefix depends on the last change of that prefix alone, and it is
a route to that prefix. And the prefixes that cover one address are told apart by
their lengths, since each is the address cut to its length, so that a longest one
is longer than every other one.

The routes may as well lie in two maps of a library, one for each family, which
are asked for the prefix of a host. All that is needed of the library is that it
finds what was stored last, and some longest prefix that contains a given one.
-/

import ControlPlane.Fib
import ControlPlane.Proofs.Prefix

namespace ControlPlane

/-! ### Prefixes that cover an address -/

namespace Prefix

/-- At each length at most one prefix covers an address. -/
theorem eq_of_covers {first second : Prefix} {address : Address}
    (firstCovers : first.covers address = true) (secondCovers : second.covers address = true)
    (sameLength : first.length = second.length) : first = second := by
  refine eq_of_address_eq ?_ sameLength
  rw [← (covers_iff.1 firstCovers).2, ← (covers_iff.1 secondCovers).2, sameLength]

/-- The prefix lies in another one. -/
def liesIn (inner outer : Prefix) : Bool :=
  outer.length ≤ inner.length && outer.covers inner.address

/-- The prefix of a host lies in the prefixes that cover the host. -/
theorem liesIn_host (destination : Prefix) (address : Address) :
    (host address).liesIn destination = destination.covers address := by
  rw [liesIn, address_host]
  cases covers : destination.covers address with
  | false => exact Bool.and_false _
  | true =>
    have fits : destination.length ≤ address.family.width := by
      rw [(covers_iff.1 covers).1]
      exact destination.network.length_le
    rw [Bool.and_true, decide_eq_true_iff]
    exact fits

end Prefix

/-! ### Histories of changes -/

/-- A change of a forwarding table. -/
inductive FibChange
  | add (route : ForwardingRoute)
  | remove (destination : Prefix)

namespace FibChange

/-- The prefix that the change is about. -/
def destination : FibChange → Prefix
  | add route => route.destination
  | remove destination => destination

/-- The route that the change leaves at its prefix. -/
def route? : FibChange → Option ForwardingRoute
  | add route => some route
  | remove _ => none

/-- The route that the last change of a prefix leaves. -/
def lastRoute? (changes : List FibChange) (destination : Prefix) : Option ForwardingRoute :=
  (changes.reverse.find? fun change => change.destination = destination).bind route?

/-- The route of a prefix is the one added last, unless the prefix was changed again later. -/
theorem lastRoute?_eq_some_iff {changes : List FibChange} {destination : Prefix}
    {route : ForwardingRoute} :
    lastRoute? changes destination = some route ↔
      route.destination = destination ∧ ∃ earlier later, changes = earlier ++ add route :: later ∧
        ∀ change ∈ later, change.destination ≠ destination := by
  constructor
  · intro last
    obtain ⟨change, found, isRoute⟩ := Option.bind_eq_some_iff.1 last
    obtain ⟨own, later, earlier, reversed, others⟩ := List.find?_eq_some_iff_append.1 found
    cases change with
    | add added =>
      cases isRoute
      refine ⟨of_decide_eq_true own, earlier.reverse, later.reverse, ?_, fun change member => ?_⟩
      · rw [← List.reverse_reverse changes, reversed]
        simp
      · simpa using others change (List.mem_reverse.1 member)
    | remove _ => cases isRoute
  · rintro ⟨rfl, earlier, later, rfl, others⟩
    refine Option.bind_eq_some_iff.2 ⟨add route, ?_, rfl⟩
    refine List.find?_eq_some_iff_append.2 ⟨decide_eq_true rfl, later.reverse, earlier.reverse,
      by simp, fun change member => ?_⟩
    simpa using others change (List.mem_reverse.1 member)

/-- Changes of other families do not matter to a prefix. -/
theorem lastRoute?_filter (changes : List FibChange) (destination : Prefix) :
    lastRoute? (changes.filter fun change => change.destination.family = destination.family)
      destination = lastRoute? changes destination := by
  rw [lastRoute?, lastRoute?, ← List.filter_reverse, List.find?_filter]
  congr 2
  funext change
  by_cases here : change.destination = destination <;> simp [here]

/-- A table that starts empty and does what a change says lists the last routes. -/
theorem find?_foldl {Table : Type} {find? : Table → Prefix → Option ForwardingRoute}
    {absorb : Table → FibChange → Table} {start : Table}
    (find?_start : ∀ destination, find? start destination = none)
    (find?_absorb : ∀ table change destination, find? (absorb table change) destination =
      if change.destination = destination then change.route? else find? table destination)
    (changes : List FibChange) (destination : Prefix) :
    find? (changes.foldl absorb start) destination = lastRoute? changes destination := by
  rw [lastRoute?, List.foldl_eq_foldr_reverse]
  induction changes.reverse with
  | nil => exact find?_start destination
  | cons change earlier inductionHypothesis =>
    rw [List.foldr_cons, find?_absorb, List.find?_cons, inductionHypothesis]
    by_cases here : change.destination = destination <;> simp [here]

end FibChange

/-! ### The longest match -/

/-- An entry with the longest one of the listed prefixes that a test accepts, or none if it accepts
none of them. -/
def IsLongest (find? : Prefix → Option ForwardingRoute) (accepts : Prefix → Bool) :
    Option (Prefix × ForwardingRoute) → Prop
  | none => ∀ destination, find? destination ≠ none → accepts destination = false
  | some (destination, route) =>
    find? destination = some route ∧ accepts destination = true ∧
      ∀ other, find? other ≠ none → accepts other = true → other.length ≤ destination.length

/-- What a history of changes makes of a forwarding table, told by the routes that it finds for a
prefix and for an address. -/
structure IsLongestMatch (find? : List FibChange → Prefix → Option ForwardingRoute)
    (lookup : List FibChange → Address → Option ForwardingRoute) : Prop where
  /-- The route of a prefix is the one added last, if the prefix was not changed again. -/
  find?_eq_some_iff : ∀ changes destination route, find? changes destination = some route ↔
    route.destination = destination ∧
      ∃ earlier later, changes = earlier ++ .add route :: later ∧
        ∀ change ∈ later, change.destination ≠ destination
  /-- No route is found for an address that no stored prefix covers, and only then. -/
  lookup_eq_none_iff : ∀ changes address, lookup changes address = none ↔
    ∀ destination, find? changes destination ≠ none → destination.covers address = false
  /-- The route of an address is stored under its own prefix, which covers the address and is
  longer than every other stored prefix that does. -/
  lookup_eq_some_iff : ∀ changes address route, lookup changes address = some route ↔
    find? changes route.destination = some route ∧ route.destination.covers address = true ∧
      ∀ other, find? changes other ≠ none → other.covers address = true →
        other ≠ route.destination → other.length < route.destination.length
  /-- The changes of the other family do not matter to an address. -/
  lookup_filter : ∀ changes address,
    lookup (changes.filter fun change => change.destination.family = address.family) address =
      lookup changes address

namespace IsLongest

variable {find? : Prefix → Option ForwardingRoute} {accepts : Prefix → Bool} {address : Address}
  {best? : Option (Prefix × ForwardingRoute)}

/-- Only the accepted prefixes matter. -/
theorem congr {others? : Prefix → Option ForwardingRoute}
    (alike : ∀ destination, accepts destination = true →
      others? destination = find? destination)
    (isLongest : IsLongest find? accepts best?) : IsLongest others? accepts best? := by
  cases best? with
  | none =>
    intro destination isListed
    refine Bool.eq_false_iff.2 fun accepted => ?_
    rw [alike destination accepted] at isListed
    exact Bool.eq_false_iff.1 (isLongest destination isListed) accepted
  | some entry =>
    obtain ⟨found, accepted, longest⟩ := isLongest
    refine ⟨(alike _ accepted).trans found, accepted, fun other isListed otherAccepted => ?_⟩
    exact longest other (alike other otherAccepted ▸ isListed) otherAccepted

/-- The longest entry is unique if routes are listed under their own prefixes. -/
theorem route_eq_some_iff (isLongest : IsLongest find? (·.covers address) best?)
    (own : ∀ destination route, find? destination = some route → route.destination = destination)
    (route : ForwardingRoute) :
    best?.map Prod.snd = some route ↔ find? route.destination = some route ∧
      route.destination.covers address = true ∧
        ∀ other, find? other ≠ none → other.covers address = true →
          other ≠ route.destination → other.length < route.destination.length := by
  cases best? with
  | none =>
    refine ⟨nofun, fun ⟨found, covers, _⟩ => ?_⟩
    have uncovered := isLongest route.destination (by simp [found])
    exact absurd covers (Bool.eq_false_iff.1 uncovered)
  | some entry =>
    obtain ⟨destination, best⟩ := entry
    obtain ⟨found, covers, longest⟩ := isLongest
    cases own destination best found
    refine ⟨fun same => ?_, fun ⟨routeFound, routeCovers, routeLongest⟩ => ?_⟩
    · cases same
      refine ⟨found, covers, fun other isListed otherCovers different => ?_⟩
      refine Nat.lt_of_le_of_ne (longest other isListed otherCovers) fun sameLength => ?_
      exact different (Prefix.eq_of_covers otherCovers covers sameLength)
    · by_cases same : best.destination = route.destination
      · rw [Option.map_some, ← found, same, routeFound]
      · have shorter := routeLongest best.destination (by simp [found]) covers same
        have notShorter := longest route.destination (by simp [routeFound]) routeCovers
        exact absurd shorter (Nat.not_lt.2 notShorter)

theorem route_eq_none_iff (isLongest : IsLongest find? (·.covers address) best?) :
    best?.map Prod.snd = none ↔
      ∀ destination, find? destination ≠ none → destination.covers address = false := by
  cases best? with
  | none => exact ⟨fun _ => isLongest, fun _ => rfl⟩
  | some entry =>
    obtain ⟨found, covers, _⟩ := isLongest
    refine ⟨nofun, fun uncovered => ?_⟩
    exact absurd covers (Bool.eq_false_iff.1 (uncovered entry.1 (by simp [found])))

end IsLongest

/-- It is enough that a prefix has the route of its last change and that an address has the route
of a longest prefix that covers it. -/
theorem isLongestMatch_of_isLongest {find? : List FibChange → Prefix → Option ForwardingRoute}
    {best? : List FibChange → Address → Option (Prefix × ForwardingRoute)}
    (isLast : ∀ changes, find? changes = FibChange.lastRoute? changes)
    (isLongest : ∀ changes address,
      IsLongest (find? changes) (·.covers address) (best? changes address)) :
    IsLongestMatch find? fun changes address => (best? changes address).map Prod.snd := by
  have own : ∀ changes destination route, find? changes destination = some route →
      route.destination = destination := fun changes destination route found =>
    (FibChange.lastRoute?_eq_some_iff.1 (isLast changes ▸ found)).1
  refine ⟨fun changes destination route => ?_, fun changes address => ?_,
    fun changes address => ?_, fun changes address => ?_⟩
  · rw [isLast]
    exact FibChange.lastRoute?_eq_some_iff
  · exact (isLongest changes address).route_eq_none_iff
  · exact (isLongest changes address).route_eq_some_iff (own changes)
  · -- a prefix that covers the address is of its family, so it has the same route in both
    have alike : ∀ destination, destination.covers address = true → find? changes destination =
        find? (changes.filter fun change => change.destination.family = address.family)
          destination := fun destination covers => by
      rw [isLast, isLast, (Prefix.covers_iff.1 covers).1]
      exact (FibChange.lastRoute?_filter changes destination).symm
    refine Option.ext fun route => ?_
    rw [(isLongest changes address).route_eq_some_iff (own changes)]
    exact ((isLongest _ address).congr alike).route_eq_some_iff (own changes) route

/-! ### The forwarding table -/

namespace Fib

def absorb (fib : Fib) : FibChange → Fib
  | .add route => fib.add route
  | .remove destination => fib.remove destination

/-- The table after some changes of an empty one. -/
def history (vrf : UInt32) (changes : List FibChange) : Fib :=
  changes.foldl absorb (empty vrf)

theorem find?_absorb (fib : Fib) (change : FibChange) (destination : Prefix) :
    (fib.absorb change).find? destination =
      if change.destination = destination then change.route? else fib.find? destination := by
  cases change with
  | add route => exact SortedMap.find?_insert _ _ _ _
  | remove removed => exact SortedMap.find?_erase _ _ _

theorem find?_history (vrf : UInt32) (changes : List FibChange) :
    (history vrf changes).find? = FibChange.lastRoute? changes :=
  funext fun destination => FibChange.find?_foldl (fun _ => rfl) find?_absorb changes destination

/-- The longest one of no entries is none, and that of others is a listed one. -/
theorem longest?_cases (entries : List (Prefix × ForwardingRoute)) :
    longest? entries = none ∧ entries = [] ∨
      ∃ best, longest? entries = some best ∧ best ∈ entries ∧
        ∀ entry ∈ entries, entry.1.length ≤ best.1.length := by
  induction entries with
  | nil => exact .inl ⟨rfl, rfl⟩
  | cons entry rest inductionHypothesis =>
    refine .inr ?_
    rw [longest?]
    rcases inductionHypothesis with ⟨nothing, rfl⟩ | ⟨best, found, member, longest⟩
    · exact ⟨entry, rfl, List.mem_singleton_self _, fun listed member =>
        List.mem_singleton.1 member ▸ Nat.le_refl _⟩
    · rw [found]
      dsimp only
      split
      next longer =>
        refine ⟨entry, rfl, List.mem_cons_self, List.forall_mem_cons.2 ⟨Nat.le_refl _, ?_⟩⟩
        exact fun listed inRest => Nat.le_trans (longest listed inRest) (Nat.le_of_lt longer)
      next notLonger =>
        refine ⟨best, rfl, List.mem_cons_of_mem _ member, List.forall_mem_cons.2 ⟨?_, longest⟩⟩
        exact Nat.le_of_not_lt notLonger

theorem isLongest_longest? (routes : SortedMap Prefix ForwardingRoute) (accepts : Prefix → Bool) :
    IsLongest routes.find? accepts
      (longest? (routes.entries.filter fun entry => accepts entry.1)) := by
  have listed : ∀ other, routes.find? other ≠ none → accepts other = true →
      ∃ route, (other, route) ∈ routes.entries.filter fun entry => accepts entry.1 := by
    intro other isListed accepted
    obtain ⟨route, found⟩ := Option.ne_none_iff_exists'.1 isListed
    exact ⟨route, List.mem_filter.2 ⟨SortedMap.find?_eq_some_iff.1 found, accepted⟩⟩
  rcases longest?_cases (routes.entries.filter fun entry => accepts entry.1) with
    ⟨nothing, isEmpty⟩ | ⟨best, found, member, longest⟩
  · rw [nothing]
    refine fun destination isListed => Bool.eq_false_iff.2 fun accepted => ?_
    obtain ⟨route, member⟩ := listed destination isListed accepted
    rw [isEmpty] at member
    cases member
  · rw [found]
    obtain ⟨isListed, accepted⟩ := List.mem_filter.1 member
    refine ⟨SortedMap.find?_eq_some_iff.2 isListed, accepted, fun other otherListed also => ?_⟩
    obtain ⟨route, otherMem⟩ := listed other otherListed also
    exact longest _ otherMem

end Fib

/-! ### Tables over a library of maps -/

/-- A library of maps from the prefixes of a family to routes. -/
structure PrefixMaps where
  Map : Type
  empty : Map
  insert : Map → Prefix → ForwardingRoute → Map
  remove : Map → Prefix → Map
  get? : Map → Prefix → Option ForwardingRoute
  /-- The entry with the longest prefix in which a prefix lies. -/
  longestMatch? : Map → Prefix → Option (Prefix × ForwardingRoute)

/-- What is needed of a library: its maps list the route inserted last for each prefix, and a
longest listed prefix in which a given one lies is found. -/
structure PrefixMaps.IsFaithful (maps : PrefixMaps) : Prop where
  get?_empty : ∀ destination, maps.get? maps.empty destination = none
  get?_insert : ∀ map destination route listed,
    maps.get? (maps.insert map destination route) listed =
      if destination = listed then some route else maps.get? map listed
  get?_remove : ∀ map destination listed, maps.get? (maps.remove map destination) listed =
    if destination = listed then none else maps.get? map listed
  isLongest : ∀ map inner, IsLongest (maps.get? map) inner.liesIn (maps.longestMatch? map inner)

/-- A forwarding table with a map of the library for each family. -/
structure FibOver (maps : PrefixMaps) where
  ipv4 : maps.Map
  ipv6 : maps.Map

namespace FibOver

variable {maps : PrefixMaps}

def empty : FibOver maps :=
  ⟨maps.empty, maps.empty⟩

/-- The map of a family. -/
def mapOf (table : FibOver maps) : Family → maps.Map
  | .ipv4 => table.ipv4
  | .ipv6 => table.ipv6

/-- Changes the map of a family. -/
def update (table : FibOver maps) (family : Family) (change : maps.Map → maps.Map) :
    FibOver maps :=
  match family with
  | .ipv4 => { table with ipv4 := change table.ipv4 }
  | .ipv6 => { table with ipv6 := change table.ipv6 }

theorem mapOf_update (table : FibOver maps) (family other : Family)
    (change : maps.Map → maps.Map) :
    (table.update family change).mapOf other =
      if family = other then change (table.mapOf other) else table.mapOf other := by
  cases family <;> cases other <;> rfl

def absorb (table : FibOver maps) : FibChange → FibOver maps
  | .add route =>
    table.update route.destination.family fun map => maps.insert map route.destination route
  | .remove destination =>
    table.update destination.family fun map => maps.remove map destination

/-- The table after some changes of an empty one. -/
def history (changes : List FibChange) : FibOver maps :=
  changes.foldl absorb empty

/-- The route of a prefix. -/
def find? (table : FibOver maps) (destination : Prefix) : Option ForwardingRoute :=
  maps.get? (table.mapOf destination.family) destination

/-- The longest match of the prefix of a host. -/
def longestMatch? (table : FibOver maps) (address : Address) : Option (Prefix × ForwardingRoute) :=
  maps.longestMatch? (table.mapOf address.family) (Prefix.host address)

/-- The route by which an address is forwarded. -/
def lookup (table : FibOver maps) (address : Address) : Option ForwardingRoute :=
  (table.longestMatch? address).map Prod.snd

section IsFaithful

variable (isFaithful : maps.IsFaithful)
include isFaithful

theorem find?_absorb (table : FibOver maps) (change : FibChange) (destination : Prefix) :
    (table.absorb change).find? destination =
      if change.destination = destination then change.route? else table.find? destination := by
  have elsewhere : ∀ {changed : Prefix}, changed.family ≠ destination.family →
      changed ≠ destination := fun different same => different (congrArg Prefix.family same)
  cases change with
  | add route =>
    rw [absorb, find?, mapOf_update]
    split
    next => exact isFaithful.get?_insert _ _ _ _
    next different => exact (if_neg (elsewhere different)).symm
  | remove removed =>
    rw [absorb, find?, mapOf_update]
    split
    next => exact isFaithful.get?_remove _ _ _
    next different => exact (if_neg (elsewhere different)).symm

theorem find?_history (changes : List FibChange) :
    (history changes : FibOver maps).find? = FibChange.lastRoute? changes := by
  funext destination
  refine FibChange.find?_foldl (fun destination => ?_) (find?_absorb isFaithful) changes destination
  rw [find?, empty]
  cases destination.family <;> exact isFaithful.get?_empty destination

/-- What the prefix of a host lies in are the prefixes that cover the host, and they are listed in
the map of its family. -/
theorem isLongest_longestMatch? (table : FibOver maps) (address : Address) :
    IsLongest table.find? (·.covers address) (table.longestMatch? address) := by
  have ofHost := isFaithful.isLongest (table.mapOf address.family) (Prefix.host address)
  have accepts : (Prefix.host address).liesIn = (·.covers address) :=
    funext fun destination => Prefix.liesIn_host destination address
  rw [accepts] at ofHost
  refine ofHost.congr fun destination covers => ?_
  rw [find?, (Prefix.covers_iff.1 covers).1]

end IsFaithful

end FibOver

/-! ### Lookups after a history -/

/-- After every history of changes, a prefix has the route of its last change, and an address the
route of the longest prefix that covers it. The same holds of a table over two maps of a faithful
library. -/
theorem Fib.isLongestMatch_history (vrf : UInt32) :
    IsLongestMatch (fun changes => (history vrf changes).find?)
        (fun changes => (history vrf changes).lookup) ∧
      ∀ maps : PrefixMaps, maps.IsFaithful →
        IsLongestMatch (fun changes => (FibOver.history changes : FibOver maps).find?)
          (fun changes => (FibOver.history changes : FibOver maps).lookup) := by
  refine ⟨isLongestMatch_of_isLongest (find?_history vrf) fun changes address => ?_,
    fun maps isFaithful => isLongestMatch_of_isLongest (FibOver.find?_history isFaithful)
      fun changes address => ?_⟩
  · exact isLongest_longest? (history vrf changes).routes fun destination =>
      destination.covers address
  · exact FibOver.isLongest_longestMatch? isFaithful (FibOver.history changes) address

/-- A library that keeps its maps in the order of the prefixes. -/
def sortedMaps : PrefixMaps where
  Map := SortedMap Prefix ForwardingRoute
  empty := SortedMap.empty
  insert := SortedMap.insert
  remove := SortedMap.erase
  get? := SortedMap.find?
  longestMatch? map inner := Fib.longest? (map.entries.filter fun entry => inner.liesIn entry.1)

theorem isFaithful_sortedMaps : sortedMaps.IsFaithful where
  get?_empty := SortedMap.find?_empty
  get?_insert map destination route listed := SortedMap.find?_insert map destination listed route
  get?_remove := SortedMap.find?_erase
  isLongest map inner := Fib.isLongest_longest? map inner.liesIn

/-- A route to a network over an interface. -/
def routeTo (network : Network) : ForwardingRoute where
  destination := .ofNetwork network
  origin := .static
  distance := 1
  metric := 0
  hops := [⟨none, "eth0", 1⟩]

/-- Routes to three networks, each in the one before, and to all addresses of the other family; the
route to the smallest network is removed. -/
def nestedChanges : List FibChange :=
  let smallest := routeTo ⟨.v4 0xAC110200, 24, by decide⟩
  [.add (routeTo ⟨.v4 0xAC100000, 12, by decide⟩), .add smallest,
    .add (routeTo ⟨.v4 0xAC110000, 16, by decide⟩), .add (routeTo ⟨.v6 0, 0, by decide⟩),
    .remove smallest.destination]

theorem Fib.isLongestMatch_of_nestedChanges :
    let table : FibOver sortedMaps := FibOver.history nestedChanges
    let route := routeTo ⟨.v4 0xAC110000, 16, by decide⟩
    sortedMaps.IsFaithful ∧ table.lookup (.v4 0xAC110203) = some route ∧
      (∀ other, table.find? other ≠ none → other.covers (.v4 0xAC110203) = true →
        other ≠ route.destination → other.length < route.destination.length) ∧
      ∀ destination, table.find? destination ≠ none →
        destination.covers (.v4 0x0B000000) = false := by
  intro table route
  have ofSorted := (isLongestMatch_history 0).2 sortedMaps isFaithful_sortedMaps
  have found : table.lookup (.v4 0xAC110203) = some route := by decide +kernel
  have missed : table.lookup (.v4 0x0B000000) = none := by decide +kernel
  have isLongest := (ofSorted.lookup_eq_some_iff nestedChanges _ route).1 found
  exact ⟨isFaithful_sortedMaps, found, isLongest.2.2,
    (ofSorted.lookup_eq_none_iff nestedChanges _).1 missed⟩

end ControlPlane
