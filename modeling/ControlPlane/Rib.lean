/-
This file holds the table of candidates of one family in a VRF. Every operation
on the table runs the selection where it has to and answers with the deltas of
the forwarding routes. A prefix without candidates is not kept.
-/

import ControlPlane.Rib.Selection

namespace ControlPlane

/-- The candidates of a family by prefix. -/
structure Rib where
  family : Family
  sets : SortedMap Prefix CandidateSet
  deriving DecidableEq

namespace Rib

def empty (family : Family) : Rib :=
  ⟨family, SortedMap.empty⟩

def size (rib : Rib) : Nat :=
  rib.sets.size

def isEmpty (rib : Rib) : Bool :=
  rib.sets.isEmpty

def find? (rib : Rib) (destination : Prefix) : Option CandidateSet :=
  rib.sets.find? destination

/-- The number of candidates in the table. -/
def candidateCount (rib : Rib) : Nat :=
  (rib.sets.values.map fun set => set.candidates.size).sum

def hopCount (rib : Rib) : Nat :=
  (rib.sets.values.map CandidateSet.hopCount).sum

/-- All next hops of the table: prefix, candidate and next hop, in the order of the table. -/
def hops (rib : Rib) : List (Prefix × Candidate × Hop) :=
  rib.sets.entries.flatMap fun entry =>
    entry.2.list.flatMap fun candidate => candidate.hops.map fun hop => (entry.1, candidate, hop)

/-- The candidates for a prefix, none if it has no entry. -/
def setAt (rib : Rib) (destination : Prefix) : CandidateSet :=
  (rib.find? destination).getD CandidateSet.empty

/-- Replaces the candidates for a prefix and selects its route. -/
def reselect (resolver : Resolver) (policy : SelectionPolicy) (rib : Rib) (destination : Prefix)
    (candidates : SortedMap CandidateKey Candidate) : Delta × Rib :=
  let changed := { rib.setAt destination with candidates }
  let (delta, selected) := changed.select resolver policy destination
  (delta, { rib with sets := rib.sets.insert destination selected })

/-- Adds a candidate, in the place of one with the same key. -/
def insert (resolver : Resolver) (policy : SelectionPolicy) (rib : Rib) (candidate : Candidate) :
    Delta × Rib :=
  rib.reselect resolver policy candidate.destination
    ((rib.setAt candidate.destination).candidates.insert candidate.key candidate)

/-- Removes the candidates of a prefix whose keys a test picks. Nothing is selected anew when it
picks none, and the prefix goes when it picks all. -/
def removeWhere (resolver : Resolver) (policy : SelectionPolicy) (rib : Rib) (destination : Prefix)
    (picks : CandidateKey → Bool) : Delta × Rib :=
  match rib.find? destination with
  | none => (.unchanged destination, rib)
  | some set =>
    let kept := set.candidates.filter fun key _ => !picks key
    if kept.size = set.candidates.size then (.unchanged destination, rib)
    else if kept.isEmpty then
      (.transition destination set.installed none,
        { rib with sets := rib.sets.erase destination })
    else rib.reselect resolver policy destination kept

/-- Removes the candidates of an origin for a prefix. -/
def withdraw (resolver : Resolver) (policy : SelectionPolicy) (rib : Rib) (destination : Prefix)
    (origin : Origin) : Delta × Rib :=
  rib.removeWhere resolver policy destination fun key => key.1 = origin

/-- Removes one candidate of an origin for a prefix. -/
def withdrawInstance (resolver : Resolver) (policy : SelectionPolicy) (rib : Rib)
    (destination : Prefix) (origin : Origin) (inst : UInt32) : Delta × Rib :=
  rib.removeWhere resolver policy destination fun key => key = (origin, inst)

/-- Exchanges the candidates of an origin for a prefix, in one selection. Candidates of another
prefix or origin are ignored. -/
def replaceOrigin (resolver : Resolver) (policy : SelectionPolicy) (rib : Rib)
    (destination : Prefix) (origin : Origin) (candidates : List Candidate) : Delta × Rib :=
  let own := candidates.filter fun candidate =>
    candidate.origin = origin && candidate.destination = destination
  if own.isEmpty then rib.withdraw resolver policy destination origin
  else
    let kept := (rib.setAt destination).candidates.filter fun key _ => key.1 ≠ origin
    rib.reselect resolver policy destination
      (own.foldl (fun map candidate => map.insert candidate.key candidate) kept)

/-- Selects the routes of all prefixes anew and answers with those that changed. -/
def refresh (resolver : Resolver) (policy : SelectionPolicy) (rib : Rib) : List Delta × Rib :=
  let selections := rib.sets.map fun destination set => set.select resolver policy destination
  ((selections.values.map Prod.fst).filter fun delta => !delta.isUnchanged,
    { rib with sets := selections.map fun _ selection => selection.2 })

/-- Removes all candidates and answers with the routes that go. -/
def purge (rib : Rib) : List Delta × Rib :=
  (rib.sets.values.filterMap fun set => set.installed.map .remove, empty rib.family)

end Rib

end ControlPlane
