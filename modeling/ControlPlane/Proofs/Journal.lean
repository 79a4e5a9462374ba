/-
This file proves that a journal keeps its latest entries. One invariant covers a
ring that still has room and one that has gone around any number of times: the
entry with some number, if it is among the latest, lies at that number modulo the
capacity. When the ring is full, the place of the oldest entry is therefore the
one that the next number comes to, and reading as many places as there are
entries, from the oldest one on, meets the latest numbers in their order.
-/

import ControlPlane.Journal
import Mathlib.Data.List.Basic

namespace ControlPlane

namespace Journal

variable {Entry : Type} {journal : Journal Entry} {entries : List Entry}

/-! ### Where the entries lie -/

/-- Numbers that are congruent and less than the modulus apart are equal. -/
theorem eq_of_mod_eq {first second modulus : Nat} (congruent : second % modulus = first % modulus)
    (ordered : first ≤ second) (near : second < first + modulus) : second = first := by
  have divides : modulus ∣ second - first :=
    Nat.dvd_of_mod_eq_zero (Nat.sub_mod_eq_zero_of_mod_eq congruent)
  have same : second - first = 0 := Nat.eq_zero_of_dvd_of_lt divides (by omega)
  omega

/-- The journal holds the latest of the given entries, as many as fit, each at its number modulo
the capacity. -/
structure Records (journal : Journal Entry) (entries : List Entry) : Prop where
  capacity : 0 < journal.capacity
  generated : journal.generated = entries.length
  count : journal.count = journal.ring.size
  size : journal.ring.size = min entries.length journal.capacity
  oldest : journal.oldest = (entries.length - journal.ring.size) % journal.capacity
  ring : ∀ number, entries.length - journal.ring.size ≤ number → number < entries.length →
    journal.ring[number % journal.capacity]? = entries[number]?.map fun entry => (number, entry)

theorem records_create (name : String) (capacity : Nat) :
    (create name capacity : Journal Entry).Records [] where
  capacity := Nat.lt_of_lt_of_le Nat.one_pos (Nat.le_max_left 1 capacity)
  generated := rfl
  count := rfl
  size := (Nat.zero_min _).symm
  oldest := (Nat.zero_mod _).symm
  ring number _ before := absurd before (Nat.not_lt_zero number)

theorem capacity_add (journal : Journal Entry) (entry : Entry) :
    (journal.add entry).capacity = journal.capacity := by
  unfold add
  dsimp only
  split <;> rfl

/-- While there is room, the entries lie at their numbers and the next one goes behind them. -/
theorem Records.add_of_room (records : journal.Records entries)
    (room : journal.count < journal.capacity) (entry : Entry) :
    (journal.add entry).Records (entries ++ [entry]) := by
  have count : journal.count = journal.ring.size := records.count
  have held := records.size
  have size : journal.ring.size = entries.length := by omega
  have added : journal.add entry =
      { journal with
        ring := journal.ring.push (journal.generated, entry)
        count := journal.count + 1
        generated := journal.generated + 1 } :=
    if_pos room
  rw [added]
  refine ⟨records.capacity, ?_, ?_, ?_, ?_, fun number _ before => ?_⟩
  · rw [List.length_append, ← records.generated]
    rfl
  · rw [Array.size_push, ← count]
  · show (journal.ring.push (journal.generated, entry)).size = min _ journal.capacity
    rw [Array.size_push, List.length_append, List.length_singleton, size]
    omega
  · rw [Array.size_push, List.length_append, List.length_singleton, size, Nat.sub_self]
    exact records.oldest.trans (by rw [size, Nat.sub_self])
  · rw [List.length_append, List.length_singleton] at before
    have inRing : number % journal.capacity = number := Nat.mod_eq_of_lt (by omega)
    show (journal.ring.push (journal.generated, entry))[number % journal.capacity]? = _
    rw [inRing, Array.getElem?_push, records.generated, size]
    by_cases here : number = entries.length
    · simp [here]
    · have earlier : number < entries.length := by omega
      have listed := records.ring number (by omega) earlier
      rw [inRing] at listed
      rw [if_neg here, listed, List.getElem?_append_left earlier]

/-- Once there is no room, the next entry goes to the place of the oldest one. -/
theorem Records.add_of_full (records : journal.Records entries)
    (full : ¬ journal.count < journal.capacity) (entry : Entry) :
    (journal.add entry).Records (entries ++ [entry]) := by
  have positive := records.capacity
  have count : journal.count = journal.ring.size := records.count
  have held := records.size
  have size : journal.ring.size = journal.capacity := by omega
  have most : journal.capacity ≤ entries.length := by omega
  have oldest : journal.oldest = (entries.length - journal.capacity) % journal.capacity := by
    rw [records.oldest, size]
  have added : journal.add entry =
      { journal with
        ring := journal.ring.setIfInBounds journal.oldest (journal.generated, entry)
        oldest := (journal.oldest + 1) % journal.capacity
        generated := journal.generated + 1 } :=
    if_neg full
  rw [added]
  refine ⟨positive, ?_, ?_, ?_, ?_, fun number latest before => ?_⟩
  · rw [List.length_append, ← records.generated]
    rfl
  · rw [Array.size_setIfInBounds]
    exact count
  · show (journal.ring.setIfInBounds journal.oldest _).size = min _ journal.capacity
    rw [Array.size_setIfInBounds, List.length_append, size]
    omega
  · show (journal.oldest + 1) % journal.capacity = _
    rw [Array.size_setIfInBounds, List.length_append, List.length_singleton, size, oldest,
      Nat.mod_add_mod]
    congr 1
    omega
  · rw [Array.size_setIfInBounds, List.length_append, List.length_singleton, size] at latest
    rw [List.length_append, List.length_singleton] at before
    show (journal.ring.setIfInBounds journal.oldest (journal.generated, entry))[
      number % journal.capacity]? = _
    rw [Array.getElem?_setIfInBounds, records.generated]
    by_cases here : number = entries.length
    · -- The new number is the capacity above the oldest one, so it comes to the same place.
      have place : journal.oldest = number % journal.capacity := by
        rw [oldest, here, ← Nat.mod_eq_sub_mod most]
      have inRing : journal.oldest < journal.ring.size := by
        rw [oldest, size]
        exact Nat.mod_lt _ positive
      rw [if_pos place, if_pos inRing, here]
      simp
    · -- The other latest numbers are less than the capacity above it, so they keep their places.
      have earlier : number < entries.length := by omega
      have elsewhere : journal.oldest ≠ number % journal.capacity := fun same => by
        rw [oldest] at same
        have := eq_of_mod_eq same.symm (by omega) (by omega)
        omega
      rw [if_neg elsewhere, records.ring number (by omega) earlier,
        List.getElem?_append_left earlier]

theorem Records.add (records : journal.Records entries) (entry : Entry) :
    (journal.add entry).Records (entries ++ [entry]) := by
  by_cases room : journal.count < journal.capacity
  · exact records.add_of_room room entry
  · exact records.add_of_full room entry

theorem Records.addAll {earlier : List Entry} (records : journal.Records earlier)
    (later : List Entry) : (journal.addAll later).Records (earlier ++ later) := by
  induction later generalizing journal earlier with
  | nil => rwa [List.append_nil]
  | cons entry rest inductionHypothesis =>
    rw [← List.singleton_append, ← List.append_assoc]
    exact inductionHypothesis (records.add entry)

theorem capacity_addAll (journal : Journal Entry) (entries : List Entry) :
    (journal.addAll entries).capacity = journal.capacity := by
  induction entries generalizing journal with
  | nil => rfl
  | cons entry rest inductionHypothesis =>
    exact (inductionHypothesis (journal.add entry)).trans (capacity_add journal entry)

/-! ### What is read -/

/-- To look up the numbers behind a beginning of a list is to number the rest of it. -/
theorem filterMap_range'_getElem? (earlier later : List Entry) :
    ((List.range' earlier.length later.length).filterMap fun number =>
        (earlier ++ later)[number]?.map fun entry => (number, entry)) =
      (List.range' earlier.length later.length).zip later := by
  induction later generalizing earlier with
  | nil => rfl
  | cons entry rest inductionHypothesis =>
    have others := inductionHypothesis (earlier ++ [entry])
    rw [List.append_assoc, List.singleton_append, List.length_append, List.length_singleton]
      at others
    rw [List.length_cons, List.range'_succ, List.zip_cons_cons, List.filterMap_cons, ← others]
    simp

theorem Records.places_eq (records : journal.Records entries) :
    journal.places = (List.range' (entries.length - journal.ring.size) journal.ring.size).map
      (· % journal.capacity) := by
  rw [places, records.count, List.range'_eq_map_range, List.map_map]
  refine List.map_congr_left fun age _ => ?_
  rw [records.oldest, Nat.mod_add_mod]
  rfl

/-- Every place that is read holds an entry. -/
theorem Records.place_lt (records : journal.Records entries) {place : Nat}
    (read : place ∈ journal.places) : place < journal.ring.size := by
  rw [records.places_eq, List.mem_map] at read
  obtain ⟨number, listed, rfl⟩ := read
  rw [List.mem_range'_1] at listed
  have size := records.size
  have held := records.ring number listed.1 (by omega)
  rw [List.getElem?_eq_getElem (by omega)] at held
  exact (Array.getElem?_eq_some_iff.1 held).1

theorem Records.oldest_lt (records : journal.Records entries)
    (full : ¬ journal.count < journal.capacity) : journal.oldest < journal.ring.size := by
  have bound : journal.oldest < journal.capacity := by
    rw [records.oldest]
    exact Nat.mod_lt _ records.capacity
  have count := records.count
  omega

theorem Records.kept_eq (records : journal.Records entries) :
    journal.kept = (List.range' (entries.length - journal.ring.size) journal.ring.size).zip
      (entries.drop (entries.length - journal.ring.size)) := by
  have size := records.size
  have read : journal.kept =
      (List.range' (entries.length - journal.ring.size) journal.ring.size).filterMap fun number =>
        entries[number]?.map fun entry => (number, entry) := by
    rw [kept, records.places_eq, List.filterMap_map]
    refine List.filterMap_congr fun number listed => ?_
    rw [List.mem_range'_1] at listed
    exact records.ring number listed.1 (by omega)
  have numbered := filterMap_range'_getElem? (entries.take (entries.length - journal.ring.size))
    (entries.drop (entries.length - journal.ring.size))
  have dropped : (entries.drop (entries.length - journal.ring.size)).length =
      journal.ring.size := by
    rw [List.length_drop]
    omega
  rw [List.take_append_drop, dropped, List.length_take_of_le (Nat.sub_le _ _)] at numbered
  rw [read, numbered]

/-- After any number of additions a journal keeps exactly the latest entries, as many as it has
room for, oldest first and with the numbers of their additions. It knows how many it keeps and how
many there have been. The place of the oldest entry, which is where the next one goes when there
is no room, and the places that are read all lie in the ring. -/
theorem kept_addAll_create (name : String) (capacity : Nat) (entries : List Entry) :
    let journal := (create name capacity : Journal Entry).addAll entries
    let room := min entries.length (max 1 capacity)
    journal.capacity = max 1 capacity ∧
      journal.kept = (List.range' (entries.length - room) room).zip
        (entries.drop (entries.length - room)) ∧
      journal.size = room ∧ journal.generated = entries.length ∧
      (journal.count < journal.capacity ∨ journal.oldest < journal.ring.size) ∧
      ∀ place ∈ journal.places, place < journal.ring.size := by
  intro journal room
  have records : journal.Records entries := (records_create name capacity).addAll entries
  have size : journal.ring.size = room := by
    rw [records.size, capacity_addAll]
    rfl
  refine ⟨capacity_addAll _ entries, ?_, records.count.trans size, records.generated, ?_,
    fun place read => records.place_lt read⟩
  · rw [records.kept_eq, size]
  · by_cases hasRoom : journal.count < journal.capacity
    · exact Or.inl hasRoom
    · exact Or.inr (records.oldest_lt hasRoom)

/-- Of five entries a journal for three keeps the last three. -/
example : ((create "" 3).addAll ["a", "b", "c", "d", "e"]).kept =
    [(2, "c"), (3, "d"), (4, "e")] := by
  decide

end Journal

end ControlPlane
