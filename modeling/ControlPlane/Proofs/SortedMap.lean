/-
This file proves what the keys of a sorted map are: no key is listed twice, and
the listed keys are those that have a value; only these can be erased. A key that
is inserted or erased is the one that comes or goes. A set made from a list of
keys has the listed keys.
-/

import ControlPlane.SortedMap

namespace ControlPlane

namespace SortedMap

variable {Key Value Image : Type} [OrderKey Key]

/-- No key is listed twice. -/
theorem nodup_keys (map : SortedMap Key Value) : map.keys.Nodup :=
  List.pairwise_map.2 (map.ascending.imp fun before => before.ne)

theorem values_map (change : Key → Value → Image) (map : SortedMap Key Value) :
    (map.map change).values = map.entries.map fun entry => change entry.1 entry.2 := by
  rw [values, SortedMap.map, List.map_map]
  rfl

variable [DecidableEq Key]

/-- The listed keys are those that have a value. -/
theorem mem_keys_iff {map : SortedMap Key Value} {key : Key} :
    key ∈ map.keys ↔ ∃ value, map.find? key = some value := by
  simp only [find?_eq_some_iff]
  constructor
  · intro listed
    obtain ⟨⟨_, value⟩, member, rfl⟩ := List.mem_map.1 listed
    exact ⟨value, member⟩
  · rintro ⟨value, member⟩
    exact List.mem_map_of_mem member

theorem find?_eq_none_of_notMem {map : SortedMap Key Value} {key : Key} (absent : key ∉ map.keys) :
    map.find? key = none := by
  refine Option.eq_none_iff_forall_ne_some.2 fun value found => absent ?_
  exact mem_keys_iff.2 ⟨value, found⟩

/-- To erase a key that has no value changes nothing. -/
theorem erase_of_find?_eq_none {map : SortedMap Key Value} {key : Key}
    (absent : map.find? key = none) : map.erase key = map := by
  refine ext_find? fun listed => ?_
  rw [find?_erase]
  split
  next here => rw [← here, absent]
  next => rfl

theorem mem_keys_insert {map : SortedMap Key Value} {key listed : Key} {value : Value} :
    listed ∈ (map.insert key value).keys ↔ key = listed ∨ listed ∈ map.keys := by
  rw [mem_keys_iff, mem_keys_iff, find?_insert]
  by_cases here : key = listed <;> simp [here]

theorem mem_keys_erase {map : SortedMap Key Value} {key listed : Key} :
    listed ∈ (map.erase key).keys ↔ key ≠ listed ∧ listed ∈ map.keys := by
  rw [mem_keys_iff, mem_keys_iff, find?_erase]
  by_cases here : key = listed <;> simp [here]

theorem find?_eq_none_of_isEmpty {map : SortedMap Key Value} (isEmpty : map.isEmpty = true)
    (key : Key) : map.find? key = none := by
  rw [find?, List.isEmpty_iff.1 isEmpty, lookup]

/-- A map that is not empty has a key. -/
theorem exists_find?_of_isEmpty_eq_false {map : SortedMap Key Value}
    (isFull : map.isEmpty = false) :
    ∃ key value, map.find? key = some value := by
  obtain ⟨⟨key, value⟩, member⟩ := List.exists_mem_of_ne_nil map.entries
    (List.isEmpty_eq_false_iff.1 isFull)
  exact ⟨key, value, find?_eq_some_iff.2 member⟩

end SortedMap

namespace SortedSet

variable {Key : Type} [OrderKey Key] [DecidableEq Key]

/-- To insert what is in a set changes nothing. -/
theorem insert_of_contains {set : SortedSet Key} {key : Key} (has : set.contains key = true) :
    set.insert key () = set := by
  refine SortedMap.ext_find? fun listed => ?_
  rw [SortedMap.find?_insert]
  split
  next here =>
    obtain ⟨_, found⟩ := Option.isSome_iff_exists.1 has
    rw [← here, found]
  next => rfl

/-- A set made from a list has the listed keys. -/
theorem mem_keys_ofList {keys : List Key} {key : Key} : key ∈ (ofList keys).keys ↔ key ∈ keys := by
  have found : ∀ (start : SortedSet Key),
      (((keys.map fun key => (key, ())).foldl (fun map entry => map.insert entry.1 entry.2)
        start).find? key).isSome ↔ key ∈ keys ∨ (start.find? key).isSome := by
    induction keys with
    | nil => simp
    | cons head rest inductionHypothesis =>
      intro start
      rw [List.map_cons, List.foldl_cons, inductionHypothesis, SortedMap.find?_insert]
      by_cases here : head = key
      · simp [here]
      · simp [here, Ne.symm here]
  have listed := found SortedMap.empty
  rw [SortedMap.find?_empty, Option.isSome_none] at listed
  rw [SortedMap.mem_keys_iff, ← Option.isSome_iff_exists]
  exact listed.trans (or_iff_left Bool.false_ne_true)

end SortedSet

end ControlPlane
