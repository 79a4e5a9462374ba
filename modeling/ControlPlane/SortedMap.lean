/-
This file holds finite maps kept as lists of entries with ascending keys. The
order is part of the type, so a map is determined by its lookups: two maps that
answer alike are equal. Every operation is described by the lookups it answers.
-/

import ControlPlane.Order

namespace ControlPlane

/-- A finite map, written as its entries by ascending key. -/
structure SortedMap (Key Value : Type) [OrderKey Key] where
  entries : List (Key × Value)
  ascending : entries.Pairwise fun earlier later => OrderKey.Before earlier.1 later.1

namespace SortedMap

variable {Key Value Image : Type} [OrderKey Key]

theorem eq_of_entries_eq {first second : SortedMap Key Value}
    (same : first.entries = second.entries) : first = second := by
  cases first
  cases second
  cases same
  rfl

instance [DecidableEq Key] [DecidableEq Value] : DecidableEq (SortedMap Key Value) :=
  fun first second =>
    if same : first.entries = second.entries then isTrue (eq_of_entries_eq same)
    else isFalse fun equal => same (congrArg entries equal)

/-- The map without entries. -/
def empty : SortedMap Key Value :=
  ⟨[], List.Pairwise.nil⟩

instance : Inhabited (SortedMap Key Value) :=
  ⟨empty⟩

/-- The keys in ascending order. -/
def keys (map : SortedMap Key Value) : List Key :=
  map.entries.map Prod.fst

/-- The values in ascending order of their keys. -/
def values (map : SortedMap Key Value) : List Value :=
  map.entries.map Prod.snd

/-- The number of entries. -/
def size (map : SortedMap Key Value) : Nat :=
  map.entries.length

def isEmpty (map : SortedMap Key Value) : Bool :=
  map.entries.isEmpty

/-- Keeps the entries that a test accepts. -/
def filter (accepts : Key → Value → Bool) (map : SortedMap Key Value) : SortedMap Key Value where
  entries := map.entries.filter fun entry => accepts entry.1 entry.2
  ascending := map.ascending.filter _

/-- Changes every value and keeps the keys. -/
def map (change : Key → Value → Image) (map : SortedMap Key Value) : SortedMap Key Image where
  entries := map.entries.map fun entry => (entry.1, change entry.1 entry.2)
  ascending := List.pairwise_map.2 map.ascending

variable [DecidableEq Key]

/-- The value listed for a key. -/
def lookup (key : Key) : List (Key × Value) → Option Value
  | [] => none
  | entry :: rest => if entry.1 = key then some entry.2 else lookup key rest

/-- The value of a key. -/
def find? (map : SortedMap Key Value) (key : Key) : Option Value :=
  lookup key map.entries

def contains (map : SortedMap Key Value) (key : Key) : Bool :=
  (map.find? key).isSome

/-- Places an entry among ascending entries, in the place of one with the same key. -/
def insertEntry (key : Key) (value : Value) : List (Key × Value) → List (Key × Value)
  | [] => [(key, value)]
  | entry :: rest =>
    if OrderKey.Before key entry.1 then (key, value) :: entry :: rest
    else if entry.1 = key then (key, value) :: rest
    else entry :: insertEntry key value rest

theorem mem_of_mem_insertEntry {key : Key} {value : Value} {entry : Key × Value}
    {entries : List (Key × Value)} (member : entry ∈ insertEntry key value entries) :
    entry = (key, value) ∨ entry ∈ entries := by
  induction entries with
  | nil => exact Or.inl (List.mem_singleton.1 member)
  | cons head rest inductionHypothesis =>
    simp only [insertEntry] at member
    split at member
    · exact (List.mem_cons.1 member).imp id id
    · split at member
      · exact (List.mem_cons.1 member).imp id (List.mem_cons_of_mem head)
      · rcases List.mem_cons.1 member with rfl | inRest
        · exact Or.inr List.mem_cons_self
        · exact (inductionHypothesis inRest).imp id (List.mem_cons_of_mem head)

theorem pairwise_insertEntry (key : Key) (value : Value) {entries : List (Key × Value)}
    (ascending : entries.Pairwise fun earlier later => OrderKey.Before earlier.1 later.1) :
    (insertEntry key value entries).Pairwise
      fun earlier later => OrderKey.Before earlier.1 later.1 := by
  induction entries with
  | nil => exact List.pairwise_singleton _ _
  | cons head rest inductionHypothesis =>
    have headFirst := (List.pairwise_cons.1 ascending).1
    have restAscending := (List.pairwise_cons.1 ascending).2
    simp only [insertEntry]
    split
    next before =>
      refine List.pairwise_cons.2 ⟨fun entry member => ?_, ascending⟩
      rcases List.mem_cons.1 member with rfl | inRest
      · exact before
      · exact before.trans (headFirst entry inRest)
    next notBefore =>
      split
      next same =>
        exact List.pairwise_cons.2 ⟨fun entry member => same ▸ headFirst entry member,
          restAscending⟩
      next different =>
        refine List.pairwise_cons.2 ⟨fun entry member => ?_, inductionHypothesis restAscending⟩
        rcases mem_of_mem_insertEntry member with rfl | inRest
        · exact OrderKey.before_of_not_before_of_ne notBefore fun same => different same.symm
        · exact headFirst entry inRest

/-- Sets the value of a key. -/
def insert (map : SortedMap Key Value) (key : Key) (value : Value) : SortedMap Key Value where
  entries := insertEntry key value map.entries
  ascending := pairwise_insertEntry key value map.ascending

/-- Forgets a key. -/
def erase (map : SortedMap Key Value) (key : Key) : SortedMap Key Value :=
  map.filter fun listed _ => listed ≠ key

/-- Changes the value of a key, if it has one. -/
def modify (map : SortedMap Key Value) (key : Key) (change : Value → Value) :
    SortedMap Key Value :=
  map.map fun listed value => if listed = key then change value else value

/-- The map of the listed entries, where a later entry replaces an earlier one of its key. -/
def ofList (entries : List (Key × Value)) : SortedMap Key Value :=
  entries.foldl (fun map entry => map.insert entry.1 entry.2) empty

/-! ### Lookups -/

@[simp]
theorem find?_empty (key : Key) : (empty : SortedMap Key Value).find? key = none :=
  rfl

omit [OrderKey Key] in
theorem mem_of_lookup {key : Key} {value : Value} {entries : List (Key × Value)}
    (found : lookup key entries = some value) : (key, value) ∈ entries := by
  induction entries with
  | nil => cases found
  | cons head rest inductionHypothesis =>
    simp only [lookup] at found
    split at found
    next same => exact List.mem_cons.2 (Or.inl (by cases found; rw [← same]))
    next => exact List.mem_cons_of_mem _ (inductionHypothesis found)

theorem lookup_of_mem {key : Key} {value : Value} {entries : List (Key × Value)}
    (ascending : entries.Pairwise fun earlier later => OrderKey.Before earlier.1 later.1)
    (member : (key, value) ∈ entries) : lookup key entries = some value := by
  induction entries with
  | nil => cases member
  | cons head rest inductionHypothesis =>
    have headFirst := (List.pairwise_cons.1 ascending).1
    rcases List.mem_cons.1 member with rfl | inRest
    · exact if_pos rfl
    · rw [lookup, if_neg (headFirst _ inRest).ne]
      exact inductionHypothesis (List.pairwise_cons.1 ascending).2 inRest

/-- A key has a value exactly when the entry is listed. -/
theorem find?_eq_some_iff {map : SortedMap Key Value} {key : Key} {value : Value} :
    map.find? key = some value ↔ (key, value) ∈ map.entries :=
  ⟨mem_of_lookup, lookup_of_mem map.ascending⟩

/-- The listed values are those of the keys. -/
theorem mem_values_iff {map : SortedMap Key Value} {value : Value} :
    value ∈ map.values ↔ ∃ key, map.find? key = some value := by
  simp only [find?_eq_some_iff, values, List.mem_map]
  constructor
  · rintro ⟨⟨key, _⟩, member, rfl⟩
    exact ⟨key, member⟩
  · rintro ⟨key, member⟩
    exact ⟨(key, value), member, rfl⟩

theorem lookup_insertEntry (key listed : Key) (value : Value) (entries : List (Key × Value)) :
    lookup listed (insertEntry key value entries) =
      if key = listed then some value else lookup listed entries := by
  induction entries with
  | nil => rfl
  | cons head rest inductionHypothesis =>
    simp only [insertEntry]
    split
    · rfl
    · split
      next same =>
        by_cases found : key = listed
        · simp [lookup, found]
        · have other : head.1 ≠ listed := fun equal => found (same ▸ equal)
          simp [lookup, found, other]
      next different =>
        by_cases found : head.1 = listed
        · have other : key ≠ listed := fun equal => different (found.trans equal.symm)
          simp [lookup, found, other]
        · simp only [lookup, if_neg found]
          exact inductionHypothesis

@[simp]
theorem find?_insert (map : SortedMap Key Value) (key listed : Key) (value : Value) :
    (map.insert key value).find? listed =
      if key = listed then some value else map.find? listed :=
  lookup_insertEntry key listed value map.entries

@[simp]
theorem find?_filter (accepts : Key → Value → Bool) (map : SortedMap Key Value) (key : Key) :
    (map.filter accepts).find? key = (map.find? key).filter (accepts key) := by
  refine Option.ext fun value => ?_
  simp [find?_eq_some_iff, filter, Option.filter_eq_some_iff]

@[simp]
theorem find?_map (change : Key → Value → Image) (map : SortedMap Key Value) (key : Key) :
    (map.map change).find? key = (map.find? key).map (change key) := by
  obtain ⟨entries, ascending⟩ := map
  simp only [find?, SortedMap.map]
  clear ascending
  induction entries with
  | nil => rfl
  | cons head rest inductionHypothesis =>
    by_cases same : head.1 = key
    · simp [lookup, same]
    · simp only [List.map_cons, lookup, if_neg same]
      exact inductionHypothesis

@[simp]
theorem find?_erase (map : SortedMap Key Value) (key listed : Key) :
    (map.erase key).find? listed = if key = listed then none else map.find? listed := by
  rw [erase, find?_filter]
  split
  next same => simp [same]
  next different => cases map.find? listed <;> simp [Ne.symm different]

@[simp]
theorem find?_modify (map : SortedMap Key Value) (key listed : Key) (change : Value → Value) :
    (map.modify key change).find? listed =
      if key = listed then (map.find? listed).map change else map.find? listed := by
  rw [modify, find?_map]
  split
  next same => simp [same]
  next different => simp [Ne.symm different]

/-- Maps that answer alike are equal. -/
theorem ext_find? {first second : SortedMap Key Value}
    (alike : ∀ key, first.find? key = second.find? key) : first = second := by
  obtain ⟨entries, ascending⟩ := first
  obtain ⟨entries', ascending'⟩ := second
  refine eq_of_entries_eq ?_
  have members : ∀ entry, entry ∈ entries ↔ entry ∈ entries' := fun entry =>
    ⟨fun member => mem_of_lookup ((alike entry.1).symm.trans (lookup_of_mem ascending member)),
      fun member => mem_of_lookup ((alike entry.1).trans (lookup_of_mem ascending' member))⟩
  clear alike
  show entries = entries'
  induction entries generalizing entries' with
  | nil =>
    cases entries' with
    | nil => rfl
    | cons head' rest' => exact absurd ((members head').2 List.mem_cons_self) List.not_mem_nil
  | cons head rest inductionHypothesis =>
    cases entries' with
    | nil => exact absurd ((members head).1 List.mem_cons_self) List.not_mem_nil
    | cons head' rest' =>
      have headFirst := (List.pairwise_cons.1 ascending).1
      have headFirst' := (List.pairwise_cons.1 ascending').1
      have heads : head = head' := by
        rcases List.mem_cons.1 ((members head).1 List.mem_cons_self) with same | later
        · exact same
        · rcases List.mem_cons.1 ((members head').2 List.mem_cons_self) with same | later'
          · exact same.symm
          · exact absurd (headFirst' head later) (headFirst head' later').asymm
      subst heads
      congr 1
      refine inductionHypothesis (List.pairwise_cons.1 ascending).2 rest'
        (List.pairwise_cons.1 ascending').2 fun entry => ⟨fun member => ?_, fun member => ?_⟩
      · rcases List.mem_cons.1 ((members entry).1 (List.mem_cons_of_mem _ member)) with same | found
        · exact absurd (same ▸ headFirst entry member) (OrderKey.not_before_self _)
        · exact found
      · rcases List.mem_cons.1 ((members entry).2 (List.mem_cons_of_mem _ member)) with same | found
        · exact absurd (same ▸ headFirst' entry member) (OrderKey.not_before_self _)
        · exact found

end SortedMap

/-- A finite set, kept as a map without further information. -/
abbrev SortedSet (Key : Type) [OrderKey Key] : Type :=
  SortedMap Key Unit

/-- The set of the listed keys. -/
def SortedSet.ofList {Key : Type} [OrderKey Key] [DecidableEq Key] (keys : List Key) :
    SortedSet Key :=
  SortedMap.ofList (keys.map fun key => (key, ()))

end ControlPlane
