/-
This file defines bounded journals. A journal keeps the latest entries, up to its
capacity, in a ring: once it is full, a new entry takes the place of the oldest
one. Entries are numbered in the order in which they were added.
-/

import ControlPlane.Text.Column
import ControlPlane.Text.Number

namespace ControlPlane

open Text

/-- A ring of numbered entries. `oldest` is the place of the oldest one. -/
structure Journal (Entry : Type) where
  name : String
  capacity : Nat
  ring : Array (Nat × Entry)
  count : Nat
  oldest : Nat
  generated : Nat

namespace Journal

variable {Entry : Type}

/-- A journal without entries; it has room for at least one. -/
def create (name : String) (capacity : Nat) : Journal Entry where
  name := name
  capacity := max 1 capacity
  ring := #[]
  count := 0
  oldest := 0
  generated := 0

/-- The number of entries that are kept. -/
def size (journal : Journal Entry) : Nat :=
  journal.count

def isEmpty (journal : Journal Entry) : Bool :=
  journal.count = 0

/-- Adds an entry, in the place of the oldest one if the journal is full. -/
def add (journal : Journal Entry) (entry : Entry) : Journal Entry :=
  let numbered := (journal.generated, entry)
  if journal.count < journal.capacity then
    { journal with
      ring := journal.ring.push numbered
      count := journal.count + 1
      generated := journal.generated + 1 }
  else
    { journal with
      ring := journal.ring.setIfInBounds journal.oldest numbered
      oldest := (journal.oldest + 1) % journal.capacity
      generated := journal.generated + 1 }

def addAll (journal : Journal Entry) (entries : List Entry) : Journal Entry :=
  entries.foldl add journal

/-- The places of the ring, from the oldest entry to the latest. -/
def places (journal : Journal Entry) : List Nat :=
  (List.range journal.count).map fun age => (journal.oldest + age) % journal.capacity

/-- The entries that are kept with their numbers, oldest first. -/
def kept (journal : Journal Entry) : List (Nat × Entry) :=
  journal.places.filterMap fun place => journal.ring[place]?

/-- The text of a journal. The time of an entry is given by its number. -/
def text (time : Nat → String) (entryText : Entry → String) (journal : Journal Entry) : String :=
  lines
    ([" " ++ journal.name,
      " generated: " ++ decimal journal.generated ++ " stored: " ++ decimal journal.size ++
        " capacity: " ++ decimal journal.capacity,
      " ━━━━━━━━━━━━━"] ++
      journal.kept.map fun (number, entry) =>
        " " ++ padRight 4 (decimal number) ++ " " ++ time number ++ ": " ++ entryText entry)

end Journal

end ControlPlane
