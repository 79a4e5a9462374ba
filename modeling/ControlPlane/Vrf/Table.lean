/-
This file holds the VRFs of a router by id, with an index of their names.
-/

import ControlPlane.Vrf

namespace ControlPlane

open Text

/-- The VRFs by id and their ids by name. -/
structure VrfTable where
  byId : SortedMap UInt32 Vrf
  idByName : SortedMap String UInt32
  deriving DecidableEq

namespace VrfTable

/-- The table without VRFs. -/
def empty : VrfTable :=
  ⟨SortedMap.empty, SortedMap.empty⟩

def size (table : VrfTable) : Nat :=
  table.byId.size

def ids (table : VrfTable) : List UInt32 :=
  table.byId.keys

/-- The VRFs in the order of their ids. -/
def vrfs (table : VrfTable) : List Vrf :=
  table.byId.values

def contains (table : VrfTable) (id : UInt32) : Bool :=
  table.byId.contains id

def get (table : VrfTable) (id : UInt32) : Except RouteError Vrf :=
  match table.byId.find? id with
  | some vrf => .ok vrf
  | none => .error (.unknownVrf (decimal id.toNat))

def idOf (table : VrfTable) (name : String) : Except RouteError UInt32 :=
  match table.idByName.find? name with
  | some id => .ok id
  | none => .error (.unknownVrf name)

def getByName (table : VrfTable) (name : String) : Except RouteError Vrf := do
  table.get (← table.idOf name)

/-- Adds a VRF whose id and name are not taken. -/
def add (table : VrfTable) (vrf : Vrf) : Except RouteError VrfTable :=
  if table.contains vrf.id then .error (.vrfExists vrf.id)
  else if table.idByName.contains vrf.name then .error (.vrfNameExists vrf.name)
  else .ok ⟨table.byId.insert vrf.id vrf, table.idByName.insert vrf.name vrf.id⟩

/-- Removes a VRF and gives it back. -/
def remove (table : VrfTable) (id : UInt32) : Except RouteError (Vrf × VrfTable) := do
  let vrf ← table.get id
  return (vrf, ⟨table.byId.erase id, table.idByName.filter fun _ own => own ≠ id⟩)

/-- Stores the new state of a VRF of the table under an id. -/
def store (table : VrfTable) (id : UInt32) (vrf : Vrf) : VrfTable :=
  { table with byId := table.byId.modify id fun _ => vrf }

/-- The number of prefixes of all VRFs that are still to be programmed. -/
def pendingCount (table : VrfTable) : Nat :=
  (table.vrfs.map fun vrf => vrf.sync.pendingCount).sum

end VrfTable

end ControlPlane
