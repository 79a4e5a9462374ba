/-
This file numbers the names of nodes. A name gets the number of different names
in front of it. A reference has the number that its name has there, and stands
for the last node of the document with that number: a name that is given again
takes a new number, which the next new name shares.
-/

import ControlPlane.Yaml.Node

namespace ControlPlane.Yaml

/-- A node whose names are numbers. -/
abbrev NumberedNode : Type := Node Nat

/-- The numbers of names. -/
abbrev NameNumbers : Type := List (List Char × Nat)

namespace NameNumbers

/-- Numbers a name. -/
def add (numbers : NameNumbers) (name : List Char) : Nat × NameNumbers :=
  (numbers.length, (name, numbers.length) :: numbers.filter fun entry => entry.1 ≠ name)

/-- Numbers the name of a node, if it has one. -/
def addAnchor (numbers : NameNumbers) (properties : Properties (List Char)) :
    Properties Nat × NameNumbers :=
  match properties.anchor with
  | some name => (⟨some (numbers.add name).1, properties.tag⟩, (numbers.add name).2)
  | none => (⟨none, properties.tag⟩, numbers)

end NameNumbers

namespace Node

mutual

/-- Numbers the names in a node. A reference to a name that was not given before fails. -/
def number? (numbers : NameNumbers) : WrittenNode → Option (NumberedNode × NameNumbers)
  | .reference name => (numbers.lookup name).map fun number => (.reference number, numbers)
  | .scalar properties style letters =>
    let (properties, numbers) := numbers.addAnchor properties
    some (.scalar properties style letters, numbers)
  | .sequence properties items =>
    let (properties, numbers) := numbers.addAnchor properties
    (numberItems? numbers items).map fun (items, numbers) => (.sequence properties items, numbers)
  | .mapping properties entries =>
    let (properties, numbers) := numbers.addAnchor properties
    (numberEntries? numbers entries).map fun (entries, numbers) =>
      (.mapping properties entries, numbers)

def numberItems? (numbers : NameNumbers) :
    List WrittenNode → Option (List NumberedNode × NameNumbers)
  | [] => some ([], numbers)
  | item :: rest =>
    match number? numbers item with
    | some (item, numbers) =>
      (numberItems? numbers rest).map fun (items, numbers) => (item :: items, numbers)
    | none => none

def numberEntries? (numbers : NameNumbers) :
    List (WrittenNode × WrittenNode) → Option (List (NumberedNode × NumberedNode) × NameNumbers)
  | [] => some ([], numbers)
  | (key, value) :: rest =>
    match number? numbers key with
    | some (key, numbers) =>
      match number? numbers value with
      | some (value, numbers) =>
        (numberEntries? numbers rest).map fun (entries, numbers) =>
          ((key, value) :: entries, numbers)
      | none => none
    | none => none

end

/-- A node with its number, if it has one. -/
def ownNumber (properties : Properties Nat) (node : NumberedNode) : List (Nat × NumberedNode) :=
  (properties.anchor.map fun number => (number, node)).toList

mutual

/-- The nodes that have numbers, in the order they start. -/
def numbered : NumberedNode → List (Nat × NumberedNode)
  | .reference _ => []
  | .scalar properties style letters =>
    ownNumber properties (.scalar properties style letters)
  | .sequence properties items =>
    ownNumber properties (.sequence properties items) ++ numberedItems items
  | .mapping properties entries =>
    ownNumber properties (.mapping properties entries) ++ numberedEntries entries

def numberedItems : List NumberedNode → List (Nat × NumberedNode)
  | [] => []
  | item :: rest => numbered item ++ numberedItems rest

def numberedEntries : List (NumberedNode × NumberedNode) → List (Nat × NumberedNode)
  | [] => []
  | (key, value) :: rest => numbered key ++ numbered value ++ numberedEntries rest

end

end Node

end ControlPlane.Yaml
