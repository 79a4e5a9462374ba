/-
This file reads configuration data from YAML text. A plain scalar stays one, so
that its reader decides what it is, and a reference is the data of the node it
stands for. A node may refer to one it is a part of; such references are
followed further than settings nest.
-/

import ControlPlane.Config.Data
import ControlPlane.Yaml.Reference

namespace ControlPlane.Yaml

/-! ### Nodes -/

/-- The data of a scalar that is written in some style. -/
def scalarData (letters : List Char) : ScalarStyle → Data
  | .plain => .plain letters
  | .literal => .literal letters
  | .quoted | .folded => .text (String.ofList letters)

/-- The data of a node with properties. -/
def withProperties (properties : Properties Nat) (data : Data) : Data :=
  match properties.tag with
  | some tag => .tagged (String.ofList tag) data
  | none => data

/-- The data of entries, which are the fields of a record if all keys are texts. -/
def entryData (entries : List (Data × Data)) : Data :=
  match entries.mapM fun (key, value) => key.text?.map fun name => (name, value) with
  | some entries => .fields entries
  | none => .unreadable

namespace Node

mutual

/-- The data of a node where references with a number stand for given data. -/
def data (referenced : List (Nat × Data)) : NumberedNode → Data
  | .reference number => (referenced.lookup number).getD .unreadable
  | .scalar properties style letters => withProperties properties (scalarData letters style)
  | .sequence properties items => withProperties properties (.list (dataOfItems referenced items))
  | .mapping properties entries =>
    withProperties properties (entryData (dataOfEntries referenced entries))

def dataOfItems (referenced : List (Nat × Data)) : List NumberedNode → List Data
  | [] => []
  | item :: rest => data referenced item :: dataOfItems referenced rest

def dataOfEntries (referenced : List (Nat × Data)) :
    List (NumberedNode × NumberedNode) → List (Data × Data)
  | [] => []
  | (key, value) :: rest =>
    (data referenced key, data referenced value) :: dataOfEntries referenced rest

end

/-- The data of numbered nodes where references are followed a number of times. -/
def follow (nodes : List (Nat × NumberedNode)) : Nat → List (Nat × Data)
  | 0 => []
  | depth + 1 =>
    let referenced := follow nodes depth
    nodes.map fun (number, node) => (number, node.data referenced)

/-- The number of references that are followed into each other, more than settings nest. -/
def referenceDepth : Nat := 16

/-- The data of the node of a document. -/
def documentData (node : NumberedNode) : Data :=
  node.data (follow node.numbered.reverse referenceDepth)

end Node

/-! ### Texts -/

/-- Reads a text that holds one document. -/
def read? (text : String) : Option Data := do
  let tokens ← tokens? text.toList
  let node ← Node.ofTokens? tokens
  let (node, _) ← node.number? []
  return node.documentData

end ControlPlane.Yaml
