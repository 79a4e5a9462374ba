/-
This file builds the nodes of a YAML document from its tokens. A node is a
scalar, a sequence, a mapping, or a reference to a node that was given a name
before. Where a node may be left out an empty scalar stands for it.
-/

import ControlPlane.Config.Data
import ControlPlane.Yaml.Token

namespace ControlPlane.Yaml

/-! ### Nodes -/

/-- What is said about a node in front of it: the name that references use and the tag of its
type. -/
structure Properties (Name : Type) where
  anchor : Option Name
  tag : Option (List Char)

/-- A node whose names are of some type. -/
inductive Node (Name : Type)
  | reference (name : Name)
  | scalar (properties : Properties Name) (style : ScalarStyle) (letters : List Char)
  | sequence (properties : Properties Name) (items : List (Node Name))
  | mapping (properties : Properties Name) (entries : List (Node Name × Node Name))

/-- A node as it is written. -/
abbrev WrittenNode : Type := Node (List Char)

namespace Properties

def empty {Name : Type} : Properties Name :=
  ⟨none, none⟩

/-- A scalar takes its type from its letters if its tag is a mark alone. -/
def ofScalar {Name : Type} (properties : Properties Name) : Properties Name :=
  if properties.tag = some ['!'] then { properties with tag := none } else properties

end Properties

namespace Node

/-- The node that stands where none is written. -/
def absent {Name : Type} : Node Name :=
  .scalar Properties.empty .plain []

/-! ### Tag handles -/

/-- The tag handles of a document with what they stand for, the ones that count first in front. -/
abbrev TagHandles : Type := List (List Char × List Char)

/-- The handles that need no directive. -/
def standardHandles : TagHandles :=
  [(['!'], ['!']), (['!', '!'], (Data.standardTag "").toList)]

/-- The tag of a handle and a suffix. A tag that is written in full has no handle. -/
def resolveTag? (handles : TagHandles) (handle suffix : List Char) : Option (List Char) :=
  if handle.isEmpty then some suffix
  else (handles.lookup handle).map fun expansion => expansion ++ suffix

/-- Reads the properties of a node: at most one name and one tag, in either order. -/
def readProperties? (handles : TagHandles) :
    List Token → Option (Properties (List Char) × List Token)
  | .anchor name :: .tag handle suffix :: rest
  | .tag handle suffix :: .anchor name :: rest =>
    (resolveTag? handles handle suffix).map fun tag => (⟨some name, some tag⟩, rest)
  | .tag handle suffix :: rest =>
    (resolveTag? handles handle suffix).map fun tag => (⟨none, some tag⟩, rest)
  | .anchor name :: rest => some (⟨some name, none⟩, rest)
  | tokens => some (Properties.empty, tokens)

/-! ### Reading nodes -/

/-- Where a node stands: in a block, in an entry of a block mapping, whose sequences need not be
indented, or in a flow collection. -/
inductive Place
  | block
  | entry
  | flow

/-- Whether an item of a block sequence is left out in front of a token. -/
def endsItem (token : Token) : Bool :=
  token = .blockEntry || token = .blockEnd

/-- Whether a key or a value of a block mapping is left out in front of a token. -/
def endsEntry (token : Token) : Bool :=
  token = .key || token = .value || token = .blockEnd

/-- Whether a value of a flow collection is left out in front of a token. -/
def endsFlow (closing token : Token) : Bool :=
  token = .flowEntry || token = closing

/-- Whether a key of a flow collection is left out in front of a token. -/
def endsFlowKey (closing token : Token) : Bool :=
  token = .value || endsFlow closing token

mutual

def read? (handles : TagHandles) : Nat → Place → List Token → Option (WrittenNode × List Token)
  | 0, _, _ => none
  | _, _, .reference name :: rest => some (.reference name, rest)
  | fuel + 1, place, tokens =>
    match readProperties? handles tokens with
    | none => none
    | some (properties, tokens) =>
      let sequence := fun (items, rest) => (Node.sequence properties items, rest)
      let mapping := fun (entries, rest) => (Node.mapping properties entries, rest)
      match tokens, place with
      | .blockEntry :: _, .entry => (readLooseItems? handles fuel tokens).map sequence
      | .scalar style letters :: rest, _ =>
        some (.scalar properties.ofScalar style letters, rest)
      | .flowSequence :: .flowSequenceEnd :: rest, _ => some (.sequence properties [], rest)
      | .flowSequence :: rest, _ => (readFlowItems? handles fuel rest).map sequence
      | .flowMapping :: .flowMappingEnd :: rest, _ => some (.mapping properties [], rest)
      | .flowMapping :: rest, _ => (readFlowEntries? handles fuel rest).map mapping
      | .blockSequence :: rest, .block | .blockSequence :: rest, .entry =>
        (readItems? handles fuel rest).map sequence
      | .blockMapping :: rest, .block | .blockMapping :: rest, .entry =>
        (readEntries? handles fuel rest).map mapping
      | _, _ =>
        if properties.anchor.isSome || properties.tag.isSome then
          some (.scalar properties .plain [], tokens)
        else none

/-- Reads a node that is left out in front of certain tokens. -/
def readPresent? (handles : TagHandles) :
    Nat → Place → (Token → Bool) → List Token → Option (WrittenNode × List Token)
  | 0, _, _, _ => none
  | fuel + 1, place, isLeftOut, tokens =>
    if (tokens.head?.map isLeftOut).getD false then some (absent, tokens)
    else read? handles fuel place tokens

/-- Reads a node behind a colon. Without a colon it is left out. -/
def readValue? (handles : TagHandles) :
    Nat → Place → (Token → Bool) → List Token → Option (WrittenNode × List Token)
  | fuel + 1, place, isLeftOut, .value :: rest => readPresent? handles fuel place isLeftOut rest
  | _, _, _, tokens => some (absent, tokens)

/-- Reads the items of a block sequence up to its end. -/
def readItems? (handles : TagHandles) : Nat → List Token → Option (List WrittenNode × List Token)
  | fuel + 1, .blockEntry :: rest =>
    match readPresent? handles fuel .block endsItem rest with
    | some (item, rest) =>
      (readItems? handles fuel rest).map fun (items, rest) => (item :: items, rest)
    | none => none
  | _, .blockEnd :: rest => some ([], rest)
  | _, _ => none

/-- Reads the items of a sequence that stands in the column of its key. -/
def readLooseItems? (handles : TagHandles) :
    Nat → List Token → Option (List WrittenNode × List Token)
  | 0, _ => none
  | fuel + 1, .blockEntry :: rest =>
    match readPresent? handles fuel .block
      (fun token => endsItem token || endsEntry token) rest with
    | some (item, rest) =>
      (readLooseItems? handles fuel rest).map fun (items, rest) => (item :: items, rest)
    | none => none
  | _, tokens => some ([], tokens)

/-- Reads the entries of a block mapping up to its end. -/
def readEntries? (handles : TagHandles) :
    Nat → List Token → Option (List (WrittenNode × WrittenNode) × List Token)
  | fuel + 1, .key :: rest =>
    match readPresent? handles fuel .entry endsEntry rest with
    | some (key, rest) =>
      match readValue? handles fuel .entry endsEntry rest with
      | some (value, rest) =>
        (readEntries? handles fuel rest).map fun (entries, rest) =>
          ((key, value) :: entries, rest)
      | none => none
    | none => none
  | _, .blockEnd :: rest => some ([], rest)
  | _, _ => none

/-- Reads an item of a flow sequence. A key makes it a mapping of one entry; where the key is left
out, the token behind it goes with it. -/
def readFlowItem? (handles : TagHandles) : Nat → List Token → Option (WrittenNode × List Token)
  | fuel + 1, .key :: rest =>
    let isLeftOut := (rest.head?.map (endsFlowKey .flowSequenceEnd)).getD false
    match if isLeftOut then some (absent, rest.drop 1) else read? handles fuel .flow rest with
    | some (key, rest) =>
      (readValue? handles fuel .flow (endsFlow .flowSequenceEnd) rest).map
        fun (value, rest) => (.mapping Properties.empty [(key, value)], rest)
    | none => none
  | fuel + 1, tokens => read? handles fuel .flow tokens
  | 0, _ => none

/-- Reads the items of a flow sequence up to its end, in front of which a comma may stand. -/
def readFlowItems? (handles : TagHandles) :
    Nat → List Token → Option (List WrittenNode × List Token)
  | 0, _ => none
  | fuel + 1, tokens =>
    match readFlowItem? handles fuel tokens with
    | some (item, .flowEntry :: .flowSequenceEnd :: rest)
    | some (item, .flowSequenceEnd :: rest) => some ([item], rest)
    | some (item, .flowEntry :: rest) =>
      (readFlowItems? handles fuel rest).map fun (items, rest) => (item :: items, rest)
    | _ => none

/-- Reads an entry of a flow mapping. Without a mark of the key the value is left out. -/
def readFlowEntry? (handles : TagHandles) :
    Nat → List Token → Option ((WrittenNode × WrittenNode) × List Token)
  | fuel + 1, .key :: rest =>
    match readPresent? handles fuel .flow (endsFlowKey .flowMappingEnd) rest with
    | some (key, rest) =>
      (readValue? handles fuel .flow (endsFlow .flowMappingEnd) rest).map
        fun (value, rest) => ((key, value), rest)
    | none => none
  | fuel + 1, tokens =>
    (read? handles fuel .flow tokens).map fun (key, rest) => ((key, absent), rest)
  | 0, _ => none

/-- Reads the entries of a flow mapping up to its end, in front of which a comma may stand. -/
def readFlowEntries? (handles : TagHandles) :
    Nat → List Token → Option (List (WrittenNode × WrittenNode) × List Token)
  | 0, _ => none
  | fuel + 1, tokens =>
    match readFlowEntry? handles fuel tokens with
    | some (entry, .flowEntry :: .flowMappingEnd :: rest)
    | some (entry, .flowMappingEnd :: rest) => some ([entry], rest)
    | some (entry, .flowEntry :: rest) =>
      (readFlowEntries? handles fuel rest).map fun (entries, rest) => (entry :: entries, rest)
    | _ => none

end

/-! ### Documents -/

/-- Reads the directives in front of a document: at most one version, which is one of those that
are known, and the tag handles, each at most once. -/
def readDirectives? (hasVersion : Bool) (handles : TagHandles) :
    List Token → Option (TagHandles × List Token)
  | .version major minor :: rest =>
    if hasVersion || major ≠ 1 || !(minor = 1 || minor = 2) then none
    else readDirectives? true handles rest
  | .tagHandle handle expansion :: rest =>
    if (handles.lookup handle).isSome then none
    else readDirectives? hasVersion ((handle, expansion) :: handles) rest
  | tokens => some (handles, tokens)

/-- Whether a document starts with directives or its marker. -/
def startsExplicitly : Token → Bool
  | .version _ _ | .tagHandle _ _ | .documentStart => true
  | _ => false

/-- Whether an explicit document is left out in front of a token. -/
def endsDocument (token : Token) : Bool :=
  startsExplicitly token || token = .documentEnd

/-- A bound of the steps that reading tokens takes. -/
def steps (tokens : List Token) : Nat :=
  4 * tokens.length + 4

/-- Reads the node of a document. -/
def readDocument? (tokens : List Token) : Option (WrittenNode × List Token) :=
  if (tokens.head?.map startsExplicitly).getD false then
    match readDirectives? false [] tokens with
    | some (_, [.documentStart]) => some (absent, [])
    | some (handles, .documentStart :: rest) =>
      readPresent? (handles ++ standardHandles) (steps tokens) .block endsDocument rest
    | _ => none
  else read? standardHandles (steps tokens) .block tokens

/-- The node of the only document of a text. A text of no tokens holds the absent node. -/
def ofTokens? : List Token → Option WrittenNode
  | [] => some absent
  | tokens =>
    match readDocument? tokens with
    | some (node, rest) => if rest.all fun token => token = .documentEnd then some node else none
    | none => none

end Node

end ControlPlane.Yaml
