/-
This file holds the table of tracing targets. Targets are declared with tags and
are always reachable by their own name as well. Levels are set by tag, for all
targets at once, or for the targets to come through the default level, and the
levels of a table can be written as a list, each target by its name.
-/

import ControlPlane.SortedMap
import ControlPlane.Tracing.Level

namespace ControlPlane.Tracing

open Text

/-- How a target is declared. -/
structure Declaration where
  target : String
  name : String
  level : Level
  tags : List String

/-- A target with its current level. -/
structure Target where
  target : String
  name : String
  level : Level
  tags : List String
  deriving DecidableEq

/-- A declared target; its name counts as its last tag unless it is one already. -/
def Target.ofDeclaration (declaration : Declaration) : Target where
  target := declaration.target
  name := declaration.name
  level := declaration.level
  tags :=
    if declaration.name ∈ declaration.tags then declaration.tags
    else declaration.tags ++ [declaration.name]

/-- The targets in the order of their declaration, with an index by tag. -/
structure TargetTable where
  defaultLevel : Level
  targets : List Target
  members : List (String × SortedSet String)
  deriving DecidableEq

namespace TargetTable

/-- The table without targets. -/
def empty : TargetTable :=
  ⟨Level.standard, [], []⟩

/-- Adds a target to the members of a tag. -/
def addMember (target tag : String) :
    List (String × SortedSet String) → List (String × SortedSet String)
  | [] => [(tag, SortedMap.empty.insert target ())]
  | entry :: rest =>
    if entry.1 = tag then (tag, entry.2.insert target ()) :: rest
    else entry :: addMember target tag rest

/-- Puts a target at the end, or in the place of the target of the same key. -/
def putTarget (target : Target) : List Target → List Target
  | [] => [target]
  | head :: rest =>
    if head.target = target.target then target :: rest else head :: putTarget target rest

def register (table : TargetTable) (declaration : Declaration) : TargetTable :=
  let target := Target.ofDeclaration declaration
  { table with
    targets := putTarget target table.targets
    members := target.tags.foldl (fun members tag => addMember target.target tag members)
      table.members }

/-- The table of the given declarations. -/
def ofDeclarations (declarations : List Declaration) : TargetTable :=
  declarations.foldl register empty

/-- The targets that carry a tag, if the tag is known. -/
def members? (table : TargetTable) (tag : String) : Option (SortedSet String) :=
  (table.members.find? fun entry => entry.1 = tag).map Prod.snd

def knows (table : TargetTable) (tag : String) : Bool :=
  (table.members? tag).isSome

def carries (table : TargetTable) (tag : String) (target : Target) : Bool :=
  match table.members? tag with
  | some members => members.contains target.target
  | none => false

def target? (table : TargetTable) (target : String) : Option Target :=
  table.targets.find? fun listed => listed.target = target

def tagged (table : TargetTable) (tag : String) : List Target :=
  table.targets.filter (table.carries tag)

/-! ### Setting levels -/

/-- Gives the targets of a tag a level. The number tells how many had another one. -/
def setTag (table : TargetTable) (tag : String) (level : Level) :
    Except TraceError (Nat × TargetTable) :=
  if table.knows tag then
    let changes := fun target => table.carries tag target && target.level ≠ level
    .ok (table.targets.countP changes,
      { table with
        targets := table.targets.map fun target =>
          if changes target then { target with level } else target })
  else .error (.unknownTag tag)

def setAll (table : TargetTable) (level : Level) : TargetTable :=
  { table with targets := table.targets.map fun target => { target with level } }

def setDefault (table : TargetTable) (level : Level) : TargetTable :=
  { table with defaultLevel := level }

/-- Whether a key of a list of levels stands for more than the targets of a tag. -/
def isGeneral (tag : String) : Bool :=
  tag = "default" || tag = "all"

/-- Sets tags in order up to the first unknown one. -/
def setTags (table : TargetTable) : TagLevels → Except TraceError Unit × TargetTable
  | [] => (.ok (), table)
  | entry :: rest =>
    match table.setTag entry.1 entry.2 with
    | .ok (_, changed) => changed.setTags rest
    | .error error => (.error error, table)

/-- Applies a list of levels: the default level first, then the level of all targets, then the
tags in order. What was set before an unknown tag stays set. -/
def setup (table : TargetTable) (levels : TagLevels) : Except TraceError Unit × TargetTable :=
  let table :=
    match levels.levelOf? "default" with
    | some level => table.setDefault level
    | none => table
  let table :=
    match levels.levelOf? "all" with
    | some level => table.setAll level
    | none => table
  table.setTags (levels.filter fun entry => !isGeneral entry.1)

def setupFromText (table : TargetTable) (text : String) : Except TraceError Unit × TargetTable :=
  match TagLevels.ofText text with
  | .ok levels => table.setup levels
  | .error error => (.error error, table)

/-- Accepts tags that are all known or general. -/
def checkTags (table : TargetTable) (tags : List String) : Except TraceError Unit :=
  match tags.find? fun tag => !isGeneral tag && !table.knows tag with
  | some tag => .error (.unknownTag tag)
  | none => .ok ()

/-! ### Writing -/

/-- The current levels as a list that can be applied, each target by its name. -/
def configText (table : TargetTable) : String :=
  String.intercalate ","
    (itemText "default" table.defaultLevel ::
      table.targets.map fun target => itemText target.name target.level)

end TargetTable

end ControlPlane.Tracing
