/-
This file declares the tracing targets of the components of a router, and shows
tables of targets: as one list, and as groups by tag.
-/

import ControlPlane.Text.Column
import ControlPlane.Tracing.Targets

namespace ControlPlane.Tracing

open Text

/-! ### Components -/

/-- The targets of a router, each with the tags it can be reached by. -/
def components : List Declaration :=
  [⟨"ribd_config", "config", .info, ["config"]⟩,
    ⟨"ribd_tracectl::control", "tracectl", .info, ["config"]⟩,
    ⟨"ribd_routing::rib", "rib", .info, ["rib"]⟩,
    ⟨"ribd_routing::ribmgr", "ribmgr", .info, ["rib"]⟩,
    ⟨"ribd_routing::fib", "fib", .info, ["fib", "kernel"]⟩,
    ⟨"ribd_routing::interfaces", "interfaces", .info, ["interfaces"]⟩,
    ⟨"ribd_routing::routerid", "router-id", .info, ["router-id"]⟩]

/-! ### Tables of targets -/

namespace TargetTable

def row (target level tags : String) : String :=
  " " ++ padRight 40 target ++ " │ " ++ padLeft 6 level ++ " │ " ++ tags

def targetRow (target : Target) : String :=
  row target.target target.level.name (String.intercalate "," target.tags)

/-- The lines of the table of targets. -/
def tableLines (table : TargetTable) : List String :=
  ["", " ──────── Tracing targets ────────", row "TARGET" "LEVEL" "TAGS"] ++
    table.targets.map targetRow ++ [row "(default)" table.defaultLevel.name "--"]

/-- The lines of the targets of a tag, after the line of the tag. -/
def groupLines (table : TargetTable) (group : String × SortedSet String) : List String :=
  (" " ++ group.1 ++ ":") ::
    (table.targets.filter fun target => group.2.contains target.target).map fun target =>
      "     " ++ padRight 40 target.target ++ " : " ++ target.level.name

/-- The groups of targets by tag. -/
def groups (table : TargetTable) : List (List String) :=
  table.members.map table.groupLines

end TargetTable

end ControlPlane.Tracing
