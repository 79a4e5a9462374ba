/-
This file writes reports on a router: the candidates and kernel routes of a VRF,
the interfaces with the next hops they resolve, the sizes of the tables, and the
journal.
-/

import ControlPlane.Router

namespace ControlPlane

open Text

/-- The lines of the next hops of a VRF that an interface resolves. -/
def Vrf.resolvedLines (vrf : Vrf) (name : String) : List String :=
  ((vrf.rib4.hops ++ vrf.rib6.hops).filter fun (_, _, hop) =>
    hop.egress.any fun egress => egress.name = name).map fun (destination, candidate, hop) =>
      (if candidate.selected && hop.selected then "*" else " ") ++ destination.text ++ " via " ++
        hop.nextHop.text ++ " (" ++ candidate.origin.name ++ ")"

/-- The line of a pending prefix. -/
def pendingLine (entry : Prefix × Option ForwardingRoute) : String :=
  " " ++ entry.1.text ++ ": " ++
    match entry.2 with
    | some route => "install " ++ decimal route.hops.length ++ " next-hops"
    | none => "delete"

def SyncStats.line (stats : SyncStats) : String :=
  " installed: " ++ decimal stats.installed ++ " replaced: " ++ decimal stats.replaced ++
    " deleted: " ++ decimal stats.deleted ++ " noops: " ++ decimal stats.noops ++
    " retries: " ++ decimal stats.retries ++ " failures: " ++ decimal stats.failures

/-- The lines of an interface: its state, its LAG, its addresses and what it resolves. -/
def Interface.reportLines (interface : Interface) (vrfs : VrfTable) : List String :=
  (" " ++ interface.name ++ " (ifindex " ++ decimal interface.index.toNat ++ ", " ++
    interface.kind.name ++ ") vrf " ++ decimal interface.vrf.toNat ++ " admin " ++
    interface.admin.name ++ " oper " ++ interface.oper.name ++ " " ++ interface.mode.name ++
    if interface.isUsable then "" else " (unusable)") ::
  (interface.lag.toList.map fun lag => "    member of " ++ lag) ++
  (if interface.networks.isEmpty then []
    else ["    addresses: " ++ String.intercalate ", " (interface.networks.map Network.text)]) ++
  match vrfs.get interface.vrf with
  | .ok vrf => (vrf.resolvedLines interface.name).map ("    " ++ ·)
  | .error _ => []

/-- The line of the sizes of a VRF. -/
def Vrf.sizeLine (vrf : Vrf) : String :=
  " vrf " ++ vrf.name ++ " (" ++ decimal vrf.id.toNat ++ "): prefixes " ++
    decimal vrf.rib4.size ++ "/" ++ decimal vrf.rib6.size ++ " entries " ++
    decimal (vrf.rib4.candidateCount + vrf.rib6.candidateCount) ++ " next-hops " ++
    decimal (vrf.rib4.hopCount + vrf.rib6.hopCount) ++ " fib " ++ decimal vrf.sync.fib.size ++
    " pending " ++ decimal vrf.sync.pendingCount ++ " statics " ++ decimal vrf.statics.size

namespace Router

variable {Kernel : Type} [KernelBackend Kernel]

/-- The candidates of a VRF under a boxed title. -/
def ribReport (router : Router Kernel) (id : UInt32) : Except RouteError String := do
  let vrf ← router.vrf id
  return frame ("RIB of vrf " ++ decimal id.toNat) ++ vrf.ribText

/-- The routes of the kernel of a VRF, and the prefixes that are not programmed yet. -/
def kernelReport (router : Router Kernel) (id : UInt32) : Except RouteError String := do
  let vrf ← router.vrf id
  let routes := KernelBackend.routes (router.kernel vrf.netns)
  let pending := vrf.sync.pending.entries
  return heading ("Kernel routes (netns " ++ vrf.netns ++ ")") ++
    lines (routes.map KernelRoute.text ++
      ["", " " ++ decimal routes.length ++ " routes", vrf.sync.stats.line]) ++
    if pending.isEmpty then ""
    else heading ("Pending (" ++ decimal pending.length ++ ")") ++ lines (pending.map pendingLine)

/-- The interfaces with their states and addresses, and the next hops each of them resolves. -/
def interfaceReport (router : Router Kernel) : String :=
  heading "L3 port cache" ++
    lines (router.state.interfaces.interfaces.flatMap fun interface =>
      interface.reportLines router.state.vrfs)

/-- The sizes of the tables. -/
def sizeReport (router : Router Kernel) : String :=
  heading "Memory" ++
    lines ([" interfaces: " ++ decimal router.state.interfaces.size,
      " vrfs: " ++ decimal router.state.vrfs.size] ++
      router.state.vrfs.vrfs.map Vrf.sizeLine ++
      [" events: " ++ decimal router.journal.size ++ " stored, " ++
        decimal router.journal.generated ++ " generated"])

/-- The journal, where the time of an entry is given by its number. -/
def journalReport (time : Nat → String) (router : Router Kernel) : String :=
  router.journal.text time RoutingEvent.text

end Router

end ControlPlane
