/-
This file gives the views of routes, interfaces, tables, tracing targets and
route messages.
-/

import ControlPlane.Interface.Change
import ControlPlane.Kernel.Netlink
import ControlPlane.Kernel.Synchronizer
import ControlPlane.Rib.Selection
import ControlPlane.Tracing.Components
import ControlPlane.View

namespace ControlPlane

/-! ### Prefixes and next hops -/

/-- The properties of a prefix. -/
def Prefix.properties (destination : Prefix) : List (String × Data) :=
  [("prefix", view destination), ("afi", view destination.family.name),
    ("len", view destination.length), ("addr", view destination.address),
    ("root", view destination.isRoot), ("host", view destination.isHost),
    ("v4", view (destination.family == .ipv4)), ("v6", view (destination.family == .ipv6)),
    ("net", view destination.network)]

instance : Viewable Egress := ⟨fun egress => view (egress.name, egress.index)⟩

instance : Viewable Hop where
  view hop :=
    .fields [("via", view hop.nextHop.text), ("sel", view hop.selected), ("over", view hop.egress)]

instance : Viewable ForwardingHop where
  view hop := .list [view hop.gateway, view hop.name, view hop.index]

/-! ### Routes -/

instance : Viewable Candidate where
  view candidate :=
    .fields [("vrf", view candidate.vrf), ("prefix", view candidate.destination),
      ("origin", view candidate.origin.name), ("instance", view candidate.inst),
      ("distance", view candidate.distance), ("metric", view candidate.metric),
      ("ibgp", view candidate.internal), ("sel", view candidate.selected),
      ("nhops", view candidate.hops)]

instance : Viewable ForwardingRoute where
  view route :=
    .fields [("prefix", view route.destination), ("origin", view route.origin.name),
      ("distance", view route.distance), ("metric", view route.metric), ("nhops", view route.hops)]

instance : Viewable Delta where
  view
    | .unchanged destination =>
      .fields [("delta", view "unchanged"), ("prefix", view destination)]
    | .add new => .fields [("delta", view "add"), ("new", view new)]
    | .replace old new => .fields [("delta", view "replace"), ("old", view old), ("new", view new)]
    | .remove old => .fields [("delta", view "remove"), ("old", view old)]

instance : Viewable StaticRoute := ⟨fun route => .text route.text⟩

instance : Viewable KernelRoute := ⟨fun route => .text route.text⟩

/-- The candidates of a prefix and the route selected among them. -/
def CandidateSet.entryView (destination : Prefix) (set : CandidateSet) : Data :=
  .fields [("prefix", view destination), ("entries", view set.list),
    ("nexthops", view set.hopCount), ("empty", view set.list.isEmpty),
    ("installed", view set.installed)]

/-! ### Interfaces and router-ids -/

instance : Viewable Interface where
  view interface :=
    .fields [("name", view interface.name), ("ifindex", view interface.index),
      ("kind", view interface.kind.name), ("lag", view interface.lag), ("vrf", view interface.vrf),
      ("admin", view interface.admin.name), ("oper", view interface.oper.name),
      ("mode", view interface.mode.name), ("addresses", view interface.networks),
      ("usable", view interface.isUsable)]

instance : Viewable InterfaceChange := ⟨fun change => view (change.text, change.index)⟩

instance : Viewable RouterIdCandidate where
  view candidate := .list [view candidate.name, view candidate.address, view candidate.loopback]

instance : Viewable RouterIdSource where
  view
    | .configured => view "configured"
    | .interface name => .fields [("interface", view name)]

/-- The router-id in use, where it comes from, and what it was selected from. -/
def RouterIdSelection.properties (selection : RouterIdSelection) : List (String × Data) :=
  [("id", view selection.routerId), ("configured", view selection.configured),
    ("source", view selection.source), ("active", view selection.active),
    ("text", view selection.text)]

/-! ### Forwarding -/

instance : Viewable Fib where
  view fib :=
    let v4 := fib.routesOf .ipv4
    let v6 := fib.routesOf .ipv6
    .fields [("vrf", view fib.vrf), ("version", view fib.version),
      ("len", view [fib.size, v4.length, v6.length]), ("empty", view fib.isEmpty),
      ("v4", view (v4.map ForwardingRoute.destination)),
      ("v6", view (v6.map ForwardingRoute.destination))]

instance : Viewable SyncOutcome where
  view
    | .noop => view "Noop"
    | .installed => view "Installed"
    | .replaced => view "Replaced"
    | .deleted => view "Deleted"

instance : Viewable SyncStats where
  view stats :=
    view [stats.installed, stats.replaced, stats.deleted, stats.noops, stats.retries,
      stats.failures]

/-- The progress of a synchronizer. -/
def Synchronizer.properties (sync : Synchronizer) : List (String × Data) :=
  [("netns", view sync.netns), ("stats", view sync.stats), ("pending", view sync.pending.entries),
    ("num_pending", view sync.pendingCount)]

/-! ### Tracing -/

instance : Viewable Tracing.Target where
  view target :=
    .fields [("target", view target.target), ("level", view target.level.name),
      ("tags", view target.tags), ("text", view (Tracing.TargetTable.targetRow target))]

/-! ### Messages -/

instance : Viewable Netlink.HopAttribute where
  view
    | .gateway address => .fields [("gw", view address)]
    | .rawGateway bytes => .fields [("gw_raw", view bytes)]
    | .other kind bytes => .fields [("kind", view kind.toNat), ("other", view bytes)]

/-- A next hop of several weighs as much as the others and has no flags. -/
instance : Viewable Netlink.MessageHop where
  view hop :=
    .fields [("ifindex", view hop.index), ("hops", view 0), ("flags", view 0),
      ("attributes", view hop.attributes)]

instance : Viewable Netlink.Attribute where
  view
    | .destination address => .fields [("dst", view address)]
    | .rawDestination bytes => .fields [("dst_raw", view bytes)]
    | .outputInterface index => .fields [("oif", view index)]
    | .hop part => view part
    | .multipath hops => .fields [("multipath", view hops)]
    | .table id => .fields [("table", view id)]
    | .priority value => .fields [("priority", view value)]

/-- A message matches no source and no type of service, and has no flags. -/
instance : Viewable Netlink.Message where
  view message :=
    .fields [("family", view message.family), ("dst_len", view message.length),
      ("src_len", view 0), ("tos", view 0), ("table", view message.table),
      ("protocol", view message.protocol), ("scope", view message.scope),
      ("kind", view message.kind), ("flags", view 0), ("attributes", view message.attributes)]

/-- A kernel route by its parts, with its text. -/
def KernelRoute.parts (route : KernelRoute) : Data :=
  .fields [("prefix", view route.destination), ("origin", view route.protocol.name),
    ("nhops", view route.hops), ("text", view route)]

end ControlPlane
