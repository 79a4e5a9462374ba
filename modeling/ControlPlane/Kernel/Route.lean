/-
This file defines routes as a kernel keeps them, their text, and when two of
them program the same forwarding.
-/

import ControlPlane.Route
import ControlPlane.RouteError

namespace ControlPlane

/-- A route of a kernel. -/
structure KernelRoute where
  destination : Prefix
  protocol : Origin
  hops : List ForwardingHop
  deriving DecidableEq

namespace KernelRoute

/-- The kernel route of a forwarding route. -/
def ofForwarding (route : ForwardingRoute) : KernelRoute :=
  ⟨route.destination, route.origin, route.hops⟩

/-- Whether two routes program the same forwarding. A kernel does not keep the order of next
hops, so if there are as many of them, they are compared in their sorted order. -/
def Matches (first second : KernelRoute) : Prop :=
  first.destination = second.destination ∧ first.protocol = second.protocol ∧
    first.hops.length = second.hops.length ∧
      OrderKey.sort first.hops = OrderKey.sort second.hops

instance (first second : KernelRoute) : Decidable (first.Matches second) :=
  inferInstanceAs (Decidable (_ ∧ _ ∧ _ ∧ _))

theorem Matches.refl (route : KernelRoute) : route.Matches route :=
  ⟨rfl, rfl, rfl, rfl⟩

theorem Matches.symm {first second : KernelRoute} (alike : first.Matches second) :
    second.Matches first :=
  ⟨alike.1.symm, alike.2.1.symm, alike.2.2.1.symm, alike.2.2.2.symm⟩

theorem Matches.trans {first second third : KernelRoute} (left : first.Matches second)
    (right : second.Matches third) : first.Matches third :=
  ⟨left.1.trans right.1, left.2.1.trans right.2.1, left.2.2.1.trans right.2.2.1,
    left.2.2.2.trans right.2.2.2⟩

/-- The destination as a kernel shows it. -/
def destinationText (route : KernelRoute) : String :=
  if route.destination.isRoot then "default"
  else if route.destination.isHost then route.destination.address.text
  else route.destination.text

def hopText (hop : ForwardingHop) : String :=
  match hop.gateway with
  | some address => "via " ++ address.text ++ " dev " ++ hop.name
  | none => "dev " ++ hop.name

/-- The text of a route: one line for a single next hop, and a line for each of several. -/
def text (route : KernelRoute) : String :=
  let protocol := " proto " ++ route.protocol.name
  route.destinationText ++
    match route.hops with
    | [hop] =>
      " " ++ hopText hop ++ protocol ++ if hop.gateway.isNone then " scope link" else ""
    | hops =>
      protocol ++ String.join (hops.map fun hop => "\n\tnexthop " ++ hopText hop ++ " weight 1")

end KernelRoute

end ControlPlane
