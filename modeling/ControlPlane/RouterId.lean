/-
This file selects the router-id of a VRF. A configured router-id always wins.
The automatic selection is sticky: a chosen address stays while it is a
candidate, unless it is not a loopback address and a loopback address shows up.
A new choice takes a loopback address if there is one, and the highest address.
-/

import ControlPlane.Address.Text

namespace ControlPlane

/-- An address that may become the router-id. -/
structure RouterIdCandidate where
  name : String
  address : IPv4
  loopback : Bool
  deriving DecidableEq

namespace RouterIdCandidate

/-- Loopback addresses rank above all others, and higher addresses above lower ones. -/
def rank (candidate : RouterIdCandidate) : Nat :=
  (if candidate.loopback then 2 ^ 32 else 0) + candidate.address.toNat

/-- The candidate of the highest rank, the last one of several. -/
def best? : List RouterIdCandidate → Option RouterIdCandidate
  | [] => none
  | candidate :: rest =>
    match best? rest with
    | none => some candidate
    | some best => if best.rank < candidate.rank then some candidate else some best

end RouterIdCandidate

/-- Where the router-id in use comes from. -/
inductive RouterIdSource
  | configured
  | interface (name : String)
  deriving DecidableEq

/-- The configured router-id and the automatically selected candidate. -/
structure RouterIdSelection where
  configured : Option IPv4
  active : Option RouterIdCandidate
  deriving DecidableEq

namespace RouterIdSelection

/-- The selection of a VRF without addresses. -/
def empty : RouterIdSelection :=
  ⟨none, none⟩

/-- The router-id in use. -/
def routerId (selection : RouterIdSelection) : Option IPv4 :=
  match selection.configured with
  | some word => some word
  | none => selection.active.map RouterIdCandidate.address

def source (selection : RouterIdSelection) : Option RouterIdSource :=
  match selection.configured with
  | some _ => some .configured
  | none => selection.active.map fun candidate => .interface candidate.name

/-- Sets or clears the configured router-id. -/
def configure (selection : RouterIdSelection) (routerId : Option IPv4) : RouterIdSelection :=
  { selection with configured := routerId }

/-- Whether the active candidate stays active among the given candidates. -/
def keepsActive (selection : RouterIdSelection) (candidates : List RouterIdCandidate) : Bool :=
  match selection.active with
  | none => false
  | some active =>
    candidates.contains active && (active.loopback || !candidates.any RouterIdCandidate.loopback)

/-- Evaluates the automatic selection again for the given candidates. -/
def update (selection : RouterIdSelection) (candidates : List RouterIdCandidate) :
    RouterIdSelection :=
  if selection.keepsActive candidates then selection
  else { selection with active := RouterIdCandidate.best? candidates }

def text (selection : RouterIdSelection) : String :=
  match selection.routerId, selection.source with
  | some word, some .configured => IPv4.text word ++ " (configured)"
  | some word, some (.interface name) => IPv4.text word ++ " (" ++ name ++ ")"
  | _, _ => "none"

end RouterIdSelection

end ControlPlane
