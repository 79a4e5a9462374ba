/-
This file gives values a form as data, in which tools read them. A value that
has a text of its own is shown by its text, a missing value is null, and what a
failed operation would have answered is replaced by the code and the message of
the failure.
-/

import ControlPlane.Config.Interface
import ControlPlane.Kernel.Route

namespace ControlPlane

/-- Values that have a form as data. -/
class Viewable (Value : Type) where
  view : Value → Data

export Viewable (view)

/-! ### Scalars -/

instance : Viewable Data := ⟨id⟩

instance : Viewable String := ⟨.text⟩

instance : Viewable Bool := ⟨.flag⟩

instance : Viewable Nat := ⟨.ofNat⟩

instance : Viewable UInt8 := ⟨fun word => .ofNat word.toNat⟩

instance : Viewable UInt16 := ⟨fun word => .ofNat word.toNat⟩

instance : Viewable UInt32 := ⟨fun word => .ofNat word.toNat⟩

instance : Viewable IPv4 := ⟨fun word => .text (IPv4.text word)⟩

instance : Viewable Address := ⟨.ofAddress⟩

instance : Viewable Network := ⟨.ofNetwork⟩

instance : Viewable Prefix := ⟨fun destination => .text destination.text⟩

/-! ### Composed values -/

variable {First Second Value Failure : Type}

instance [Viewable Value] : Viewable (Option Value) := ⟨.ofOption view⟩

instance [Viewable Value] : Viewable (List Value) := ⟨fun values => .list (values.map view)⟩

instance [Viewable First] [Viewable Second] : Viewable (First × Second) :=
  ⟨fun pair => .list [view pair.1, view pair.2]⟩

/-- An operation that answers nothing is shown as done. -/
instance : Viewable Unit := ⟨fun _ => .text "Ok"⟩

instance [Viewable Failure] [Viewable Value] : Viewable (Except Failure Value) where
  view
    | .ok value => view value
    | .error failure => view failure

/-! ### Failures -/

/-- The code of a reason for which a configuration is refused. -/
def ConfigError.code : ConfigError → String
  | missingMask _ => "MissingMask"
  | malformedDestination _ => "BadPrefix"
  | malformedNextHop _ => "BadNextHop"
  | reservedDestination .. => "ReservedPrefix"
  | reservedNextHop .. => "ReservedNextHop"
  | localNextHop _ => "LocalNextHop"
  | familyMismatch .. => "FamilyMismatch"
  | unboundLinkLocal _ => "LinkLocalWithoutInterface"
  | badDistance _ => "BadDistance"
  | otherAsnConfigured _ => "DuplicateBgpAsn"
  | badAsn _ => "BadAsn"
  | ecmpDisabled => "EcmpDisabled"
  | badMaxPaths => "BadMaxPaths"
  | duplicateVrfName _ => "DuplicateVrfName"
  | duplicateVrfId _ => "DuplicateVrfId"
  | unknownVrf _ => "NoSuchVrf"
  | duplicateInterfaceName _ => "DuplicateInterfaceName"
  | duplicateInterfaceIndex _ => "DuplicateIfindex"
  | unknownLag .. => "NoSuchLag"
  | badInterfaceAddress .. => "BadInterfaceAddress"
  | badRouterId _ => "BadRouterId"
  | tracing _ => "Tracing"
  | unreadable _ => "Parse"

/-- The code of a reason for which an operation on a router fails. -/
def RouteError.code : RouteError → String
  | unknownInterface _ => "NoSuchInterface"
  | interfaceExists _ => "InterfaceExists"
  | unknownVrf _ => "NoSuchVrf"
  | vrfExists _ => "VrfExists"
  | vrfNameExists _ => "VrfNameExists"
  | defaultVrf => "DefaultVrf"
  | vrfBusy _ => "VrfBusy"
  | unknownRoute _ => "NoSuchRoute"
  | vrfMismatch .. => "VrfMismatch"
  | invalidConfig _ => "InvalidConfig"
  | kernelSync .. => "KernelSync"
  | kernel _ => "Kernel"

def PrefixError.code : PrefixError → String
  | malformed _ => "Invalid"
  | badLength _ => "InvalidLength"

def Tracing.TraceError.code : Tracing.TraceError → String
  | malformedItem _ => "Syntax"
  | unknownLevel _ => "InvalidLevel"
  | unknownTag _ => "UnknownTag"

/-- The fields of a failure. -/
def failureFields (code message : String) : List (String × Data) :=
  [("error", .text code), ("message", .text message)]

instance : Viewable ConfigError := ⟨fun error => .fields (failureFields error.code error.message)⟩

instance : Viewable RouteError := ⟨fun error => .fields (failureFields error.code error.message)⟩

instance : Viewable PrefixError := ⟨fun error => .fields (failureFields error.code error.message)⟩

instance : Viewable Tracing.TraceError :=
  ⟨fun error => .fields (failureFields error.code error.message)⟩

instance : Viewable KernelError :=
  ⟨fun error => .fields (failureFields "KernelError" error.message)⟩

instance : Viewable MissingSetting :=
  ⟨fun missing => .fields (failureFields "UninitializedField" missing.message)⟩

/-- The view of a check, with its text if it failed. -/
def ConfigResult.view (result : ConfigResult) : Data :=
  match result with
  | .ok () => .text "Ok"
  | .error error =>
    .fields (failureFields error.code error.message ++ [("text", .text result.text)])

end ControlPlane
