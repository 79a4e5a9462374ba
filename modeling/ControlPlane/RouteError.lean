/-
This file lists the reasons for which an operation on a router fails and gives
each its message. Failures of the kernel carry the operation and the cause.
-/

import ControlPlane.Config.Error

namespace ControlPlane

open Text

/-! ### Kernel failures -/

/-- The operations on the routes of a kernel. -/
inductive KernelOp
  | openNamespace
  | observe
  | install
  | replace
  | delete
  deriving DecidableEq

namespace KernelOp

def name : KernelOp → String
  | openNamespace => "open"
  | observe => "observe"
  | install => "install"
  | replace => "replace"
  | delete => "delete"

def rank : KernelOp → Nat
  | openNamespace => 0
  | observe => 1
  | install => 2
  | replace => 3
  | delete => 4

def ofName? (name : String) : Option KernelOp :=
  [openNamespace, observe, install, replace, delete].find? fun op => op.name = name

instance : OrderKey KernelOp where
  code op := [op.rank]
  split_code {first second rest rest'} same := by
    have parts := List.cons.inj same
    refine ⟨?_, parts.2⟩
    cases first <;> cases second <;> first | rfl | cases parts.1

end KernelOp

/-- The causes for which a system refuses an operation. A cause without a constructor of its own
is given by its symbol and its explanation. -/
inductive Errno
  | notPermitted
  | noEntry
  | noProcess
  | interrupted
  | inputOutput
  | again
  | busy
  | alreadyExists
  | invalid
  | networkUnreachable
  | noBufferSpace
  | other (symbol explanation : String)
  deriving DecidableEq

namespace Errno

/-- The symbol of a cause. -/
def symbol : Errno → String
  | notPermitted => "EPERM"
  | noEntry => "ENOENT"
  | noProcess => "ESRCH"
  | interrupted => "EINTR"
  | inputOutput => "EIO"
  | again => "EAGAIN"
  | busy => "EBUSY"
  | alreadyExists => "EEXIST"
  | invalid => "EINVAL"
  | networkUnreachable => "ENETUNREACH"
  | noBufferSpace => "ENOBUFS"
  | other symbol _ => symbol

def explanation : Errno → String
  | notPermitted => "Operation not permitted"
  | noEntry => "No such file or directory"
  | noProcess => "No such process"
  | interrupted => "Interrupted system call"
  | inputOutput => "I/O error"
  | again => "Try again"
  | busy => "Device or resource busy"
  | alreadyExists => "File exists"
  | invalid => "Invalid argument"
  | networkUnreachable => "Network is unreachable"
  | noBufferSpace => "No buffer space available"
  | other _ explanation => explanation

/-- The causes with a constructor of their own. -/
def all : List Errno :=
  [notPermitted, noEntry, noProcess, interrupted, inputOutput, again, busy, alreadyExists, invalid,
    networkUnreachable, noBufferSpace]

def ofSymbol? (symbol : String) : Option Errno :=
  all.find? fun errno => errno.symbol = symbol

end Errno

/-- A failed operation of a kernel. -/
structure KernelError where
  op : KernelOp
  errno : Errno
  deriving DecidableEq

namespace KernelError

/-- Whether the operation is worth another try right away. -/
def isTransient (error : KernelError) : Bool :=
  match error.errno with
  | .again | .interrupted | .busy | .noBufferSpace => true
  | _ => false

def message (error : KernelError) : String :=
  "kernel route " ++ error.op.name ++ " failed: " ++ error.errno.symbol ++ ": " ++
    error.errno.explanation

end KernelError

/-! ### Failures of a router -/

/-- Why an operation on a router fails. -/
inductive RouteError
  | unknownInterface (name : String)
  | interfaceExists (name : String)
  | unknownVrf (text : String)
  | vrfExists (id : UInt32)
  | vrfNameExists (name : String)
  | defaultVrf
  | vrfBusy (name : String)
  | unknownRoute (destination : Prefix)
  | vrfMismatch (destination : Prefix) (vrf : UInt32)
  | invalidConfig (error : ConfigError)
  | kernelSync (destination : Prefix) (error : KernelError)
  | kernel (error : KernelError)
  deriving DecidableEq

def RouteError.message : RouteError → String
  | unknownInterface name => "No interface named '" ++ name ++ "'"
  | interfaceExists name => "An interface named '" ++ name ++ "' already exists"
  | unknownVrf text => "No such VRF: " ++ text
  | vrfExists id => "A VRF with id " ++ decimal id.toNat ++ " already exists"
  | vrfNameExists name => "A VRF named '" ++ name ++ "' already exists"
  | defaultVrf => "The default VRF cannot be removed"
  | vrfBusy name => "VRF " ++ name ++ " has interfaces attached"
  | unknownRoute destination => "No such route: " ++ destination.text
  | vrfMismatch destination vrf =>
    "Route for " ++ destination.text ++ " does not belong to VRF " ++ decimal vrf.toNat
  | invalidConfig error => "Invalid configuration: " ++ error.message
  | kernelSync destination error =>
    "Failed to sync " ++ destination.text ++ " to kernel: " ++ error.message
  | kernel error => "Kernel error: " ++ error.message

/-- What consists of two parts succeeds only if both parts succeed. -/
theorem exists_of_bind_eq_ok {Value Next : Type} {first : Except RouteError Value}
    {second : Value → Except RouteError Next} {result : Next}
    (answered : (first >>= second) = .ok result) :
    ∃ value, first = .ok value ∧ second value = .ok result := by
  cases first with
  | error error => cases answered
  | ok value => exact ⟨value, rfl, answered⟩

end ControlPlane
