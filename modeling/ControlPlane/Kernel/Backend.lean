/-
This file says what a kernel offers to whoever programs its routes, and defines
the kernel that keeps its routes in memory and fails on demand. It also holds
the kernels of all network namespaces, which are opened by name.
-/

import ControlPlane.Kernel.Route

namespace ControlPlane

/-! ### Kernels -/

/-- The operations on the routes of one network namespace. An operation that fails may still
change the kernel, and the default kernel is one that nothing was done to. -/
class KernelBackend (Kernel : Type) extends Inhabited Kernel where
  observe : Prefix → Kernel → Except KernelError (Option KernelRoute) × Kernel
  install : KernelRoute → Kernel → Except KernelError Unit × Kernel
  replace : KernelRoute → Kernel → Except KernelError Unit × Kernel
  delete : Prefix → Kernel → Except KernelError Unit × Kernel
  routes : Kernel → List KernelRoute

/-! ### Kernels in memory -/

/-- A kernel kept in memory: its routes, the number of changes made to them, and for some
operations a failure with the number of times it will still occur. -/
structure MemoryKernel where
  routes : SortedMap Prefix KernelRoute
  mutations : Nat
  faults : SortedMap KernelOp (Errno × Nat)
  deriving DecidableEq

namespace MemoryKernel

/-- The kernel without routes and failures. -/
def empty : MemoryKernel :=
  ⟨SortedMap.empty, 0, SortedMap.empty⟩

instance : Inhabited MemoryKernel :=
  ⟨empty⟩

/-- Makes the next operations of a kind fail. Zero failures change nothing. -/
def inject (kernel : MemoryKernel) (op : KernelOp) (errno : Errno) (count : Nat) : MemoryKernel :=
  if count = 0 then kernel else { kernel with faults := kernel.faults.insert op (errno, count) }

/-- The failure that an operation meets, if any, and the kernel after it occurred. -/
def fault (kernel : MemoryKernel) (op : KernelOp) : Option KernelError × MemoryKernel :=
  match kernel.faults.find? op with
  | none => (none, kernel)
  | some (errno, count) =>
    (some ⟨op, errno⟩,
      { kernel with
        faults :=
          if count ≤ 1 then kernel.faults.erase op
          else kernel.faults.insert op (errno, count - 1) })

def put (kernel : MemoryKernel) (route : KernelRoute) : MemoryKernel :=
  { kernel with
    routes := kernel.routes.insert route.destination route
    mutations := kernel.mutations + 1 }

/-- Reads the route of a prefix. -/
def observe (destination : Prefix) (kernel : MemoryKernel) :
    Except KernelError (Option KernelRoute) × MemoryKernel :=
  match kernel.fault .observe with
  | (some error, kernel) => (.error error, kernel)
  | (none, kernel) => (.ok (kernel.routes.find? destination), kernel)

/-- Adds a route for a prefix that has none. -/
def install (route : KernelRoute) (kernel : MemoryKernel) :
    Except KernelError Unit × MemoryKernel :=
  match kernel.fault .install with
  | (some error, kernel) => (.error error, kernel)
  | (none, kernel) =>
    if kernel.routes.contains route.destination then
      (.error ⟨.install, .alreadyExists⟩, kernel)
    else (.ok (), kernel.put route)

/-- Adds a route, in the place of the one of its prefix. -/
def replace (route : KernelRoute) (kernel : MemoryKernel) :
    Except KernelError Unit × MemoryKernel :=
  match kernel.fault .replace with
  | (some error, kernel) => (.error error, kernel)
  | (none, kernel) => (.ok (), kernel.put route)

/-- Deletes the route of a prefix that has one. -/
def delete (destination : Prefix) (kernel : MemoryKernel) :
    Except KernelError Unit × MemoryKernel :=
  match kernel.fault .delete with
  | (some error, kernel) => (.error error, kernel)
  | (none, kernel) =>
    if kernel.routes.contains destination then
      (.ok (),
        { kernel with
          routes := kernel.routes.erase destination
          mutations := kernel.mutations + 1 })
    else (.error ⟨.delete, .noProcess⟩, kernel)

instance : KernelBackend MemoryKernel where
  observe := observe
  install := install
  replace := replace
  delete := delete
  routes kernel := kernel.routes.values

end MemoryKernel

/-! ### Namespaces -/

/-- The kernels of namespaces, the namespaces opened so far, and those that cannot be opened. A
namespace may have a kernel before it is opened. -/
structure KernelSpace (Kernel : Type) where
  kernels : SortedMap String Kernel
  opened : SortedSet String
  refusals : SortedMap String Errno

namespace KernelSpace

variable {Kernel : Type} [KernelBackend Kernel]

/-- The space in which no namespace is open yet. -/
def empty : KernelSpace Kernel :=
  ⟨SortedMap.empty, SortedMap.empty, SortedMap.empty⟩

/-- The kernel of a namespace. -/
def kernel (space : KernelSpace Kernel) (netns : String) : Kernel :=
  (space.kernels.find? netns).getD default

def store (space : KernelSpace Kernel) (netns : String) (kernel : Kernel) : KernelSpace Kernel :=
  { space with kernels := space.kernels.insert netns kernel }

/-- Opens a namespace. Its kernel is the one it had before. -/
def openNamespace (space : KernelSpace Kernel) (netns : String) :
    Except KernelError (KernelSpace Kernel) :=
  match space.refusals.find? netns with
  | some errno => .error ⟨.openNamespace, errno⟩
  | none => .ok { space with opened := space.opened.insert netns () }

end KernelSpace

end ControlPlane
