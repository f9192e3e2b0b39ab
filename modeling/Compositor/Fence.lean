/-!
# Fences

A fence stands for GPU work up to some point. It starts out pending and settles once, either because
the work completed or because it never will. Fences are names; the table says what each one's status
is, so that all holders of a fence see it settle at the same moment.
-/

set_option autoImplicit false

namespace Compositor

inductive FenceStatus where
  | signaled
  | pending
  | error
  deriving DecidableEq, Repr

namespace FenceStatus

def name : FenceStatus → String
  | .signaled => "signaled"
  | .pending => "pending"
  | .error => "error"

end FenceStatus

/-- The name of a fence in a table. Equal names are the same fence. -/
structure Fence where
  index : Nat
  deriving DecidableEq, Repr

inductive FenceOrigin where
  | device
  | caller
  /-- A caller; waiting for the fence loses the device before the wait returns. -/
  | tripwire
  deriving DecidableEq, Repr

structure FenceCell where
  status : FenceStatus
  origin : FenceOrigin
  deriving DecidableEq, Repr

structure Fences where
  cells : Array FenceCell
  deriving DecidableEq, Repr

namespace Fences

def empty : Fences := ⟨#[]⟩

def create (fences : Fences) (origin : FenceOrigin) (status : FenceStatus) : Fence × Fences :=
  (⟨fences.cells.size⟩, ⟨fences.cells.push ⟨status, origin⟩⟩)

/-- The status of a fence. A name that was never created is a fence that nobody will signal. -/
def status (fences : Fences) (fence : Fence) : FenceStatus :=
  match fences.cells[fence.index]? with
  | some cell => cell.status
  | none => .pending

def isPending (fences : Fences) (fence : Fence) : Bool := fences.status fence = .pending

def isSignaled (fences : Fences) (fence : Fence) : Bool := fences.status fence = .signaled

def origin? (fences : Fences) (fence : Fence) : Option FenceOrigin :=
  fences.cells[fence.index]?.map (·.origin)

def isTripwire (fences : Fences) (fence : Fence) : Bool := fences.origin? fence = some .tripwire

/-- Settles a pending fence. One that has settled keeps its first outcome. -/
def settle (fences : Fences) (outcome : FenceStatus) (fence : Fence) : Fences :=
  ⟨fences.cells.modify fence.index fun cell =>
    if cell.status = .pending then { cell with status := outcome } else cell⟩

/-- Settles a fence on behalf of a caller, who has no say over the fences of the device. -/
def settleByCaller (fences : Fences) (outcome : FenceStatus) (fence : Fence) : Fences :=
  if fences.origin? fence = some .caller then fences.settle outcome fence else fences

def settleAll (fences : Fences) (outcome : FenceStatus) (list : List Fence) : Fences :=
  list.foldl (fun fences fence => fences.settle outcome fence) fences

end Fences

end Compositor
