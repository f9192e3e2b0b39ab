import Compositor.Fence
import Compositor.Image

/-!
# The simulated device

A graphics device in memory. It issues images and fences, keeps a complete history of what happened
to it, and can be scripted: imports can be rejected, fences signaled out of band, and the device lost
at any moment. Losing it fails every fence that is still pending.
-/

set_option autoImplicit false

namespace Compositor

structure DeviceOptions where
  nativeFences : Bool
  protectedContent : Bool
  /-- Fences are signaled from the start, and otherwise when the device is told so or drained. -/
  autoSignal : Bool
  maxTextureSize : UInt32
  deriving DecidableEq, Repr

namespace DeviceOptions

def standard : DeviceOptions := ⟨true, true, true, 4096⟩

end DeviceOptions

/-- What a device is believed to be capable of. -/
structure Capabilities where
  nativeFences : Bool
  protectedContent : Bool
  maxTextureSize : UInt32
  maxViewportWidth : UInt32
  maxViewportHeight : UInt32
  deriving DecidableEq, Repr

namespace DeviceOptions

def capabilities (options : DeviceOptions) : Capabilities :=
  ⟨options.nativeFences, options.protectedContent, options.maxTextureSize, options.maxTextureSize,
    options.maxTextureSize⟩

end DeviceOptions

/-- An image that was issued and not destroyed. -/
structure LiveImage where
  handle : ImageHandle
  mode : Mode
  buffer : BufferId
  kind : ImageKind
  deriving DecidableEq, Repr

inductive ContextCall where
  | checkLost
  | importBuffer
  | createOutputImage
  | destroyImage
  | beginFrame
  | drawLayer
  | flush
  | finish
  deriving DecidableEq, Repr

namespace ContextCall

def all : List ContextCall :=
  [.checkLost, .importBuffer, .createOutputImage, .destroyImage, .beginFrame, .drawLayer, .flush,
    .finish]

def name : ContextCall → String
  | .checkLost => "is_lost"
  | .importBuffer => "import_buffer"
  | .createOutputImage => "create_output_image"
  | .destroyImage => "destroy_image"
  | .beginFrame => "begin_frame"
  | .drawLayer => "draw_layer"
  | .flush => "flush"
  | .finish => "finish"

def ofName? (text : String) : Option ContextCall := all.find? fun call => call.name == text

end ContextCall

/-- A loss of the device that comes before a context call: the given number of calls still pass. -/
structure ScheduledLoss where
  call : ContextCall
  remaining : Nat
  deriving DecidableEq, Repr

inductive ImageUse where
  | destroy
  | beginFrame
  | draw
  deriving DecidableEq, Repr

namespace ImageUse

def name : ImageUse → String
  | .destroy => "destroy"
  | .beginFrame => "begin_frame"
  | .draw => "draw"

end ImageUse

inductive Misuse where
  /-- The handle names no live image. -/
  | notLive (use : ImageUse) (handle : ImageHandle)
  /-- The image belongs to the context `owner`, and was used from `user`. -/
  | foreign (use : ImageUse) (handle : ImageHandle) (owner user : Mode)
  deriving DecidableEq, Repr

namespace Misuse

def message : Misuse → String
  | .notLive use handle =>
      s!"{use.name}: image ImageHandle({Nat.repr handle.number}) is not live"
  | .foreign use handle owner user =>
      s!"{use.name}: image ImageHandle({Nat.repr handle.number}) " ++
        s!"belongs to the {owner.name} context, used from {user.name}"

end Misuse

/-- What a draw recorded: a source into a target, or a colour without a source. -/
structure DrawRecord where
  mode : Mode
  target : ImageHandle
  source : Option ImageHandle
  deriving DecidableEq, Repr

inductive DeviceEvent where
  | requested (mode : Mode) (kind : ImageKind) (request : ImportRequest)
  | created (image : LiveImage)
  /-- The context of `mode` was handed images for one use, whatever came of it. -/
  | handed (mode : Mode) (use : ImageUse) (handles : List ImageHandle)
  | destroyed (handle : ImageHandle)
  | misused (misuse : Misuse)
  | began (mode : Mode) (target : ImageHandle)
  | drawn (record : DrawRecord)
  | flushed (fence : Option Fence)
  /-- A context was asked to drain the device, which works unless the device is lost. -/
  | finished (drained : Bool)
  | settled (outcome : FenceStatus) (fences : List Fence)
  | lost
  deriving DecidableEq, Repr

namespace DeviceEvent

def isFlush : DeviceEvent → Bool
  | .flushed _ => true
  | _ => false

def isFinish : DeviceEvent → Bool
  | .finished _ => true
  | _ => false

def misuse? : DeviceEvent → Option Misuse
  | .misused misuse => some misuse
  | _ => none

def draw? : DeviceEvent → Option DrawRecord
  | .drawn record => some record
  | _ => none

def destroyed? : DeviceEvent → Option ImageHandle
  | .destroyed handle => some handle
  | _ => none

end DeviceEvent

structure Device where
  options : DeviceOptions
  fences : Fences
  /-- How many image handles were issued; they are numbered from 1. -/
  issued : Nat
  live : List LiveImage
  /-- The fences of the device that have not settled, oldest first. -/
  pending : List Fence
  rejecting : List BufferId
  lost : Bool
  schedule : List ScheduledLoss
  /-- What happened to the device, the latest event first. -/
  events : List DeviceEvent
  deriving DecidableEq, Repr

namespace Device

def new (options : DeviceOptions) : Device := ⟨options, .empty, 0, [], [], [], false, [], []⟩

def log (device : Device) (event : DeviceEvent) : Device :=
  { device with events := event :: device.events }

/-! ## Looking at a device -/

def findLive? (device : Device) (handle : ImageHandle) : Option LiveImage :=
  device.live.find? (·.handle == handle)

def isLive (device : Device) (handle : ImageHandle) : Bool := (device.findLive? handle).isSome

def liveOf (device : Device) (mode : Mode) (kind : ImageKind) : List LiveImage :=
  device.live.filter fun image => image.mode = mode ∧ image.kind = kind

def texturesFor (device : Device) (buffer : BufferId) : List LiveImage :=
  device.live.filter fun image => image.buffer = buffer ∧ image.kind = .texture

/-- What happened to a device, the first event first, apart from the first `seen` events. -/
def eventsSince (device : Device) (seen : Nat) : List DeviceEvent :=
  device.events.reverse.drop seen

def history (device : Device) : List DeviceEvent := device.eventsSince 0

def flushes (device : Device) : Nat := device.events.countP DeviceEvent.isFlush

def finishes (device : Device) : Nat := device.events.countP DeviceEvent.isFinish

def misuses (device : Device) : List Misuse := device.history.filterMap DeviceEvent.misuse?

def draws (device : Device) : List DrawRecord := device.history.filterMap DeviceEvent.draw?

def destroyed (device : Device) : List ImageHandle :=
  device.history.filterMap DeviceEvent.destroyed?

/-! ## Scripting a device -/

def settle (device : Device) (outcome : FenceStatus) (fences : List Fence) : Device :=
  { device with fences := device.fences.settleAll outcome fences }.log (.settled outcome fences)

/-- Makes every context unusable and fails the pending fences. -/
def lose (device : Device) : Device :=
  { device.settle .error device.pending with lost := true, pending := [] }.log .lost

def signalAll (device : Device) : Device :=
  { device.settle .signaled device.pending with pending := [] }

def signalNext (device : Device) : Bool × Device :=
  match device.pending with
  | [] => (false, device)
  | fence :: rest => (true, { device.settle .signaled [fence] with pending := rest })

def rejectImports (device : Device) (buffer : BufferId) : Device :=
  { device with rejecting := buffer :: device.rejecting }

def allowImports (device : Device) (buffer : BufferId) : Device :=
  { device with rejecting := device.rejecting.filter (· ≠ buffer) }

/-- Schedules a loss: after `passing` further calls of the given kind, the device is lost before
each one that follows. -/
def scheduleLoss (device : Device) (call : ContextCall) (passing : Nat) : Device :=
  { device with schedule := device.schedule ++ [⟨call, passing⟩] }

/-! ## Fences of a device's users -/

def createFence (device : Device) (origin : FenceOrigin) (status : FenceStatus) : Fence × Device :=
  let (fence, fences) := device.fences.create origin status
  (fence, { device with fences })

def settleFence (device : Device) (outcome : FenceStatus) (fence : Fence) : Device :=
  { device with fences := device.fences.settleByCaller outcome fence }

/-- Waits for a fence, as long as the caller has patience, and says whether it signaled. No fence
settles during a wait, but waiting for a tripwire loses the device. -/
def await (device : Device) (fence : Fence) : Bool × Device :=
  (device.fences.isSignaled fence,
    if device.fences.isTripwire fence then device.lose else device)

end Device

end Compositor
