import Compositor.Device.Basic
import Compositor.Layer

/-!
# Context calls

The calls that a device answers through its contexts. A context is named by its mode: images know
which mode issued them, and a context refuses those of the other one. Refused and impossible calls
change nothing but the history.
-/

set_option autoImplicit false

namespace Compositor.Device

def openContext (device : Device) (mode : Mode) : Except EngineError Unit :=
  if mode = .secure ∧ ¬device.options.protectedContent then .error .protectedUnavailable
  else if device.lost then .error .contextLost
  else .ok ()

def lossDue (device : Device) (call : ContextCall) : Bool :=
  device.schedule.any fun loss => loss.call = call ∧ loss.remaining = 0

def countDown (device : Device) (call : ContextCall) : Device :=
  { device with
    schedule := device.schedule.map fun loss =>
      if loss.call = call then { loss with remaining := loss.remaining - 1 } else loss }

/-- A context call arrives: the device is lost first if that is scheduled. -/
def arrive (device : Device) (call : ContextCall) : Device :=
  let counted := device.countDown call
  if device.lossDue call then counted.lose else counted

/-- Asks whether the device is lost. -/
def checkLost (device : Device) : Bool × Device :=
  let device := device.arrive .checkLost
  (device.lost, device)

def issue (device : Device) (mode : Mode) (kind : ImageKind) (buffer : BufferId) :
    ImageHandle × Device :=
  let image : LiveImage := ⟨⟨device.issued + 1⟩, mode, buffer, kind⟩
  (image.handle,
    { device with issued := device.issued + 1, live := device.live ++ [image] }.log
      (.created image))

def rejection : ImageKind → ImportFailure
  | .texture => .bufferRejected
  | .output => .targetRejected

def answer (device : Device) (mode : Mode) (kind : ImageKind) (request : ImportRequest) :
    Except BindError ImageHandle × Device :=
  let device := device.log (.requested mode kind request)
  if device.lost then (.error .contextLost, device)
  else if request.buffer.id ∈ device.rejecting then
    (.error (.importFailed request.buffer.id (rejection kind)), device)
  else
    let (handle, device) := device.issue mode kind request.buffer.id
    (.ok handle, device)

def importBuffer (device : Device) (mode : Mode) (request : ImportRequest) :
    Except BindError ImageHandle × Device :=
  (device.arrive .importBuffer).answer mode .texture request

def targetFailure : BindError → EngineError
  | .contextLost => .contextLost
  | cause => .bind cause

def createOutputImage (device : Device) (mode : Mode) (request : ImportRequest) :
    Except EngineError ImageHandle × Device :=
  let (result, device) := (device.arrive .createOutputImage).answer mode .output request
  (result.mapError targetFailure, device)

/-- What is wrong with using a handle from the context of `mode`. -/
def misuse? (device : Device) (mode : Mode) (use : ImageUse) (handle : ImageHandle) :
    Option Misuse :=
  match device.findLive? handle with
  | none => some (.notLive use handle)
  | some image => if image.mode = mode then none else some (.foreign use handle image.mode mode)

/-- Destroys an image, if the context of `mode` owns it. -/
def release (device : Device) (mode : Mode) (handle : ImageHandle) : Device :=
  match device.misuse? mode .destroy handle with
  | some misuse => device.log (.misused misuse)
  | none =>
    { device with live := device.live.filter (·.handle ≠ handle) }.log (.destroyed handle)

def acceptDestroy (device : Device) (mode : Mode) (handle : ImageHandle) : Device :=
  (device.log (.handed mode .destroy [handle])).release mode handle

def destroyImage (device : Device) (mode : Mode) (handle : ImageHandle) : Device :=
  (device.arrive .destroyImage).acceptDestroy mode handle

def acceptBegin (device : Device) (mode : Mode) (target : ImageHandle) :
    Except EngineError Unit × Device :=
  let device := device.log (.handed mode .beginFrame [target])
  if device.lost then (.error .contextLost, device)
  else
    match device.misuse? mode .beginFrame target with
    | some misuse => (.error (.validation .targetNotLive), device.log (.misused misuse))
    | none => (.ok (), device.log (.began mode target))

/-- Binds a render target. The display only tells where its pixels go. -/
def beginFrame (device : Device) (mode : Mode) (target : ImageHandle) (_display : Display) :
    Except EngineError Unit × Device :=
  (device.arrive .beginFrame).acceptBegin mode target

/-- Answers a draw. Only the source is checked. -/
def acceptDraw (device : Device) (mode : Mode) (target : ImageHandle)
    (source : Option ImageHandle) : Except EngineError Unit × Device :=
  let device := device.log (.handed mode .draw (target :: source.toList))
  if device.lost then (.error .contextLost, device)
  else
    match source.bind (device.misuse? mode .draw) with
    | some misuse => (.error (.validation .sourceNotLive), device.log (.misused misuse))
    | none => (.ok (), device.log (.drawn ⟨mode, target, source⟩))

def drawLayer (device : Device) (mode : Mode) (target : ImageHandle) (source : Option ImageHandle)
    (_layer : Layer) : Except EngineError Unit × Device :=
  (device.arrive .drawLayer).acceptDraw mode target source

def acceptFlush (device : Device) : Option Fence × Device :=
  if device.lost ∨ ¬device.options.nativeFences then (none, device.log (.flushed none))
  else
    let (fence, fences) := device.fences.create .device .pending
    let device := { device with fences }.log (.flushed (some fence))
    if device.options.autoSignal then (some fence, device.settle .signaled [fence])
    else (some fence, { device with pending := device.pending ++ [fence] })

/-- Submits the recorded commands, and gives a fence for them if the device has fences. -/
def flush (device : Device) : Option Fence × Device := (device.arrive .flush).acceptFlush

def acceptFinish (device : Device) : Bool × Device :=
  if device.lost then (false, device.log (.finished false))
  else (true, (device.log (.finished true)).signalAll)

/-- Blocks until everything submitted has completed, which fails on a lost device. -/
def finish (device : Device) : Bool × Device := (device.arrive .finish).acceptFinish

end Compositor.Device
