import Compositor.Device.Context
import Compositor.Progress

/-!
# Submission

How a frame is submitted and how completed work becomes known. With fences, progress is read off
them and nothing blocks; without fences, every submission drains the device.
-/

set_option autoImplicit false

namespace Compositor

/-- How completion is learned. -/
inductive Strategy where
  | fenceGated
  | blockingFinish
  deriving DecidableEq, Repr

namespace Strategy

def all : List Strategy := [.fenceGated, .blockingFinish]

def name : Strategy → String
  | .fenceGated => "fence_gated"
  | .blockingFinish => "blocking_finish"

def ofName? (text : String) : Option Strategy := all.find? fun strategy => strategy.name == text

def select (capabilities : Capabilities) : Strategy :=
  if capabilities.nativeFences then .fenceGated else .blockingFinish

/-- Drains the device; everything flushed has completed then. -/
def drain (device : Device) (progress : Progress) :
    Except EngineError Unit × Progress × Device :=
  match device.finish with
  | (true, device) => (.ok (), progress.markIdle, device)
  | (false, device) => (.error .contextLost, progress, device)

/-- Drains the device in place of a fence for `frame`, and gives a fence that has signaled. -/
def submitDrained (device : Device) (progress : Progress) (frame : FrameSeq) :
    Except EngineError Fence × Progress × Device :=
  match drain device progress with
  | (.error error, progress, device) => (.error error, progress, device)
  | (.ok (), progress, device) =>
    let (fence, fences) := device.fences.create .device .signaled
    (.ok fence, progress.submitted frame none, { device with fences })

def submit (strategy : Strategy) (device : Device) (progress : Progress) (frame : FrameSeq) :
    Except EngineError Fence × Progress × Device :=
  let (fence, device) := device.flush
  match strategy with
  | .blockingFinish => submitDrained device progress frame
  | .fenceGated =>
    match fence with
    | some fence => (.ok fence, progress.submitted frame (some fence), device)
    | none =>
      match device.checkLost with
      | (true, device) => (.error .contextLost, progress, device)
      | (false, device) => submitDrained device progress frame

def cleanup (strategy : Strategy) (device : Device) (progress : Progress) :
    Except EngineError Bool × Progress × Device :=
  match strategy with
  | .fenceGated =>
    let progress := progress.poll device.fences
    if progress.cleaned || progress.lastFence.isSome then (.ok false, progress, device)
    else (.ok true, progress.setCleaned, device)
  | .blockingFinish =>
    if progress.cleaned then (.ok false, progress, device)
    else if progress.isIdle then (.ok true, progress.setCleaned, device)
    else
      match drain device progress with
      | (.error error, progress, device) => (.error error, progress, device)
      | (.ok (), progress, device) => (.ok true, progress.setCleaned, device)

end Strategy

end Compositor
