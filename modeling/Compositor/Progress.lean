import Compositor.Fence
import Compositor.FrameSeq

/-!
# GPU progress

The book-keeping of what was submitted to the GPU and what is known to have completed. Submissions
complete in order, so completion is one watermark: every submission up to it is done.
-/

set_option autoImplicit false

namespace Compositor

structure Progress where
  lastIssued : FrameSeq
  /-- The completion watermark. -/
  completed : FrameSeq
  /-- The number handed out but not flushed; nothing of it has reached the GPU. -/
  recording : Option FrameSeq
  /-- Flushed submissions that are not known to have completed, oldest first. -/
  inFlight : List (FrameSeq × Fence)
  cleaned : Bool
  deriving DecidableEq, Repr

namespace Progress

/-- Nothing was submitted, so there is nothing to clean up. -/
def initial : Progress := ⟨0, 0, none, [], true⟩

/-- The watermark that the queue allows: just below the oldest submission in flight, else just below
the one being recorded, else the latest number handed out. -/
def watermark (progress : Progress) : FrameSeq :=
  match progress.inFlight, progress.recording with
  | (oldest, _) :: _, _ => oldest - 1
  | [], some frame => frame - 1
  | [], none => progress.lastIssued

/-- Raises the watermark to what the queue allows; it never sinks. -/
def refresh (progress : Progress) : Progress :=
  { progress with completed := max progress.completed progress.watermark }

def begin (progress : Progress) : Progress :=
  { progress with
    lastIssued := progress.lastIssued.next
    recording := some progress.lastIssued.next }

def markIdle (progress : Progress) : Progress := { progress with inFlight := [] }.refresh

/-- The submission `frame` was flushed. Without a fence, the GPU was drained instead. -/
def submitted (progress : Progress) (frame : FrameSeq) (fence : Option Fence) : Progress :=
  let closed :=
    if progress.recording = some frame then { progress with recording := none } else progress
  let queued :=
    match fence with
    | some fence => { closed with inFlight := closed.inFlight ++ [(frame, fence)] }
    | none => closed.markIdle
  { queued with cleaned := false }

def abandon (progress : Progress) : Progress := { progress with recording := none }

/-- Takes settled fences off the front of the queue, stopping at the first pending one. -/
def poll (progress : Progress) (fences : Fences) : Progress :=
  { progress with
    inFlight := progress.inFlight.dropWhile fun (_, fence) => !fences.isPending fence }.refresh

/-- Whether the GPU is done with whatever `frame` used last; what was never used is always done. -/
def isComplete (progress : Progress) : Option FrameSeq → Bool
  | none => true
  | some frame => frame ≤ progress.completed

def isIdle (progress : Progress) : Bool := progress.recording.isNone && progress.inFlight.isEmpty

def lastFence (progress : Progress) : Option Fence := progress.inFlight.getLast?.map Prod.snd

def setCleaned (progress : Progress) : Progress := { progress with cleaned := true }

end Progress

end Compositor
