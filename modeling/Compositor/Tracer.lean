import Compositor.Fence
import Compositor.FrameSeq

/-!
# The completion tracer

The tracer observes in which order submissions complete. Submissions are handed to it in order; an
observer takes them one by one and waits for each fence, for a bounded time. When the tracer is shut
down, the observer still ends the wait it is in, and abandons whatever it finds in the queue then.

The observer works on its own. What it does and what its caller does is cut into single steps, none
of which looks at more than one thing that both share: the queue, the flag that tells the observer to
stop, or the counters. The steps of the two can be interleaved in any way.
-/

set_option autoImplicit false

namespace Compositor

structure TracedFrame where
  fence : Fence
  frame : FrameSeq
  deriving DecidableEq, Repr

structure TracerStats where
  queued : Nat
  /-- Submissions whose fence was seen to signal. -/
  completed : Nat
  lastCompleted : Option FrameSeq
  /-- Submissions whose fence failed, or did not signal in time. -/
  timeouts : Nat
  /-- Submissions that were never looked at. -/
  abandoned : Nat
  deriving DecidableEq, Repr

namespace TracerStats

def zero : TracerStats := ⟨0, 0, none, 0, 0⟩

def enqueue (stats : TracerStats) : TracerStats := { stats with queued := stats.queued + 1 }

/-- Counts the end of a wait: only a signaled fence stands for completed work. -/
def observe (stats : TracerStats) (frame : FrameSeq) : FenceStatus → TracerStats
  | .signaled => { stats with completed := stats.completed + 1, lastCompleted := some frame }
  | .pending | .error => { stats with timeouts := stats.timeouts + 1 }

def abandon (stats : TracerStats) (dropped : Nat) : TracerStats :=
  { stats with abandoned := stats.abandoned + dropped }

end TracerStats

inductive Observer where
  | idle
  /-- It took a submission, and did not check yet whether it is to stop. -/
  | holding (entry : TracedFrame)
  | waiting (entry : TracedFrame)
  /-- The wait for a fence ended like this, which is not counted yet. -/
  | counting (entry : TracedFrame) (status : FenceStatus)
  /-- It was told to stop. It dropped so many submissions, and goes on until the queue is empty. -/
  | dropping (dropped : Nat)
  | stopped
  deriving DecidableEq, Repr

structure Tracer where
  /-- How long a wait may take, in milliseconds. -/
  patience : Nat
  waiting : List TracedFrame
  observer : Observer
  /-- The observer is to look at nothing more. -/
  stopping : Bool
  /-- Nothing more can be handed in. -/
  closed : Bool
  stats : TracerStats
  deriving DecidableEq, Repr

namespace Tracer

def new (patience : Nat) : Tracer := ⟨patience, [], .idle, false, false, .zero⟩

/-! ## Steps of the caller -/

/-- Counts a submission that is going to be sent. -/
def announce (tracer : Tracer) : Tracer := { tracer with stats := tracer.stats.enqueue }

/-- Puts a submission into the queue. Without an observer, nobody has the queue any more. -/
def send (tracer : Tracer) (entry : TracedFrame) : Tracer :=
  if tracer.observer = .stopped then tracer
  else { tracer with waiting := tracer.waiting ++ [entry] }

def halt (tracer : Tracer) : Tracer := { tracer with stopping := true }

def hangUp (tracer : Tracer) : Tracer := { tracer with closed := true }

def queue (tracer : Tracer) (fence : Fence) (frame : FrameSeq) : Tracer :=
  if tracer.closed then tracer else tracer.announce.send ⟨fence, frame⟩

def close (tracer : Tracer) : Tracer := tracer.halt.hangUp

/-! ## Steps of the observer -/

/-- One step of the observer, if it can take one. `outcome` tells how the wait for a fence ends, or
that it goes on. -/
def step (tracer : Tracer) (outcome : Fence → Option FenceStatus) : Option Tracer :=
  match tracer.observer, tracer.waiting with
  | .idle, entry :: rest => some { tracer with observer := .holding entry, waiting := rest }
  | .idle, [] => if tracer.closed then some { tracer with observer := .stopped } else none
  | .holding entry, _ =>
    let next : Observer := if tracer.stopping then .dropping 1 else .waiting entry
    some { tracer with observer := next }
  | .waiting entry, _ =>
    (outcome entry.fence).map fun status => { tracer with observer := .counting entry status }
  | .counting entry status, _ =>
    some { tracer with observer := .idle, stats := tracer.stats.observe entry.frame status }
  | .dropping dropped, _ :: rest =>
    some { tracer with observer := .dropping (dropped + 1), waiting := rest }
  | .dropping dropped, [] =>
    some { tracer with observer := .stopped, stats := tracer.stats.abandon dropped }
  | .stopped, _ => none

def run (outcome : Fence → Option FenceStatus) : Nat → Tracer → Tracer
  | 0, tracer => tracer
  | limit + 1, tracer =>
    match tracer.step outcome with
    | none => tracer
    | some next => run outcome limit next

/-- The number of steps after which an observer has nothing more to do: four for each submission
that is still to be taken, and those for what it is doing now. -/
def work (tracer : Tracer) : Nat := 4 * tracer.waiting.length + 4

/-- How waits end when nothing but the fences ends them. -/
def settledOutcome (fences : Fences) (fence : Fence) : Option FenceStatus :=
  if fences.isPending fence then none else some (fences.status fence)

def catchUp (tracer : Tracer) (fences : Fences) : Tracer :=
  run (settledOutcome fences) tracer.work tracer

/-- The observer works on while `elapsed` milliseconds pass: enough to give up on pending fences if
its patience is shorter. -/
def watch (tracer : Tracer) (fences : Fences) (elapsed : Nat) : Tracer :=
  if tracer.patience < elapsed then run (some ∘ fences.status) tracer.work tracer
  else tracer.catchUp fences

def shutdown (tracer : Tracer) (fences : Fences) : Tracer :=
  let closing := (tracer.catchUp fences).close
  run (some ∘ fences.status) closing.work closing

end Tracer

end Compositor
