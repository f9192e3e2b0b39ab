import Compositor.Tracer

/-!
# Schedules of the tracer

A caller hands submissions to the tracer, one after another, and may shut it down; the observer works
beside it. A schedule says whose turn it is, and each turn is one step. Whatever the schedule was, an
observer that was told to stop has only so many steps left.
-/

set_option autoImplicit false

namespace Compositor

/-! ## Schedules -/

inductive TracerCall where
  | queue (entry : TracedFrame)
  | shutdown
  deriving DecidableEq, Repr

/-- The submissions that the tracer has to account for: those handed in before it is shut down. -/
def TracerCall.accepted : List TracerCall → List TracedFrame
  | .queue entry :: rest => entry :: accepted rest
  | _ => []

/-- How far the caller is with its call. -/
inductive Caller where
  | ready
  /-- A submission was counted, and not sent yet. -/
  | sending (entry : TracedFrame)
  /-- The observer was told to stop, and the queue is still open. -/
  | halting
  /-- The queue is closed, and the observer still at work. -/
  | joining
  deriving DecidableEq, Repr

/-- A tracer between its caller and its observer, with what both have done. -/
structure Tracing where
  tracer : Tracer
  caller : Caller
  calls : List TracerCall
  /-- The submissions whose waits were counted, and how these ended. -/
  observed : List (TracedFrame × FenceStatus)
  abandoned : List TracedFrame

namespace Tracer

/-- What the next step of the observer counts. -/
def counts? (tracer : Tracer) : Option (TracedFrame × FenceStatus) :=
  match tracer.observer with
  | .counting entry status => some (entry, status)
  | _ => none

/-- What the next step of the observer drops. -/
def drops? (tracer : Tracer) : Option TracedFrame :=
  match tracer.observer, tracer.waiting with
  | .holding entry, _ => if tracer.stopping then some entry else none
  | .dropping _, entry :: _ => some entry
  | _, _ => none

/-- What a step of the observer does, with what it counts and what it drops. -/
inductive Stepped (tracer : Tracer) :
    Option (TracedFrame × FenceStatus) → Option TracedFrame → Tracer → Prop where
  | takes {entry : TracedFrame} {rest : List TracedFrame} :
      tracer.observer = .idle → tracer.waiting = entry :: rest →
      Stepped tracer none none { tracer with observer := .holding entry, waiting := rest }
  | ends : tracer.observer = .idle → tracer.waiting = [] → tracer.closed = true →
      Stepped tracer none none { tracer with observer := .stopped }
  | waits {entry : TracedFrame} : tracer.observer = .holding entry →
      Stepped tracer none none { tracer with observer := .waiting entry }
  | turnsAway {entry : TracedFrame} : tracer.observer = .holding entry → tracer.stopping = true →
      Stepped tracer none (some entry) { tracer with observer := .dropping 1 }
  | wakes {entry : TracedFrame} {status : FenceStatus} : tracer.observer = .waiting entry →
      Stepped tracer none none { tracer with observer := .counting entry status }
  | counts {entry : TracedFrame} {status : FenceStatus} :
      tracer.observer = .counting entry status →
      Stepped tracer (some (entry, status)) none
        { tracer with observer := .idle, stats := tracer.stats.observe entry.frame status }
  | drops {dropped : Nat} {entry : TracedFrame} {rest : List TracedFrame} :
      tracer.observer = .dropping dropped → tracer.waiting = entry :: rest →
      Stepped tracer none (some entry)
        { tracer with observer := .dropping (dropped + 1), waiting := rest }
  | stops {dropped : Nat} : tracer.observer = .dropping dropped → tracer.waiting = [] →
      Stepped tracer none none
        { tracer with observer := .stopped, stats := tracer.stats.abandon dropped }

theorem step_stepped {tracer after : Tracer} {outcome : Fence → Option FenceStatus}
    (taken : tracer.step outcome = some after) :
    tracer.Stepped tracer.counts? tracer.drops? after := by
  obtain ⟨patience, waiting, observer, stopping, closed, stats⟩ := tracer
  cases observer with
  | idle =>
      cases waiting with
      | nil =>
          cases closed with
          | true =>
              cases taken
              exact .ends rfl rfl rfl
          | false => cases taken
      | cons entry rest =>
          cases taken
          exact .takes rfl rfl
  | holding entry =>
      cases taken
      cases stopping with
      | true => exact .turnsAway rfl rfl
      | false => exact .waits rfl
  | waiting entry =>
      obtain ⟨status, _, rfl⟩ := Option.map_eq_some_iff.mp taken
      exact .wakes rfl
  | counting entry status =>
      cases taken
      exact .counts rfl
  | dropping dropped =>
      cases waiting with
      | nil =>
          cases taken
          exact .stops rfl rfl
      | cons entry rest =>
          cases taken
          exact .drops rfl rfl
  | stopped => cases taken

end Tracer

namespace Tracing

inductive Turn where
  /-- The caller begins a call, unless it is still busy with another one. -/
  | call (call : TracerCall)
  /-- The caller goes on with its call. -/
  | proceed
  /-- The observer takes a step, if it can. -/
  | observe (outcome : Fence → Option FenceStatus)

def start (patience : Nat) : Tracing := ⟨.new patience, .ready, [], [], []⟩

/-- A tracer that was shut down takes no more submissions, and does not count them. -/
def begin (tracing : Tracing) (call : TracerCall) : Tracing :=
  let called := { tracing with calls := tracing.calls ++ [call] }
  match call with
  | .queue entry =>
    if tracing.tracer.closed then called
    else { called with tracer := tracing.tracer.announce, caller := .sending entry }
  | .shutdown => { called with tracer := tracing.tracer.halt, caller := .halting }

def proceed (tracing : Tracing) : Tracing :=
  match tracing.caller with
  | .ready => tracing
  | .sending entry => { tracing with tracer := tracing.tracer.send entry, caller := .ready }
  | .halting => { tracing with tracer := tracing.tracer.hangUp, caller := .joining }
  | .joining =>
    if tracing.tracer.observer = .stopped then { tracing with caller := .ready } else tracing

def observe (tracing : Tracing) (outcome : Fence → Option FenceStatus) : Tracing :=
  match tracing.tracer.step outcome with
  | none => tracing
  | some tracer =>
    { tracing with
      tracer
      observed := tracing.observed ++ tracing.tracer.counts?.toList
      abandoned := tracing.abandoned ++ tracing.tracer.drops?.toList }

def take (tracing : Tracing) : Turn → Tracing
  | .call call => if tracing.caller = .ready then tracing.begin call else tracing
  | .proceed => tracing.proceed
  | .observe outcome => tracing.observe outcome

def run (tracing : Tracing) (turns : List Turn) : Tracing := turns.foldl take tracing

/-- A call to shut the tracer down has returned. -/
def Joined (tracing : Tracing) : Prop :=
  .shutdown ∈ tracing.calls ∧ tracing.caller = .ready

theorem run_append (tracing : Tracing) (first second : List Turn) :
    tracing.run (first ++ second) = (tracing.run first).run second :=
  List.foldl_append

end Tracing

/-! ## Shutting down ends -/

namespace Tracer

/-- The steps that an observer takes at most, if no wait goes on forever. -/
def remaining (tracer : Tracer) : Nat :=
  match tracer.observer with
  | .idle => 4 * tracer.waiting.length + 1
  | .holding _ => 4 * tracer.waiting.length + 4
  | .waiting _ => 4 * tracer.waiting.length + 3
  | .counting _ _ => 4 * tracer.waiting.length + 2
  | .dropping _ => tracer.waiting.length + 1
  | .stopped => 0

theorem Stepped.remaining {tracer after : Tracer} {counts : Option (TracedFrame × FenceStatus)}
    {drops : Option TracedFrame} (stepped : tracer.Stepped counts drops after) :
    after.closed = tracer.closed ∧ after.remaining < tracer.remaining := by
  cases stepped with
  | takes before waiting =>
      refine ⟨rfl, ?_⟩
      simp only [Tracer.remaining, before, waiting, List.length_cons]
      omega
  | drops before waiting =>
      refine ⟨rfl, ?_⟩
      simp only [Tracer.remaining, before, waiting, List.length_cons]
      omega
  | ends before | waits before | turnsAway before | wakes before | counts before | stops before =>
      refine ⟨rfl, ?_⟩
      simp only [Tracer.remaining, before]
      omega

theorem remaining_le_work (tracer : Tracer) : tracer.remaining ≤ tracer.work := by
  unfold remaining work
  split <;> omega

/-- On a closed queue, an observer whose waits all end has only one way to rest. -/
theorem stopped_of_step {tracer : Tracer} {outcome : Fence → Option FenceStatus}
    (closed : tracer.closed = true) (total : ∀ fence, (outcome fence).isSome = true)
    (rests : tracer.step outcome = none) : tracer.observer = .stopped := by
  obtain ⟨patience, waiting, observer, stopping, _, stats⟩ := tracer
  cases closed
  cases observer with
  | idle => cases waiting <;> cases rests
  | holding | counting => cases rests
  | waiting entry =>
      have ends := total entry.fence
      rw [Option.map_eq_none_iff.mp rests] at ends
      cases ends
  | dropping => cases waiting <;> cases rests
  | stopped => rfl

theorem run_stops {tracer : Tracer} {outcome : Fence → Option FenceStatus}
    (closed : tracer.closed = true) (total : ∀ fence, (outcome fence).isSome = true) {limit : Nat}
    (enough : tracer.remaining ≤ limit) : (run outcome limit tracer).observer = .stopped := by
  induction limit generalizing tracer with
  | zero =>
      unfold remaining at enough
      unfold run
      cases observer : tracer.observer with
      | stopped => rfl
      | idle | holding | waiting | counting | dropping =>
          rw [observer] at enough
          exact absurd enough (by simp)
  | succ limit ih =>
      unfold run
      cases taken : tracer.step outcome with
      | none => exact stopped_of_step closed total taken
      | some next =>
          obtain ⟨same, fewer⟩ := (step_stepped taken).remaining
          exact ih (same.trans closed) (Nat.le_of_lt_succ (Nat.lt_of_lt_of_le fewer enough))

/-- Shutting down joins the observer: no fence is waited for without bound. -/
theorem shutdown_stops (tracer : Tracer) (fences : Fences) :
    (tracer.shutdown fences).observer = .stopped :=
  run_stops rfl (fun _ => rfl) (remaining_le_work _)

end Tracer

end Compositor
