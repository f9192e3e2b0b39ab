import Compositor.Proofs.Tracing.Schedule

/-!
# Each submission is in one place

At every moment of a schedule each submission that was handed in is with the caller, in the queue, in
the hand of the observer, observed, or abandoned, and the counters tell how many are where.
-/

set_option autoImplicit false

namespace Compositor

namespace TracerCall

variable {calls : List TracerCall}

theorem accepted_queue (entries : List TracedFrame) : accepted (entries.map .queue) = entries := by
  induction entries with
  | nil => rfl
  | cons entry rest ih => exact congrArg (entry :: ·) ih

theorem accepted_append (running : .shutdown ∉ calls) (more : List TracerCall) :
    accepted (calls ++ more) = accepted calls ++ accepted more := by
  induction calls with
  | nil => rfl
  | cons call rest ih =>
      cases call with
      | queue entry =>
          have later := ih fun member => running (List.mem_cons_of_mem _ member)
          exact congrArg (entry :: ·) later
      | shutdown => exact absurd List.mem_cons_self running

theorem accepted_closed (ended : .shutdown ∈ calls) (more : List TracerCall) :
    accepted (calls ++ more) = accepted calls := by
  induction calls with
  | nil => cases ended
  | cons call rest ih =>
      cases call with
      | queue entry =>
          have later : .shutdown ∈ rest := (List.mem_cons.mp ended).resolve_left nofun
          exact congrArg (entry :: ·) (ih later)
      | shutdown => rfl

end TracerCall

def Caller.hand : Caller → List TracedFrame
  | .sending entry => [entry]
  | .ready | .halting | .joining => []

def Observer.hand : Observer → List TracedFrame
  | .holding entry | .waiting entry | .counting entry _ => [entry]
  | .idle | .dropping _ | .stopped => []

/-- Where the caller is, as far as the tracer shows it. -/
def Caller.Agrees (caller : Caller) (tracer : Tracer) : Prop :=
  match caller with
  | .ready => tracer.stopping = tracer.closed ∧ (tracer.closed = true → tracer.observer = .stopped)
  | .sending _ => tracer.stopping = false ∧ tracer.closed = false
  | .halting => tracer.stopping = true
  | .joining => tracer.stopping = true ∧ tracer.closed = true

/-- A caller that is ready after a shutdown has waited for the observer to stop. -/
theorem Caller.Agrees.later {caller : Caller} {tracer after : Tracer} (agrees : caller.Agrees tracer)
    (unstopped : tracer.observer ≠ .stopped) (stopping : after.stopping = tracer.stopping)
    (closed : after.closed = tracer.closed) : caller.Agrees after := by
  cases caller with
  | ready =>
      refine ⟨stopping.trans (agrees.1.trans closed.symm), fun ended => ?_⟩
      exact absurd (agrees.2 (closed.symm.trans ended)) unstopped
  | sending => exact ⟨stopping.trans agrees.1, closed.trans agrees.2⟩
  | halting => exact stopping.trans agrees
  | joining => exact ⟨stopping.trans agrees.1, closed.trans agrees.2⟩

/-- What the observer has dropped, as far as the tracer shows it. -/
def Observer.Agrees (observer : Observer) (tracer : Tracer) (abandoned : List TracedFrame) : Prop :=
  match observer with
  | .dropping dropped =>
    tracer.stopping = true ∧ tracer.stats.abandoned = 0 ∧ dropped = abandoned.length
  | .stopped =>
    tracer.stopping = true ∧ tracer.stats.abandoned = abandoned.length ∧ tracer.waiting = []
  | .idle | .holding _ | .waiting _ | .counting _ _ =>
    tracer.stats.abandoned = 0 ∧ abandoned = []

theorem Observer.Agrees.halt {observer : Observer} {tracer : Tracer} {abandoned : List TracedFrame}
    (agrees : observer.Agrees tracer abandoned) : observer.Agrees tracer.halt abandoned := by
  cases observer with
  | dropping | stopped => exact ⟨rfl, agrees.2⟩
  | idle | holding | waiting | counting => exact agrees

namespace Tracing

/-- The latest submission that was seen to signal. -/
def latest? (observed : List (TracedFrame × FenceStatus)) : Option FrameSeq :=
  ((observed.filter (·.2 = .signaled)).getLast?).map (·.1.frame)

/-- The counters tell of what was observed. -/
structure Counted (stats : TracerStats) (observed : List (TracedFrame × FenceStatus)) : Prop where
  completed : stats.completed = observed.countP (·.2 = .signaled)
  timeouts : stats.timeouts = observed.countP (·.2 ≠ .signaled)
  lastCompleted : stats.lastCompleted = latest? observed

theorem Counted.observe {stats : TracerStats} {observed : List (TracedFrame × FenceStatus)}
    (counted : Counted stats observed) (entry : TracedFrame) (status : FenceStatus) :
    Counted (stats.observe entry.frame status) (observed ++ [(entry, status)]) := by
  obtain ⟨completed, timeouts, lastCompleted⟩ := counted
  cases status <;> constructor <;>
    simp [TracerStats.observe, latest?, completed, timeouts, lastCompleted, List.countP_append,
      List.filter_append]

theorem Counted.length {stats : TracerStats} {observed : List (TracedFrame × FenceStatus)}
    (counted : Counted stats observed) : stats.completed + stats.timeouts = observed.length := by
  rw [counted.completed, counted.timeouts, List.length_eq_countP_add_countP (·.2 = .signaled)]
  simp

structure Consistent (tracing : Tracing) : Prop where
  places : TracerCall.accepted tracing.calls =
    tracing.observed.map Prod.fst ++ tracing.abandoned ++ tracing.tracer.observer.hand ++
      tracing.tracer.waiting ++ tracing.caller.hand
  queued : tracing.tracer.stats.queued = (TracerCall.accepted tracing.calls).length
  counted : Counted tracing.tracer.stats tracing.observed
  halted : .shutdown ∈ tracing.calls ↔ tracing.tracer.stopping = true
  closed : tracing.tracer.closed = true → tracing.tracer.stopping = true
  caller : tracing.caller.Agrees tracing.tracer
  observer : tracing.tracer.observer.Agrees tracing.tracer tracing.abandoned

namespace Consistent

variable {tracing : Tracing}

theorem start (patience : Nat) : (start patience).Consistent :=
  ⟨rfl, rfl, ⟨rfl, rfl, rfl⟩, by simp [Tracing.start, Tracer.new], nofun, ⟨rfl, nofun⟩, ⟨rfl, rfl⟩⟩

theorem running (consistent : tracing.Consistent) (open_ : tracing.tracer.stopping = false) :
    .shutdown ∉ tracing.calls := by
  intro member
  exact absurd ((consistent.halted.mp member).symm.trans open_) (by simp)

/-- The observer stops only when it is told to. -/
theorem unstopped (consistent : tracing.Consistent) (open_ : tracing.tracer.stopping = false) :
    tracing.tracer.observer ≠ .stopped := by
  intro stopped
  have agrees := consistent.observer
  rw [stopped] at agrees
  exact absurd (agrees.1.symm.trans open_) (by simp)

theorem queueClosed (consistent : tracing.Consistent) (ended : .shutdown ∈ tracing.calls)
    (entry : TracedFrame) :
    ({ tracing with calls := tracing.calls ++ [.queue entry] } : Tracing).Consistent := by
  have accepted := TracerCall.accepted_closed ended [.queue entry]
  refine ⟨accepted.trans consistent.places, ?_, consistent.counted, ?_, consistent.closed,
    consistent.caller, consistent.observer⟩
  · exact consistent.queued.trans (congrArg List.length accepted.symm)
  · simpa using consistent.halted

theorem queueOpen (consistent : tracing.Consistent) (ready : tracing.caller = .ready)
    (open_ : tracing.tracer.stopping = false ∧ tracing.tracer.closed = false)
    (entry : TracedFrame) :
    ({ tracing with
      tracer := tracing.tracer.announce
      caller := .sending entry
      calls := tracing.calls ++ [.queue entry] } : Tracing).Consistent := by
  have accepted := TracerCall.accepted_append (consistent.running open_.1) [.queue entry]
  have places := consistent.places
  rw [ready, Caller.hand, List.append_nil] at places
  refine ⟨?_, ?_, ⟨consistent.counted.completed, consistent.counted.timeouts,
    consistent.counted.lastCompleted⟩, ?_, consistent.closed, open_, consistent.observer⟩
  · exact accepted.trans (congrArg (· ++ [entry]) places)
  · dsimp only
    rw [accepted, List.length_append, ← consistent.queued]
    rfl
  · simpa [Tracer.announce] using consistent.halted

theorem queue (consistent : tracing.Consistent) (ready : tracing.caller = .ready)
    (entry : TracedFrame) : (tracing.begin (.queue entry)).Consistent := by
  have caller := consistent.caller
  rw [ready] at caller
  obtain ⟨same, _⟩ := caller
  unfold begin
  dsimp only
  split
  · rename_i closed
    exact consistent.queueClosed (consistent.halted.mpr (same.trans closed)) entry
  · rename_i open_
    have closed : tracing.tracer.closed = false := by simpa using open_
    exact consistent.queueOpen ready ⟨same.trans closed, closed⟩ entry

theorem shutdown (consistent : tracing.Consistent) (ready : tracing.caller = .ready) :
    (tracing.begin .shutdown).Consistent := by
  have places := consistent.places
  rw [ready] at places
  have accepted : TracerCall.accepted (tracing.calls ++ [.shutdown]) =
      TracerCall.accepted tracing.calls := by
    by_cases ended : .shutdown ∈ tracing.calls
    · exact TracerCall.accepted_closed ended _
    · exact (TracerCall.accepted_append ended _).trans (List.append_nil _)
  refine ⟨accepted.trans places, ?_, consistent.counted, by simp [begin, Tracer.halt], fun _ => rfl,
    rfl, ?_⟩
  · exact consistent.queued.trans (congrArg List.length accepted.symm)
  · exact consistent.observer.halt

theorem send (consistent : tracing.Consistent) {entry : TracedFrame}
    (sending : tracing.caller = .sending entry) :
    Consistent { tracing with tracer := tracing.tracer.send entry, caller := .ready } := by
  have caller := consistent.caller
  rw [sending] at caller
  have unstopped := consistent.unstopped caller.1
  obtain ⟨places, queued, counted, halted, closed, -, observer⟩ := consistent
  rw [sending] at places
  rw [Tracer.send, if_neg unstopped]
  refine ⟨?_, queued, counted, halted, closed, ⟨caller.1.trans caller.2.symm, ?_⟩, ?_⟩
  · rw [places]
    simp [Caller.hand]
  · exact fun ended => absurd (ended.symm.trans caller.2) (by simp)
  · dsimp only
    cases found : tracing.tracer.observer with
    | stopped => exact absurd found unstopped
    | idle | holding | waiting | counting | dropping =>
        rw [found] at observer
        exact observer

theorem proceed (consistent : tracing.Consistent) : tracing.proceed.Consistent := by
  unfold Tracing.proceed
  cases progress : tracing.caller with
  | ready => exact consistent
  | sending entry => exact consistent.send progress
  | halting =>
      obtain ⟨places, queued, counted, halted, closed, caller, observer⟩ := consistent
      rw [progress] at caller places
      exact ⟨places, queued, counted, halted, fun _ => caller, ⟨caller, rfl⟩, observer⟩
  | joining =>
      dsimp only
      split
      · rename_i stopped
        obtain ⟨places, queued, counted, halted, closed, caller, observer⟩ := consistent
        rw [progress] at caller places
        exact ⟨places, queued, counted, halted, closed,
          ⟨caller.1.trans caller.2.symm, fun _ => stopped⟩, observer⟩
      · exact consistent

/-- A step of the observer hands on what it has in its hand, or takes from the queue. -/
theorem observed (consistent : tracing.Consistent) {after : Tracer}
    {observed : List (TracedFrame × FenceStatus)} {abandoned : List TracedFrame}
    (unstopped : tracing.tracer.observer ≠ .stopped)
    (queued : after.stats.queued = tracing.tracer.stats.queued)
    (stopping : after.stopping = tracing.tracer.stopping)
    (closed : after.closed = tracing.tracer.closed)
    (places : observed.map Prod.fst ++ abandoned ++ after.observer.hand ++ after.waiting =
      tracing.observed.map Prod.fst ++ tracing.abandoned ++ tracing.tracer.observer.hand ++
        tracing.tracer.waiting)
    (counted : Counted after.stats observed) (observer : after.observer.Agrees after abandoned) :
    ({ tracing with tracer := after, observed, abandoned } : Tracing).Consistent where
  places := consistent.places.trans (congrArg (· ++ tracing.caller.hand) places.symm)
  queued := queued.trans consistent.queued
  counted := counted
  halted := by
    rw [stopping]
    exact consistent.halted
  closed := by
    rw [stopping, closed]
    exact consistent.closed
  caller := consistent.caller.later unstopped stopping closed
  observer := observer

theorem observe (consistent : tracing.Consistent) (outcome : Fence → Option FenceStatus) :
    (tracing.observe outcome).Consistent := by
  unfold Tracing.observe
  cases taken : tracing.tracer.step outcome with
  | none => exact consistent
  | some after =>
      have stepped := Tracer.step_stepped taken
      have agrees := consistent.observer
      have counted := consistent.counted
      dsimp only
      generalize tracing.tracer.counts? = counts at stepped
      generalize tracing.tracer.drops? = drops at stepped
      cases stepped with
      | takes before waiting =>
          rw [before] at agrees
          simp only [Option.toList_none, List.append_nil]
          refine consistent.observed (by simp [before]) rfl rfl rfl ?_ counted agrees
          simp [before, waiting, Observer.hand]
      | ends before waiting ended =>
          rw [before] at agrees
          simp only [Option.toList_none, List.append_nil]
          refine consistent.observed (by simp [before]) rfl rfl rfl ?_ counted
            ⟨consistent.closed ended, ?_, waiting⟩
          · simp [before, Observer.hand]
          · simp [agrees.1, agrees.2]
      | waits before | wakes before =>
          rw [before] at agrees
          simp only [Option.toList_none, List.append_nil]
          refine consistent.observed (by simp [before]) rfl rfl rfl ?_ counted agrees
          simp [before, Observer.hand]
      | turnsAway before stopping =>
          rw [before] at agrees
          simp only [Option.toList_none, Option.toList_some, List.append_nil]
          refine consistent.observed (by simp [before]) rfl rfl rfl ?_ counted
            ⟨stopping, agrees.1, ?_⟩
          · simp [before, Observer.hand]
          · simp [agrees.2]
      | @counts entry status before =>
          rw [before] at agrees
          simp only [Option.toList_none, Option.toList_some, List.append_nil]
          have unabandoned : (tracing.tracer.stats.observe entry.frame status).abandoned =
              tracing.tracer.stats.abandoned := by cases status <;> rfl
          have unqueued : (tracing.tracer.stats.observe entry.frame status).queued =
              tracing.tracer.stats.queued := by cases status <;> rfl
          refine consistent.observed (by simp [before]) unqueued rfl rfl ?_
            (counted.observe entry status) ⟨unabandoned.trans agrees.1, agrees.2⟩
          simp [before, agrees.2, Observer.hand]
      | drops before waiting =>
          rw [before] at agrees
          simp only [Option.toList_none, Option.toList_some, List.append_nil]
          refine consistent.observed (by simp [before]) rfl rfl rfl ?_ counted
            ⟨agrees.1, agrees.2.1, ?_⟩
          · simp [before, waiting, Observer.hand]
          · simp [agrees.2.2]
      | @stops dropped before waiting =>
          rw [before] at agrees
          simp only [Option.toList_none, List.append_nil]
          have same : Counted (tracing.tracer.stats.abandon dropped) tracing.observed :=
            ⟨counted.completed, counted.timeouts, counted.lastCompleted⟩
          refine consistent.observed (by simp [before]) rfl rfl rfl ?_ same
            ⟨agrees.1, ?_, waiting⟩
          · simp [before, Observer.hand]
          · simp [TracerStats.abandon, agrees.2.1, agrees.2.2]

theorem take (consistent : tracing.Consistent) (turn : Turn) : (tracing.take turn).Consistent := by
  cases turn with
  | call call =>
      unfold Tracing.take
      dsimp only
      split
      · rename_i ready
        cases call with
        | queue entry => exact consistent.queue ready entry
        | shutdown => exact consistent.shutdown ready
      · exact consistent
  | proceed => exact consistent.proceed
  | observe outcome => exact consistent.observe outcome

theorem run (consistent : tracing.Consistent) (turns : List Turn) :
    (tracing.run turns).Consistent := by
  induction turns generalizing tracing with
  | nil => exact consistent
  | cons turn rest ih => exact ih (consistent.take turn)

theorem abandoned_le (consistent : tracing.Consistent) :
    tracing.tracer.stats.abandoned ≤ tracing.abandoned.length := by
  have agrees := consistent.observer
  cases observer : tracing.tracer.observer with
  | idle | holding | waiting | counting =>
      rw [observer] at agrees
      simp [agrees.1]
  | dropping =>
      rw [observer] at agrees
      simp [agrees.2.1]
  | stopped =>
      rw [observer] at agrees
      exact Nat.le_of_eq agrees.2.1

end Consistent

end Tracing

end Compositor
