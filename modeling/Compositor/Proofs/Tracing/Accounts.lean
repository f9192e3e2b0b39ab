import Compositor.Proofs.Ledger
import Compositor.Proofs.Tracing.Places

/-!
# The tracer accounts for every submission

What the counters tell is true at every moment of every schedule, and once the tracer was shut down
nothing is left out. An engine with a tracer hands in each of its submissions once.
-/

set_option autoImplicit false

namespace Compositor

namespace Tracing

variable {tracing : Tracing}

/-- A snapshot of the counters is true of what was handed in and of what was observed. -/
structure Accounted (tracing : Tracing) : Prop where
  queued : tracing.tracer.stats.queued = (TracerCall.accepted tracing.calls).length
  bounded : tracing.tracer.stats.completed + tracing.tracer.stats.timeouts +
    tracing.tracer.stats.abandoned ≤ tracing.tracer.stats.queued
  /-- Submissions are observed in the order in which they were handed in. -/
  inOrder : tracing.observed.map Prod.fst <+: TracerCall.accepted tracing.calls
  counted : Counted tracing.tracer.stats tracing.observed

/-- Every submission was observed or abandoned, and this does not change any more. -/
structure Settled (tracing : Tracing) : Prop where
  complete : tracing.tracer.stats.queued = tracing.tracer.stats.completed +
    tracing.tracer.stats.timeouts + tracing.tracer.stats.abandoned
  /-- What was abandoned was handed in after all that was observed. -/
  abandoned : TracerCall.accepted tracing.calls =
    tracing.observed.map Prod.fst ++ tracing.abandoned
  counted : tracing.tracer.stats.abandoned = tracing.abandoned.length
  frozen : ∀ turns, (tracing.run turns).tracer.stats = tracing.tracer.stats

theorem Consistent.accounted (consistent : tracing.Consistent) : tracing.Accounted := by
  have whole := congrArg List.length consistent.places
  have dropped := consistent.abandoned_le
  have observed := consistent.counted.length
  have queued := consistent.queued
  simp only [List.length_append, List.length_map] at whole
  refine ⟨queued, by omega, ?_, consistent.counted⟩
  rw [consistent.places]
  simp only [List.append_assoc]
  exact List.prefix_append _ _

/-- After a shutdown, neither the caller nor the observer touches the counters. -/
theorem take_frozen (closed : tracing.tracer.closed = true)
    (stopped : tracing.tracer.observer = .stopped) (free : tracing.caller.hand = []) (turn : Turn) :
    (tracing.take turn).tracer.stats = tracing.tracer.stats ∧
      (tracing.take turn).tracer.closed = true ∧
      (tracing.take turn).tracer.observer = .stopped ∧ (tracing.take turn).caller.hand = [] := by
  cases turn with
  | call call =>
      unfold take
      dsimp only
      split
      · cases call with
        | queue entry => simp [begin, closed, stopped, free]
        | shutdown => exact ⟨rfl, closed, stopped, rfl⟩
      · exact ⟨rfl, closed, stopped, free⟩
  | proceed =>
      cases progress : tracing.caller with
      | ready => simp [take, proceed, progress, closed, stopped, Caller.hand]
      | sending entry =>
          rw [progress] at free
          cases free
      | halting => simp [take, proceed, progress, stopped, Tracer.hangUp, Caller.hand]
      | joining => simp [take, proceed, progress, closed, stopped, Caller.hand]
  | observe outcome =>
      have idle : tracing.tracer.step outcome = none := by simp [Tracer.step, stopped]
      simp [take, observe, idle, closed, stopped, free]

theorem run_frozen (closed : tracing.tracer.closed = true)
    (stopped : tracing.tracer.observer = .stopped) (free : tracing.caller.hand = [])
    (turns : List Turn) : (tracing.run turns).tracer.stats = tracing.tracer.stats := by
  induction turns generalizing tracing with
  | nil => rfl
  | cons turn rest ih =>
      obtain ⟨same, stillClosed, stillStopped, stillFree⟩ := take_frozen closed stopped free turn
      exact (ih stillClosed stillStopped stillFree).trans same

theorem Consistent.settled (consistent : tracing.Consistent) (joined : tracing.Joined) :
    tracing.Settled := by
  obtain ⟨ended, ready⟩ := joined
  have caller := consistent.caller
  rw [ready] at caller
  have closed : tracing.tracer.closed = true :=
    caller.1.symm.trans (consistent.halted.mp ended)
  have stopped : tracing.tracer.observer = .stopped := caller.2 closed
  have agrees := consistent.observer
  rw [stopped] at agrees
  obtain ⟨-, dropped, waiting⟩ := agrees
  have places := consistent.places
  rw [ready, stopped, waiting] at places
  simp only [Observer.hand, Caller.hand, List.append_nil] at places
  refine ⟨?_, places, dropped, run_frozen closed stopped (by rw [ready]; rfl)⟩
  have whole := congrArg List.length places
  have observed := consistent.counted.length
  have queued := consistent.queued
  simp only [List.length_append, List.length_map] at whole
  omega

/-! ## Shutdowns return -/

theorem joins_of_joining (consistent : tracing.Consistent)
    (joining : tracing.caller = .joining) : ∃ turns, (tracing.run turns).Joined := by
  generalize left : tracing.tracer.remaining = steps
  induction steps using Nat.strongRecOn generalizing tracing with
  | ind steps ih =>
      have caller := consistent.caller
      rw [joining] at caller
      cases taken : tracing.tracer.step fun _ => some .error with
      | none =>
          have stopped := Tracer.stopped_of_step caller.2 (fun _ => rfl) taken
          have returns : tracing.run [.proceed] = { tracing with caller := .ready } := by
            simp [run, take, proceed, joining, stopped]
          refine ⟨[.proceed], ?_⟩
          rw [returns]
          exact ⟨consistent.halted.mpr caller.1, rfl⟩
      | some next =>
          have observed : (tracing.observe fun _ => some .error).tracer = next := by
            rw [observe, taken]
          have same : (tracing.observe fun _ => some .error).caller = .joining := by
            rw [observe, taken]
            exact joining
          obtain ⟨-, fewer⟩ := (Tracer.step_stepped taken).remaining
          obtain ⟨turns, joined⟩ := ih next.remaining (left ▸ fewer)
            (consistent.observe fun _ => some .error) same (by rw [observed])
          exact ⟨.observe (fun _ => some .error) :: turns, joined⟩

theorem joins_of_ready (consistent : tracing.Consistent) (ready : tracing.caller = .ready) :
    ∃ turns, (tracing.run turns).Joined := by
  have begun : (tracing.run [.call .shutdown, .proceed]).caller = .joining := by
    simp [run, take, ready, begin, proceed]
  obtain ⟨turns, joined⟩ := joins_of_joining (consistent.run [.call .shutdown, .proceed]) begun
  refine ⟨[.call .shutdown, .proceed] ++ turns, ?_⟩
  rw [run_append]
  exact joined

/-- Wherever the caller and the observer are, there is a way to shut the tracer down. -/
theorem joins (consistent : tracing.Consistent) : ∃ turns, (tracing.run turns).Joined := by
  cases progress : tracing.caller with
  | ready => exact joins_of_ready consistent progress
  | sending entry =>
      have sent : tracing.proceed.caller = .ready := by rw [proceed, progress]
      obtain ⟨turns, joined⟩ := joins_of_ready consistent.proceed sent
      exact ⟨.proceed :: turns, joined⟩
  | halting =>
      have closed : tracing.proceed.caller = .joining := by rw [proceed, progress]
      obtain ⟨turns, joined⟩ := joins_of_joining consistent.proceed closed
      exact ⟨.proceed :: turns, joined⟩
  | joining => exact joins_of_joining consistent progress

end Tracing

/-! ## What is done to a tracer at once -/

namespace Tracer

/-- Some schedule leads to the tracer, by these calls and with the caller there. -/
def Scheduled (tracer : Tracer) (caller : Caller) (calls : List TracerCall) : Prop :=
  ∃ patience turns,
    let tracing := (Tracing.start patience).run turns
    tracing.tracer = tracer ∧ tracing.caller = caller ∧ tracing.calls = calls

namespace Scheduled

variable {tracer : Tracer} {caller : Caller} {calls : List TracerCall}

theorem new (patience : Nat) : (Tracer.new patience).Scheduled .ready [] :=
  ⟨patience, [], rfl, rfl, rfl⟩

/-- What turns make of every tracing that looks like this, they make of this one. -/
theorem next (scheduled : tracer.Scheduled caller calls) {after : Tracer} {later : Caller}
    {more : List TracerCall} (turns : List Tracing.Turn)
    (leads : ∀ tracing : Tracing, tracing.tracer = tracer → tracing.caller = caller →
      tracing.calls = calls → (tracing.run turns).tracer = after ∧
        (tracing.run turns).caller = later ∧ (tracing.run turns).calls = more) :
    after.Scheduled later more := by
  obtain ⟨patience, earlier, same, here, made⟩ := scheduled
  refine ⟨patience, earlier ++ turns, ?_⟩
  dsimp only
  rw [Tracing.run_append]
  exact leads _ same here made

theorem queue (scheduled : tracer.Scheduled .ready calls) (entry : TracedFrame) :
    (tracer.queue entry.fence entry.frame).Scheduled .ready (calls ++ [.queue entry]) := by
  refine scheduled.next [.call (.queue entry), .proceed] fun tracing same ready made => ?_
  subst same made
  cases closed : tracing.tracer.closed with
  | true =>
      simp [Tracing.run, Tracing.take, Tracing.begin, Tracing.proceed, Tracer.queue, ready, closed]
  | false =>
      simp [Tracing.run, Tracing.take, Tracing.begin, Tracing.proceed, Tracer.queue, ready, closed]

theorem close (scheduled : tracer.Scheduled .ready calls) :
    tracer.close.Scheduled .joining (calls ++ [.shutdown]) := by
  refine scheduled.next [.call .shutdown, .proceed] fun tracing same ready made => ?_
  subst same made
  simp [Tracing.run, Tracing.take, Tracing.begin, Tracing.proceed, Tracer.close, ready]

theorem run (scheduled : tracer.Scheduled caller calls) (outcome : Fence → Option FenceStatus)
    (limit : Nat) : (Tracer.run outcome limit tracer).Scheduled caller calls := by
  induction limit generalizing tracer with
  | zero => exact scheduled
  | succ limit ih =>
      unfold Tracer.run
      cases taken : tracer.step outcome with
      | none => exact scheduled
      | some next =>
          refine ih (scheduled.next [.observe outcome] fun tracing same here made => ?_)
          subst same here made
          simp [Tracing.run, Tracing.take, Tracing.observe, taken]

theorem catchUp (scheduled : tracer.Scheduled caller calls) (fences : Fences) :
    (tracer.catchUp fences).Scheduled caller calls :=
  scheduled.run _ _

theorem watch (scheduled : tracer.Scheduled caller calls) (fences : Fences) (elapsed : Nat) :
    (tracer.watch fences elapsed).Scheduled caller calls := by
  unfold Tracer.watch
  split
  · exact scheduled.run _ _
  · exact scheduled.catchUp fences

theorem shutdown (scheduled : tracer.Scheduled .ready calls) (fences : Fences) :
    (tracer.shutdown fences).Scheduled .ready (calls ++ [.shutdown]) := by
  have closing : (tracer.shutdown fences).Scheduled .joining (calls ++ [.shutdown]) :=
    (scheduled.catchUp fences).close.run _ _
  refine closing.next [.proceed] fun tracing same joining made => ?_
  have stopped := tracer.shutdown_stops fences
  simp [Tracing.run, Tracing.take, Tracing.proceed, joining, stopped, same, made]

end Scheduled

/-- The tracer was handed these submissions, one after another, and its caller is done with it. -/
def Handed (tracer : Tracer) (entries : List TracedFrame) : Prop :=
  tracer.Scheduled .ready (entries.map .queue)

theorem Handed.queued {tracer : Tracer} {entries : List TracedFrame}
    (handed : tracer.Handed entries) : tracer.stats.queued = entries.length := by
  obtain ⟨patience, turns, rfl, -, calls⟩ := handed
  have consistent := (Tracing.Consistent.start patience).run turns
  rw [consistent.queued, calls, TracerCall.accepted_queue]

/-- Shutting the tracer down leaves no submission unaccounted for. -/
theorem Handed.shutdown {tracer : Tracer} {entries : List TracedFrame}
    (handed : tracer.Handed entries) (fences : Fences) :
    let stats := (tracer.shutdown fences).stats
    stats.queued = entries.length ∧
      stats.queued = stats.completed + stats.timeouts + stats.abandoned := by
  obtain ⟨patience, turns, same, ready, calls⟩ := Scheduled.shutdown handed fences
  have consistent := (Tracing.Consistent.start patience).run turns
  have ended : .shutdown ∈ ((Tracing.start patience).run turns).calls := by
    rw [calls]
    exact List.mem_append_right _ (List.mem_singleton.mpr rfl)
  have settled := consistent.settled ⟨ended, ready⟩
  have queued := consistent.queued
  have before : .shutdown ∉ entries.map TracerCall.queue := by simp
  rw [calls, TracerCall.accepted_append before, TracerCall.accepted_queue] at queued
  rw [← same]
  exact ⟨queued.trans (congrArg List.length (List.append_nil entries)), settled.complete⟩

end Tracer

/-! ## Engines -/

namespace Engine

variable {engine : Engine} {ledger : List TracedFrame}

/-- The tracer, if there is one, was handed the submissions in the ledger. -/
def Traced (engine : Engine) (ledger : List TracedFrame) : Prop :=
  ∀ tracer ∈ engine.tracer, tracer.Handed ledger

namespace Traced

theorem created {device : Device} {capabilities : Capabilities} {options : EngineOptions}
    {order : ReleaseOrder} (isNew : create device capabilities options order = .ok engine) :
    engine.Traced [] := by
  obtain ⟨-, rfl⟩ := create_eq isNew
  intro tracer found
  have asked : tracerFor options capabilities = some tracer := found
  unfold tracerFor at asked
  split at asked
  · cases asked
    exact Tracer.Scheduled.new _
  · cases asked

theorem kept {after : Engine} {submission : Option TracedFrame}
    (books : engine.Books submission after) (traced : engine.Traced ledger) :
    after.Traced (ledger ++ submission.toList) := by
  intro tracer found
  cases books with
  | carried carries =>
      rw [Option.toList_none, List.append_nil]
      exact traced tracer (carries.tracer ▸ found)
  | watched elapsed =>
      obtain ⟨earlier, before, rfl⟩ := Option.map_eq_some_iff.mp found
      rw [Option.toList_none, List.append_nil]
      exact Tracer.Scheduled.watch (traced earlier before) _ elapsed
  | submitted _ carries _ _ _ submitted =>
      have queued : ∀ {fences : Fences} {entry : TracedFrame}, tracer ∈ engine.tracer.map
          (fun earlier => (earlier.queue entry.fence entry.frame).catchUp fences) →
          tracer.Handed (ledger ++ [entry]) := by
        intro fences entry member
        obtain ⟨earlier, before, rfl⟩ := Option.map_eq_some_iff.mp member
        have queued := (Tracer.Scheduled.queue (traced earlier before) entry).catchUp fences
        rw [Tracer.Handed, List.map_append]
        exact queued
      rw [← carries.tracer] at queued
      cases submitted with
      | fenced | drained => exact queued found

end Traced

/-- The tracer of an engine knows each submission of the engine. -/
structure Traces (engine : Engine) (tracer : Tracer) (ledger : List TracedFrame) : Prop where
  queued : tracer.stats.queued = ledger.length
  /-- Each submission was handed in once, and in order. -/
  handed : tracer.Handed ledger
  shutdown : ∀ fences,
    let stats := (tracer.shutdown fences).stats
    stats.queued = ledger.length ∧
      stats.queued = stats.completed + stats.timeouts + stats.abandoned
  ordered : ledger.Pairwise fun left right => left.frame ≤ right.frame
  /-- As long as numbers suffice, each submission has its own. -/
  increasing : engine.HasNumbers → ledger.Pairwise fun left right => left.frame < right.frame

end Engine

namespace Session

/-- Under every schedule of the caller and the observer, and whatever the fences do, the counters
tell the truth at every moment; a shutdown can always come to its end, and then nothing is left
unaccounted for. The tracer of an engine is in such a state, and was handed every submission that the
engine reported, once and in order. -/
theorem tracer_accounts_for_all (patience : Nat) (turns : List Tracing.Turn)
    (options : DeviceOptions) (capabilities : Capabilities) (order : ReleaseOrder)
    (actions : List Action) :
    let tracing := (Tracing.start patience).run turns
    let start := Session.new (.new options) capabilities order
    tracing.Accounted ∧ (tracing.Joined → tracing.Settled) ∧
      (∃ more, (tracing.run more).Joined) ∧
      ∀ engine ∈ (start.run actions).2.engine?, ∀ tracer ∈ engine.tracer,
        engine.Traces tracer (start.ledger actions) := by
  intro tracing start
  have consistent : tracing.Consistent := (Tracing.Consistent.start patience).run turns
  refine ⟨consistent.accounted, consistent.settled, Tracing.joins consistent, ?_⟩
  intro engine occupied tracer found
  have sound : start.Sound := new_sound options capabilities order
  have vacant : start.engine? = none := rfl
  have booked := ledger_booked sound vacant actions engine occupied
  have traced : engine.Traced (start.ledger actions) := by
    refine run_booked Engine.Traced.created Engine.Traced.kept sound ?_ actions engine occupied
    intro other present
    cases vacant.symm.trans present
  have handed := traced tracer found
  exact ⟨handed.queued, handed, handed.shutdown, booked.ordered, booked.increasing⟩

/-- The observer has taken the second submission when it is told to stop, and the third one is in
the queue then. -/
private def stoppedInBetween : List Tracing.Turn :=
  let signals : Fence → Option FenceStatus := fun _ => some .signaled
  [.call (.queue ⟨⟨1⟩, 1⟩), .observe signals, .proceed, .observe signals, .observe signals,
    .call (.queue ⟨⟨2⟩, 2⟩), .observe signals, .proceed, .observe signals,
    .call (.queue ⟨⟨3⟩, 3⟩), .proceed, .observe signals, .call .shutdown, .observe signals,
    .proceed, .observe signals, .observe signals, .proceed, .call (.queue ⟨⟨4⟩, 4⟩)]

private def tracedFrames : List Action :=
  [.start ⟨2, true, false, 3000, 3000⟩,
    .draw ⟨.ofSize 64 64, [], .plain ⟨2⟩ 64 64, true, none⟩, .flush]

/-- One submission was observed, two were abandoned, and one came too late. -/
theorem tracer_accounts_when_stopped :
    let tracing := (Tracing.start 3000).run stoppedInBetween
    let start := Session.new (.new .standard) DeviceOptions.standard.capabilities .byArrival
    tracing.Joined ∧ tracing.tracer.stats = ⟨3, 1, some 1, 0, 2⟩ ∧ tracing.Settled ∧
      ∃ engine ∈ (start.run tracedFrames).2.engine?, ∃ tracer ∈ engine.tracer,
        tracer.stats.queued = 2 ∧ engine.Traces tracer (start.ledger tracedFrames) := by
  intro tracing start
  obtain ⟨-, settles, -, traces⟩ := tracer_accounts_for_all 3000 stoppedInBetween .standard
    DeviceOptions.standard.capabilities .byArrival tracedFrames
  have joined : tracing.Joined := by
    unfold Tracing.Joined
    decide
  have counted : tracing.tracer.stats = ⟨3, 1, some 1, 0, 2⟩ := by decide
  have traced : ((start.run tracedFrames).2.engine?.bind (·.tracer)).any
      (fun tracer => tracer.stats.queued == 2) = true := by decide
  obtain ⟨tracer, found, queued⟩ := (Option.any_eq_true _ _).mp traced
  obtain ⟨engine, occupied, same⟩ := Option.bind_eq_some_iff.mp found
  exact ⟨joined, counted, settles joined, engine, occupied, tracer, same, by simpa using queued,
    traces engine occupied tracer same⟩

end Session

end Compositor
