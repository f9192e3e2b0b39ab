import Compositor.Proofs.Watermark

/-!
# The view of completion

The watermark of an engine is below every submission whose fence waits, as long as there are numbers
for all submissions. Right after a poll that nothing follows, the engine takes for unfinished exactly
what waits on the device, unless the device was lost meanwhile.
-/

set_option autoImplicit false

namespace Compositor

variable {engine : Engine}

/-! ## Operations that poll last -/

/-- Destroying an image lets fences settle only by the loss of the device. -/
theorem Contexts.destroy_waits {contexts : Contexts} {device : Device} {image : Image}
    (usable : (contexts.destroy device image).lost = false) :
    (contexts.destroy device image).pending = device.pending := by
  unfold destroy Device.destroyImage at usable ⊢
  split at usable
  · rename_i owner
    rw [Device.acceptDestroy_lost] at usable
    rw [if_pos owner, Device.acceptDestroy_pending]
    exact (Device.arrive_quiet usable).pending
  · rename_i other
    rw [if_neg other]

theorem Contexts.destroyAll_waits {contexts : Contexts} {images : List Image} {device : Device}
    (usable : (contexts.destroyAll device images).lost = false) :
    (contexts.destroyAll device images).pending = device.pending := by
  induction images generalizing device with
  | nil => rfl
  | cons image images ih =>
      have rest := contexts.destroyAll_plain images (contexts.destroy device image)
      exact (ih usable).trans (destroy_waits (rest.usable usable))

namespace Engine

theorem retire_waits {images : List Image} (usable : (engine.retire images).device.lost = false) :
    (engine.retire images).device.pending = engine.device.pending := by
  induction images generalizing engine with
  | nil => rfl
  | cons image images ih =>
      rw [retire_cons] at usable ⊢
      have first := (retire_plain (engine.retire [image]) images).usable usable
      refine (ih usable).trans ?_
      simp only [retire, RetireQueue.retireAll, List.foldl_cons, List.foldl_nil,
        RetireQueue.retire] at first ⊢
      split at first
      · rename_i complete
        rw [if_pos complete]
        exact Contexts.destroy_waits first
      · rename_i incomplete
        rw [if_neg incomplete]

/-- The queue was polled, and the device settled nothing after that unless it was lost. -/
structure Polls (before after : Engine) : Prop where
  inFlight : after.progress.inFlight = before.poll.progress.inFlight
  pending : after.device.lost = false → after.device.pending = before.device.pending

theorem unbind_polls (engine : Engine) (buffer : BufferId) :
    engine.Polls (engine.unbind buffer) :=
  ⟨rfl, fun usable => retire_waits usable⟩

theorem invalidate_polls (engine : Engine) (buffer : BufferId) :
    engine.Polls (engine.invalidate buffer) :=
  ⟨rfl, fun usable => retire_waits usable⟩

theorem cleanup_polls (gated : engine.strategy = .fenceGated) :
    engine.Polls engine.cleanup.2 := by
  have cleaned := engine.strategy.cleanup_cleaned engine.device engine.progress
  unfold cleanup
  generalize engine.strategy.cleanup engine.device engine.progress = result at cleaned
  cases cleaned with
  | polled =>
      refine ⟨rfl, fun usable => ?_⟩
      dsimp only at usable ⊢
      rw [collect_eq] at usable ⊢
      exact Contexts.destroyAll_waits usable
  | kept _ _ blocking | drained blocking | failed blocking => cases gated.symm.trans blocking

/-- Right after a poll the queue is what waits on the device. -/
theorem Polls.flying {after : Engine} (polls : engine.Polls after) (watched : engine.Watched)
    (watchedAfter : after.Watched) (same : after.device.lost = engine.device.lost) :
    after.progress.flying = after.device.pending := by
  have polled : after.progress.flying = engine.device.pending := by
    rw [Progress.flying, polls.inFlight]
    exact watched.poll_flying
  cases lost : engine.device.lost with
  | true =>
      rw [polled, watched.fenced.idle lost, watchedAfter.fenced.idle (same.trans lost)]
  | false => rw [polled, polls.pending (same.trans lost)]

end Engine

/-- Holds for the operations that learn of completion by a poll, and by nothing else after it. -/
def Action.pollsLast (strategy : Strategy) : Action → Bool
  | .unbind _ | .invalidate _ => true
  | .cleanup => strategy = .fenceGated
  | _ => false

namespace Session

theorem step_polls {session : Session} {action : Action} {before after : Engine}
    (polls : action.pollsLast before.strategy = true) (occupied : session.engine? = some before)
    (later : (session.step action).2.engine? = some after) : before.Polls after := by
  have tenancy := tenancy_of_engine? occupied
  cases action with
  | unbind buffer =>
      simp only [step, script, occupied, operate] at later
      cases later
      exact before.unbind_polls buffer
  | invalidate buffer =>
      simp only [step, script, occupied, operate] at later
      cases later
      exact before.invalidate_polls buffer
  | cleanup =>
      simp only [step, script, occupied, operate] at later
      cases later
      exact Engine.cleanup_polls (of_decide_eq_true polls)
  | _ => cases polls

/-- The view that an engine has of completion never runs ahead of its device: what waits on the
device is in flight, behind submissions that have settled. While there are numbers for all
submissions, those in flight increase and the watermark is below every one whose fence is pending.
After a poll that nothing follows, exactly what waits is in flight, unless the device was lost
meanwhile. -/
theorem completion_never_ahead (options : DeviceOptions) (capabilities : Capabilities)
    (order : ReleaseOrder) (actions : List Action) :
    let session := Session.new (.new options) capabilities order
    ∀ engine ∈ (session.run actions).2.engine?,
      (∃ settled, engine.progress.inFlight.map Prod.snd = settled ++ engine.device.pending ∧
        ∀ fence ∈ settled, engine.device.fences.isPending fence = false) ∧
      (engine.HasNumbers →
        engine.progress.inFlight.Pairwise (fun left right => left.1 < right.1) ∧
        (∀ entry ∈ engine.progress.inFlight, engine.progress.completed < entry.1) ∧
        ∀ entry ∈ session.ledger actions, engine.device.fences.isPending entry.fence = true →
          engine.progress.completed < entry.frame) ∧
      ∀ action : Action, action.pollsLast engine.strategy = true →
        ∀ after ∈ ((session.run actions).2.step action).2.engine?,
          after.device.lost = engine.device.lost →
          after.progress.inFlight.map Prod.snd = after.device.pending := by
  intro session engine occupied
  have start := new_sound options capabilities order
  have fresh := new_watched options capabilities order
  have sound := run_sound start actions
  have runs := run_watched start fresh actions
  have watched := runs.of_engine? occupied
  obtain ⟨settled, split, resolved⟩ := watched.covers
  refine ⟨⟨settled, split, fun fence member => ?_⟩, fun numbers => ?_, ?_⟩
  · exact decide_eq_false (resolved fence member).status
  · have ordered := watched.ordered numbers
    refine ⟨ordered.increasing, ordered.completed, fun entry member waits => ?_⟩
    have entered : engine.Enters (session.ledger actions) :=
      ledgerFrom_enters start fresh (fun _ none => nomatch none) actions engine occupied
    exact ordered.completed _ ((entered entry member).2 waits)
  · intro action polls after later same
    have watchedAfter := (step_watched sound runs action).of_engine? later
    exact (step_polls polls occupied later).flying watched watchedAfter same

/-- Two submissions, the older one of which has settled without a poll. -/
private def signaledOnce : List Action := [.start .standard, .flush, .flush, .signalNext]

/-- The engine still takes both for unfinished, and learns better by a cleanup. -/
theorem completion_never_ahead_unpolled :
    let session := Session.new (.new ⟨true, true, false, 4096⟩)
      DeviceOptions.standard.capabilities .byArrival
    ∃ engine ∈ (session.run signaledOnce).2.engine?,
      engine.progress.inFlight = [(1, ⟨0⟩), (2, ⟨1⟩)] ∧ engine.device.pending = [⟨1⟩] ∧
      engine.HasNumbers ∧
      (∀ entry ∈ session.ledger signaledOnce,
        engine.device.fences.isPending entry.fence = true →
          engine.progress.completed < entry.frame) ∧
      ∃ after ∈ ((session.run signaledOnce).2.step .cleanup).2.engine?,
        after.progress.inFlight.map Prod.snd = after.device.pending := by
  intro session
  have waits : (session.run signaledOnce).2.engine?.any (fun engine =>
      engine.progress.inFlight == [(1, ⟨0⟩), (2, ⟨1⟩)] && engine.device.pending == [⟨1⟩] &&
        engine.strategy == .fenceGated && engine.device.lost == false &&
        decide (engine.progress.lastIssued < FrameSeq.last)) = true := by decide
  have cleans : ((session.run signaledOnce).2.step .cleanup).2.engine?.any (fun after =>
      after.device.lost == false) = true := by decide
  obtain ⟨engine, found, facts⟩ := (Option.any_eq_true _ _).mp waits
  obtain ⟨after, later, usable⟩ := (Option.any_eq_true _ _).mp cleans
  simp only [Bool.and_eq_true, beq_iff_eq, decide_eq_true_eq] at facts usable
  obtain ⟨⟨⟨⟨flying, pending⟩, gated⟩, alive⟩, numbers⟩ := facts
  obtain ⟨-, above, polled⟩ := completion_never_ahead ⟨true, true, false, 4096⟩
    DeviceOptions.standard.capabilities .byArrival signaledOnce engine found
  refine ⟨engine, found, flying, pending, numbers, (above numbers).2.2, after, later, ?_⟩
  exact polled .cleanup (by simp [Action.pollsLast, gated]) after later (usable.trans alive.symm)

end Session

/-! ## Where numbers run out -/

/-- An engine whose every submission is in flight, on a device that lets all of them wait. -/
structure Engine.Streams (engine : Engine) (count : Nat) : Prop where
  alive : engine.lost = false
  gated : engine.strategy = .fenceGated
  usable : engine.device.lost = false
  unscheduled : engine.device.schedule = []
  native : engine.device.options.nativeFences = true
  patient : engine.device.options.autoSignal = false
  issued : engine.progress.lastIssued = min count FrameSeq.last
  numbers : engine.progress.inFlight.map Prod.fst =
    (List.range count).map fun earlier => min (earlier + 1) FrameSeq.last

/-- The largest number is handed out again and again. -/
theorem Engine.Streams.repeats (streams : engine.Streams (FrameSeq.last + 1)) :
    ¬engine.progress.inFlight.Pairwise fun left right => left.1 < right.1 := by
  intro increasing
  have numbers := List.pairwise_map.mpr increasing
  rw [streams.numbers, List.pairwise_map] at numbers
  have older : FrameSeq.last - 1 < (List.range (FrameSeq.last + 1)).length := by
    rw [List.length_range]
    exact Nat.lt_succ_of_le (Nat.sub_le _ 1)
  have apart := List.pairwise_iff_getElem.mp numbers (FrameSeq.last - 1) FrameSeq.last older
    (by simp) (Nat.sub_one_lt (by decide))
  rw [List.getElem_range, List.getElem_range] at apart
  have full : FrameSeq.last - 1 + 1 = FrameSeq.last := rfl
  rw [full, Nat.min_self, Nat.min_eq_right (Nat.le_succ _)] at apart
  exact Nat.lt_irrefl _ apart

theorem Device.flush_patient {device : Device} (usable : device.lost = false)
    (unscheduled : device.schedule = []) (native : device.options.nativeFences = true)
    (patient : device.options.autoSignal = false) :
    ∃ fence after, device.flush = (some fence, after) ∧ after.lost = false ∧
      after.schedule = [] ∧ after.options = device.options := by
  have arrived : device.arrive .flush = { device with schedule := [] } := by
    simp [arrive, lossDue, countDown, unscheduled]
  have flushed : device.flush = ({ device with schedule := [] } : Device).acceptFlush := by
    rw [flush, arrived]
  rw [flushed, acceptFlush, if_neg (by simp [usable, native])]
  exact ⟨_, _, if_neg (by simp [Device.log, patient]), usable, rfl, rfl⟩

private theorem min_succ_min (count last : Nat) :
    min (min count last + 1) last = min (count + 1) last := by
  omega

theorem Engine.Streams.flush {count : Nat} (streams : engine.Streams count) :
    engine.flush.2.Streams (count + 1) := by
  obtain ⟨fence, after, flushed, usable, unscheduled, options⟩ :=
    Device.flush_patient streams.usable streams.unscheduled streams.native streams.patient
  have recording : engine.progress.begin.recording = some engine.progress.begin.lastIssued := rfl
  have given : engine.flush.2 =
      ({ engine with
        progress := engine.progress.begin.submitted engine.progress.begin.lastIssued (some fence)
        device := after } : Engine).trace fence engine.progress.begin.lastIssued := by
    simp [Engine.flush, Engine.submit, Strategy.submit, streams.alive, streams.gated, flushed]
  have next : engine.progress.begin.lastIssued = min (count + 1) FrameSeq.last := by
    simp only [Progress.begin, FrameSeq.next, streams.issued]
    exact min_succ_min count FrameSeq.last
  rw [given]
  refine ⟨streams.alive, streams.gated, usable, unscheduled, ?_, ?_, ?_, ?_⟩
  · exact (congrArg DeviceOptions.nativeFences options).trans streams.native
  · exact (congrArg DeviceOptions.autoSignal options).trans streams.patient
  · rw [← next]
    exact Progress.submitted_lastIssued engine.progress.begin _ _
  · simp only [Engine.trace]
    rw [Progress.submitted_inFlight recording, List.map_append, List.range_succ, List.map_append,
      ← streams.numbers, next]
    rfl

namespace Session

theorem run_streams {session : Session} {count : Nat}
    (streams : ∃ engine ∈ session.engine?, engine.Streams count) (more : Nat) :
    ∃ engine ∈ (session.run (List.replicate more .flush)).2.engine?,
      engine.Streams (count + more) := by
  induction more generalizing session count with
  | zero => exact streams
  | succ more ih =>
      rw [List.replicate_succ, run_cons]
      obtain ⟨engine, occupied, streams⟩ := streams
      have flushed : (session.step .flush).2.engine? = some engine.flush.2 := by
        simp only [step, script, Option.mem_def.mp occupied, operate]
        rfl
      obtain ⟨last, found, later⟩ := ih ⟨_, flushed, streams.flush⟩
      exact ⟨last, found, by rw [Nat.add_comm more 1, ← Nat.add_assoc]; exact later⟩

/-- The unbinding destroys an image after its poll, and the device is lost then. -/
private def unboundByLoss : List Action :=
  [.start ⟨2, false, false, 3000, 3000⟩, .draw ⟨.ofSize 32 32, [], .plain ⟨2⟩ 32 32, true, none⟩,
    .bind (.plain ⟨5⟩ 32 32), .scheduleLoss .destroyImage 0, .unbind ⟨5⟩]

/-- The queue may lag behind a loss that comes after the poll, and submissions in flight no longer
increase once numbers have run out. -/
theorem completion_limits :
    let session := Session.new (.new ⟨true, true, false, 4096⟩)
      DeviceOptions.standard.capabilities .byArrival
    (∃ engine ∈ (session.run unboundByLoss).2.engine?,
      engine.progress.inFlight.map Prod.snd = [⟨0⟩] ∧ engine.device.pending = []) ∧
    ∃ engine ∈ (session.run
        (.start .standard :: List.replicate (FrameSeq.last + 1) .flush)).2.engine?,
      ¬engine.progress.inFlight.Pairwise fun left right => left.1 < right.1 := by
  intro session
  have lags : (session.run unboundByLoss).2.engine?.any (fun engine =>
      engine.progress.inFlight.map Prod.snd == [⟨0⟩] && engine.device.pending == []) = true := by
    decide
  obtain ⟨engine, found, facts⟩ := (Option.any_eq_true _ _).mp lags
  simp only [Bool.and_eq_true, beq_iff_eq] at facts
  refine ⟨⟨engine, found, facts⟩, ?_⟩
  have started : ∃ engine ∈ (session.step (.start .standard)).2.engine?, engine.Streams 0 :=
    ⟨_, rfl, rfl, rfl, rfl, rfl, rfl, rfl, rfl, rfl⟩
  obtain ⟨last, occupied, streams⟩ := run_streams started (FrameSeq.last + 1)
  rw [Nat.zero_add] at streams
  rw [run_cons]
  exact ⟨last, occupied, streams.repeats⟩

end Session

end Compositor
