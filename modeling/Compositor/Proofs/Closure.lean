import Compositor.Proofs.Calm
import Compositor.Proofs.Exposure
import Compositor.Proofs.Waning

/-!
# Open submissions

A frame or a flush begins a submission, and each way in which it can end closes the submission, with
one exception: the number of a submission that failed when it was flushed stays open. The engine is
lost then and begins no other one, but the watermark stays below that number for good.
-/

set_option autoImplicit false

namespace Compositor

variable {engine : Engine} {frame : FrameSeq}

/-! ## Counting flushes -/

theorem Device.acceptFlush_counted (device : Device) :
    device.acceptFlush.2.flushes = device.flushes + 1 := by
  have flushed := acceptFlush_flushes device
  generalize device.acceptFlush = result at flushed
  obtain ⟨fence, after⟩ := result
  cases flushed <;> simp [Device.flushes, opened, log, DeviceEvent.isFlush, List.countP_cons]

theorem Device.flush_counted (device : Device) : device.flush.2.flushes = device.flushes + 1 :=
  (acceptFlush_counted _).trans (congrArg (· + 1) (Calm.arrive device .flush).flushes)

theorem Device.finish_counted (device : Device) : device.finish.2.flushes = device.flushes := by
  have accepted : (device.arrive .finish).acceptFinish.2.flushes =
      (device.arrive .finish).flushes := by
    unfold acceptFinish
    split <;> rfl
  exact accepted.trans (Calm.arrive device .finish).flushes

namespace Strategy

theorem submitDrained_counted (device : Device) (progress : Progress) (frame : FrameSeq) :
    (submitDrained device progress frame).2.2.flushes = device.flushes := by
  have counted := device.finish_counted
  cases drained : device.finish.1 with
  | false =>
      rw [submitDrained_failed progress frame drained]
      exact counted
  | true =>
      rw [submitDrained_done progress frame drained]
      exact counted

theorem submit_counted (strategy : Strategy) (device : Device) (progress : Progress)
    (frame : FrameSeq) :
    (strategy.submit device progress frame).2.2.flushes = device.flushes + 1 := by
  have counted := device.flush_counted
  unfold submit
  cases outcome : device.flush with
  | mk fence after =>
      rw [outcome] at counted
      cases strategy with
      | blockingFinish => exact (submitDrained_counted after progress frame).trans counted
      | fenceGated =>
          cases fence with
          | some fence => exact counted
          | none =>
              have checked := (Device.Calm.checkLost after).flushes.trans counted
              dsimp only
              cases asked : after.checkLost with
              | mk lost known =>
                  rw [asked] at checked
                  cases lost with
                  | true => exact checked
                  | false => exact (submitDrained_counted known progress frame).trans checked

end Strategy

namespace Engine

theorem submit_counted (engine : Engine) (frame : FrameSeq) :
    (engine.submit frame).2.device.flushes = engine.device.flushes + 1 := by
  have counted := engine.strategy.submit_counted engine.device engine.progress frame
  unfold submit
  cases outcome : engine.strategy.submit engine.device engine.progress frame with
  | mk result rest =>
      rw [outcome] at counted
      cases result <;> exact counted

/-! ## Ways out -/

/-- What became of the submission that an operation began, if it came to that, on a device that had
seen so many flushes. -/
inductive Closing {α : Type} (flushes : Nat) : Except EngineError α × Engine → Prop where
  | submitted {value : α} {after : Engine} : after.device.flushes = flushes + 1 →
      after.progress.recording = none → after.progress.Bounded → Closing flushes (.ok value, after)
  /-- Nothing was flushed. -/
  | abandoned {error : EngineError} {after : Engine} : after.device.flushes = flushes →
      after.progress.recording = none → after.progress.Bounded →
      Closing flushes (.error error, after)
  /-- The device was lost by the end of the flush, and the submission stays open. -/
  | stranded {after : Engine} : after.device.flushes = flushes + 1 → after.device.lost = true →
      after.lost = true → after.progress.recording = some after.progress.lastIssued →
      after.progress.Bounded → Closing flushes (.error .contextLost, after)

theorem submit_closing (bounded : engine.progress.Bounded)
    (opened : engine.progress.recording = some frame) :
    Closing engine.device.flushes (engine.submit frame) := by
  have counted := engine.submit_counted frame
  have submitted := engine.submit_submitted frame
  generalize engine.submit frame = result at counted submitted
  cases submitted with
  | lost lost =>
      have number := bounded.recording frame opened
      exact .stranded counted lost rfl (opened.trans (congrArg some number)) bounded
  | @fenced fence =>
      exact .submitted counted (Progress.submitted_recording opened (some fence))
        (bounded.submitted opened (some fence))
  | drained =>
      have idle : engine.progress.markIdle.recording = some frame := opened
      exact .submitted counted (Progress.submitted_recording idle none)
        (bounded.markIdle.submitted idle none)

theorem dropFrame_closing {flushes : Nat} (bounded : engine.progress.Bounded)
    (counted : engine.device.flushes = flushes) (error : EngineError) :
    Closing flushes (engine.dropFrame error) := by
  unfold dropFrame noteFailure
  split <;> exact .abandoned counted rfl bounded.abandon

theorem Closing.retire {α : Type} {flushes : Nat} {error : EngineError} {after : Engine}
    (closing : @Closing α flushes (.error error, after)) (images : List Image) :
    @Closing α flushes (.error error, after.retire images) := by
  have retired := after.retire_calm images
  cases closing with
  | abandoned counted closed bounded =>
      exact .abandoned (retired.flushes.trans counted) closed bounded
  | stranded counted unusable lost left bounded =>
      exact .stranded (retired.flushes.trans counted) (retired.lost unusable) lost left bounded

theorem render_closing {flushes : Nat} (bounded : engine.progress.Bounded)
    (opened : engine.progress.recording = some frame) (counted : engine.device.flushes = flushes)
    (request : FrameRequest) (plan : FramePlan) (slot : OutputSlot) :
    Closing flushes (engine.render request frame plan slot) := by
  have recorded := Recording.ofDraws_calm engine.device engine.contexts.current slot.handle
    request.display plan.draws
  unfold render
  cases outcome : Recording.ofDraws engine.device engine.contexts.current slot.handle
      request.display plan.draws with
  | error failure =>
      obtain ⟨error, device⟩ := failure
      rw [outcome] at recorded
      have failed : ({ engine with device } : Engine).progress.Bounded := bounded
      exact (dropFrame_closing failed (recorded.flushes.trans counted) error).retire slot.owned
  | ok recording =>
      rw [outcome] at recorded
      let ready := { engine with device := recording.device }.retire slot.owned
      have same : ready.device.flushes = flushes :=
        ((retire_calm _ slot.owned).flushes.trans recorded.flushes).trans counted
      have closing : Closing ready.device.flushes (ready.submit frame) :=
        submit_closing bounded opened
      rw [same] at closing
      dsimp only
      cases final : ready.submit frame with
      | mk result after =>
          rw [final] at closing
          cases closing with
          | submitted counted closed numbers => exact .submitted counted closed numbers
          | abandoned counted closed numbers => exact .abandoned counted closed numbers
          | stranded counted unusable lost left numbers =>
              exact .stranded counted unusable lost left numbers

theorem compose_closing {flushes : Nat} (bounded : engine.progress.Bounded)
    (counted : engine.device.flushes = flushes) (request : FrameRequest) :
    Closing flushes (engine.compose request) := by
  have numbers : engine.begun.progress.Bounded := (bounded.poll engine.device.fences).begin
  have looked := FramePlan.looks_calm engine.begun.progress.lastIssued request.layers.zipIdx
    (.start engine.begun)
  have keeps := FramePlan.looks_keep engine.begun.progress.lastIssued request.layers.zipIdx
    (.start engine.begun)
  have start : (FramePlan.start engine.begun).engine.device.flushes = flushes := counted
  rw [← FramePlan.lookAll.eq_1] at looked keeps
  rw [compose_eq]
  cases planned : FramePlan.lookAll engine.begun engine.begun.progress.lastIssued
      request.layers with
  | error after =>
      rw [planned] at looked keeps
      refine dropFrame_closing ?_ (looked.flushes.trans start) .contextLost
      exact keeps.progress ▸ numbers
  | ok plan =>
      rw [planned] at looked keeps
      have kept := keeps.trans ((Keeps.evicted plan.engine plan.active).trans
        (.targetFor _ request.target engine.begun.progress.lastIssued request.usesOutputCache))
      have calm := looked.trans ((plan.engine.evicted_calm plan.active).trans
        (targetFor_calm _ request.target engine.begun.progress.lastIssued request.usesOutputCache))
      dsimp only
      unfold finishFrame
      cases given : (plan.engine.evicted plan.active).targetFor request.target
          engine.begun.progress.lastIssued request.usesOutputCache with
      | mk answer after =>
          rw [given] at kept calm
          have rest : after.progress.Bounded := kept.progress ▸ numbers
          have opened : after.progress.recording = some engine.begun.progress.lastIssued :=
            congrArg Progress.recording kept.progress
          cases answer with
          | error error => exact dropFrame_closing rest (calm.flushes.trans start) error
          | ok slot => exact render_closing rest opened (calm.flushes.trans start) request plan slot

/-! ## Operations -/

theorem switchTo_counted (engine : Engine) (mode : Mode) :
    (engine.switchTo mode).device.flushes = engine.device.flushes := by
  have finished := engine.device.finish_counted
  unfold switchTo
  split
  · rfl
  · cases outcome : engine.device.finish with
    | mk drained device =>
        rw [outcome] at finished
        cases drained with
        | false => exact finished
        | true =>
            let idle : Engine := { engine with device, progress := engine.progress.markIdle }
            have emptied := idle.emptyCaches_calm.trans (collect_calm idle.emptyCaches)
            exact emptied.flushes.trans finished

/-- Nothing was begun or closed, and a loss was not forgotten. -/
structure Idles (before after : Engine) : Prop where
  recording : after.progress.recording = before.progress.recording
  bounded : before.progress.Bounded → after.progress.Bounded
  lost : before.lost = true → after.lost = true

namespace Idles

theorem refl (engine : Engine) : Idles engine engine := ⟨rfl, id, id⟩

theorem of_keeps {before after : Engine} (keeps : Keeps before after) : Idles before after := by
  refine ⟨?_, ?_, keeps.lost.trans⟩
  · rw [keeps.progress]
  · rw [keeps.progress]
    exact id

theorem noteFailure {before after : Engine} (idles : Idles before after) (isFatal : Bool) :
    Idles before (after.noteFailure isFatal) := by
  cases isFatal with
  | false => exact idles
  | true => exact ⟨idles.recording, idles.bounded, fun _ => rfl⟩

theorem switchTo (engine : Engine) (mode : Mode) : Idles engine (engine.switchTo mode) := by
  unfold Engine.switchTo
  split
  · exact .refl engine
  · cases engine.device.finish with
    | mk drained device =>
        cases drained with
        | false => exact ⟨rfl, id, fun _ => rfl⟩
        | true => exact ⟨rfl, Progress.Bounded.markIdle, id⟩

theorem bind (engine : Engine) (buffer : Buffer) : Idles engine (engine.bind buffer).2 := by
  unfold Engine.bind
  split
  · exact .refl engine
  · have bound : Idles engine (engine.poll.bindTexture buffer).2 :=
      ⟨rfl, fun bounded => bounded.poll engine.device.fences, id⟩
    cases outcome : engine.poll.bindTexture buffer with
    | mk result after =>
        rw [outcome] at bound
        cases result with
        | ok handle => exact bound
        | error cause => exact bound.noteFailure cause.isFatal

theorem finish (engine : Engine) : Idles engine engine.finish.2 := by
  unfold Engine.finish
  split
  · exact .refl engine
  · cases engine.device.finish with
    | mk drained device =>
        cases drained with
        | false => exact ⟨rfl, id, fun _ => rfl⟩
        | true => exact ⟨rfl, Progress.Bounded.markIdle, id⟩

theorem cleanup (engine : Engine) : Idles engine engine.cleanup.2 := by
  have cleaned := engine.strategy.cleanup_cleaned engine.device engine.progress
  have numbers : ∀ {progress : Progress} {cleaned : Bool}, progress.Bounded →
      ({ progress with cleaned } : Progress).Bounded :=
    fun bounded => ⟨bounded.issued, bounded.completed, bounded.recording, bounded.inFlight⟩
  unfold Engine.cleanup
  generalize engine.strategy.cleanup engine.device engine.progress = result at cleaned
  cases cleaned with
  | polled => exact ⟨rfl, fun bounded => numbers (bounded.poll engine.device.fences), id⟩
  | kept => exact ⟨rfl, numbers, id⟩
  | drained => exact ⟨rfl, fun bounded => numbers bounded.markIdle, id⟩
  | failed => exact ⟨rfl, id, fun _ => rfl⟩

end Idles

/-- Between operations, only an engine that is lost may have left a submission open. -/
structure Settled (engine : Engine) : Prop where
  closed : engine.lost = false → engine.progress.recording = none
  bounded : engine.progress.Bounded

namespace Settled

theorem idles {after : Engine} (settled : engine.Settled) (idles : engine.Idles after) :
    after.Settled where
  closed := fun alive => by
    cases lost : engine.lost with
    | true => exact absurd ((idles.lost lost).symm.trans alive) (by simp)
    | false => exact idles.recording.trans (settled.closed lost)
  bounded := idles.bounded settled.bounded

theorem closing {α : Type} {flushes : Nat} {result : Except EngineError α × Engine}
    (closing : Closing flushes result) : result.2.Settled := by
  cases closing with
  | submitted _ closed bounded => exact ⟨fun _ => closed, bounded⟩
  | abandoned _ closed bounded => exact ⟨fun _ => closed, bounded⟩
  | stranded _ _ lost _ bounded => exact ⟨fun alive => absurd (lost.symm.trans alive) (by simp), bounded⟩

theorem draw_closing (settled : engine.Settled) (alive : engine.lost = false)
    (request : FrameRequest) : Closing engine.device.flushes (engine.draw request) := by
  have closed := settled.closed alive
  have waiting := engine.awaitAny_calm request.inputFence
  have same := engine.awaitAny_eq request.inputFence
  unfold Engine.draw
  rw [if_neg (by simp [alive])]
  cases outcome : engine.awaitAny request.inputFence with
  | mk signaled waited =>
      rw [outcome] at waiting same
      have progress : waited.progress = engine.progress := by
        dsimp only at same
        rw [same]
      cases signaled with
      | false => exact .abandoned waiting.flushes (progress ▸ closed) (progress ▸ settled.bounded)
      | true =>
          have idles := Idles.switchTo waited request.mode
          have closedStill := idles.recording.trans (progress ▸ closed)
          have bounded := idles.bounded (progress ▸ settled.bounded)
          have flushes := (waited.switchTo_counted request.mode).trans waiting.flushes
          dsimp only
          split
          · exact .abandoned flushes closedStill bounded
          · split
            · exact .abandoned flushes closedStill bounded
            · exact compose_closing bounded flushes request

theorem flush_closing (settled : engine.Settled) (alive : engine.lost = false) :
    Closing engine.device.flushes engine.flush := by
  unfold Engine.flush
  rw [if_neg (by simp [alive])]
  have begun : ({ engine with progress := engine.progress.begin } : Engine).progress.Bounded :=
    settled.bounded.begin
  exact submit_closing begun rfl

/-- A lost engine does nothing of the kind. -/
theorem draw (settled : engine.Settled) (request : FrameRequest) :
    (engine.draw request).2.Settled := by
  cases lost : engine.lost with
  | false => exact closing (settled.draw_closing lost request)
  | true =>
      rw [Engine.draw, if_pos lost]
      exact settled

theorem flush (settled : engine.Settled) : engine.flush.2.Settled := by
  cases lost : engine.lost with
  | false => exact closing (settled.flush_closing lost)
  | true =>
      rw [Engine.flush, if_pos lost]
      exact settled

theorem operate {action : Action} {result : Outcome × Engine} (settled : engine.Settled)
    (operated : Session.operate engine action = some result) : result.2.Settled := by
  have polled : ∀ after : Engine, after.progress = engine.poll.progress →
      after.lost = engine.lost → after.Settled := by
    intro after progress lost
    refine settled.idles ⟨?_, fun bounded => ?_, lost.trans⟩
    · rw [progress]
      rfl
    · rw [progress]
      exact bounded.poll engine.device.fences
  cases action with
  | draw request =>
      cases operated
      exact settled.draw request
  | bind buffer =>
      cases operated
      exact settled.idles (.bind engine buffer)
  | unbind buffer =>
      cases operated
      exact polled _ rfl rfl
  | invalidate buffer =>
      cases operated
      exact polled _ rfl rfl
  | setProtected wantsSecure =>
      cases operated
      exact settled.idles (.switchTo engine _)
  | flush =>
      cases operated
      exact settled.flush
  | finish =>
      cases operated
      exact settled.idles (.finish engine)
  | cleanup =>
      cases operated
      exact settled.idles (.cleanup engine)
  | await fence =>
      cases operated
      exact settled.idles (.of_keeps (.awaitAny engine (some fence)))
  | watchTracer elapsed =>
      cases operated
      exact ⟨settled.closed, settled.bounded⟩
  | _ => cases operated

end Settled

theorem settled_enduring : Enduring Settled where
  created := fun created => by
    obtain ⟨-, rfl⟩ := create_eq created
    exact ⟨fun _ => rfl, .initial⟩
  operated := Settled.operate
  exposed := fun settled _ _ => ⟨settled.closed, settled.bounded⟩

end Engine

/-! ## Catching up -/

namespace Progress

variable {progress : Progress}

/-- Where nothing is open, and all that was flushed is resolved, all numbers are done with. -/
theorem Bounded.poll_caughtUp (bounded : progress.Bounded) (closed : progress.recording = none)
    {fences : Fences} (resolved : ∀ entry ∈ progress.inFlight, fences.isPending entry.2 = false) :
    (progress.poll fences).completed = progress.lastIssued := by
  rcases poll_completes bounded resolved (Nat.le_refl _) with caughtUp | left
  · exact Nat.le_antisymm (bounded.poll fences).completed caughtUp
  · rw [closed] at left
    cases left

end Progress

/-- Submissions that an engine begins are closed. -/
structure Engine.ClosesSubmissions (engine : Engine) : Prop where
  between : engine.lost = false → engine.progress.recording = none
  draw : ∀ request, engine.lost = false →
    Engine.Closing engine.device.flushes (engine.draw request)
  flush : engine.lost = false → Engine.Closing engine.device.flushes engine.flush
  /-- Once all that was flushed is resolved, the next poll finds everything complete. -/
  caughtUp : engine.progress.recording = none →
    (∀ entry ∈ engine.progress.inFlight, engine.device.fences.isPending entry.2 = false) →
    engine.poll.progress.completed = engine.poll.progress.lastIssued

namespace Session

/-- In every reachable state, also in the company of other users of the device: whatever an operation
of a living engine comes to, its submission is closed, unless the device was lost in the flush. -/
theorem submissions_closed (options : DeviceOptions) (capabilities : Capabilities)
    (order : ReleaseOrder) (incidents : List Incident) :
    ∀ engine ∈ ((new (.new options) capabilities order).endure incidents).engine?,
      engine.ClosesSubmissions := by
  intro engine reached
  have settled := Engine.settled_enduring.endure_new incidents reached
  exact ⟨settled.closed, fun request alive => settled.draw_closing alive request,
    settled.flush_closing, fun closed => settled.bounded.poll_caughtUp closed⟩

/-- The target of the frame cannot be made. -/
private def targetRejected : List Incident :=
  [.act (.start .standard), .act .flush, .act (.rejectImports ⟨9⟩),
    .act (.draw ⟨.ofSize 64 64, [], .plain ⟨9⟩ 64 64, true, none⟩)]

/-- The number of the frame that failed is done with as soon as the engine polls. -/
theorem submissions_closed_after_refusal :
    ∃ engine ∈ ((Session.new (.new .standard) DeviceOptions.standard.capabilities
        .byArrival).endure targetRejected).engine?,
      engine.lost = false ∧ engine.progress.completed < 2 ∧
        engine.poll.progress.completed = 2 ∧ engine.ClosesSubmissions := by
  have refused : ((Session.new (.new .standard) DeviceOptions.standard.capabilities
      .byArrival).endure targetRejected).engine?.any (fun engine =>
        !engine.lost && decide (engine.progress.completed < 2) &&
          engine.poll.progress.completed == 2) = true := by decide
  obtain ⟨engine, reached, facts⟩ := (Option.any_eq_true _ _).mp refused
  simp only [Bool.and_eq_true, Bool.not_eq_true', decide_eq_true_eq, beq_iff_eq] at facts
  obtain ⟨⟨alive, behind⟩, caughtUp⟩ := facts
  exact ⟨engine, reached, alive, behind, caughtUp,
    submissions_closed .standard DeviceOptions.standard.capabilities .byArrival targetRejected
      engine reached⟩

private def lostInFlush : List Incident := [.act (.start .standard), .act .lose, .act .flush]

/-- A flush that fails leaves its number open, and with nothing in flight no poll gets past it. -/
theorem submission_left_open :
    ∃ engine ∈ ((Session.new (.new .standard) DeviceOptions.standard.capabilities
        .byArrival).endure lostInFlush).engine?,
      engine.progress.recording = some 1 ∧ engine.progress.inFlight = [] ∧
        engine.poll.progress.completed = 0 ∧ engine.poll.progress.lastIssued = 1 := by
  have left : ((Session.new (.new .standard) DeviceOptions.standard.capabilities
      .byArrival).endure lostInFlush).engine?.any (fun engine =>
        engine.progress.recording == some 1 && engine.progress.inFlight.isEmpty &&
          engine.poll.progress.completed == 0 && engine.poll.progress.lastIssued == 1) = true := by
    decide
  obtain ⟨engine, reached, facts⟩ := (Option.any_eq_true _ _).mp left
  simp only [Bool.and_eq_true, beq_iff_eq, List.isEmpty_iff] at facts
  obtain ⟨⟨⟨opened, empty⟩, completed⟩, issued⟩ := facts
  exact ⟨engine, reached, opened, empty, completed, issued⟩

end Session

end Compositor
