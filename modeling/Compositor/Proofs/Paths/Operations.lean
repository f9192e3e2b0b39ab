import Compositor.Proofs.Paths.Frame

/-!
# Operations as paths of moves

Every operation of an engine leads from one moment of rest to another. The switch of the active mode
is told in detail, since an engine that switches holds nothing at all when it does so.
-/

set_option autoImplicit false

namespace Compositor

variable {engine : Engine} {recorded : List ImageHandle}

namespace Moment

/-- A moment of rest of an engine whose book-keeping is right. -/
structure Rested (moment : Moment) : Prop where
  owned : moment.Owned
  paced : moment.Paced
  closed : moment.Closed

end Moment

theorem Reaches.rested {before : Moment} {after : Engine} (reaches : Reaches before after)
    (rested : before.Rested) :
    ∃ recorded, Moves before ⟨after, [], recorded⟩ ∧ Moment.Rested ⟨after, [], recorded⟩ := by
  obtain ⟨recorded, moves, closed⟩ := reaches
  exact ⟨recorded, moves, moves.owned rested.owned, moves.paced rested.paced, closed⟩

namespace Engine

/-! ## Buffers and targets -/

theorem bind_leads (rested : Moment.Rested ⟨engine, [], recorded⟩) (buffer : Buffer) :
    Leads ⟨engine, [], recorded⟩ (engine.bind buffer).2 := by
  unfold bind
  split
  · exact .refl rested.closed
  · have polled : Moves ⟨engine, [], recorded⟩ ⟨engine.poll, [], recorded⟩ := .single .poll
    have bound := bindTexture_bound (polled.owned rested.owned) buffer
    have led : Leads ⟨engine, [], recorded⟩ (engine.poll.bindTexture buffer).2 :=
      .ofKept rested.closed (polled.trans bound.moves) id rfl rfl
    cases outcome : engine.poll.bindTexture buffer with
    | mk result after =>
        rw [outcome] at bound led
        cases result with
        | ok handle => exact led
        | error cause => exact led.noteFailure (bound.fatal cause rfl)

theorem unbind_leads (rested : Moment.Rested ⟨engine, [], recorded⟩) (buffer : BufferId) :
    Leads ⟨engine, [], recorded⟩ (engine.unbind buffer) := by
  have polled : Moves ⟨engine, [], recorded⟩ ⟨engine.poll, [], recorded⟩ := .single .poll
  have taken := Moves.unbind (polled.owned rested.owned) buffer
  rw [List.append_nil] at taken
  have path : Moves _ _ := polled.trans taken
  exact .ofKept rested.closed (path.trans (Moves.retireHand (path.owned rested.owned))) id rfl rfl

theorem invalidate_leads (rested : Moment.Rested ⟨engine, [], recorded⟩) (buffer : BufferId) :
    Leads ⟨engine, [], recorded⟩ (engine.invalidate buffer) := by
  have polled : Moves ⟨engine, [], recorded⟩ ⟨engine.poll, [], recorded⟩ := .single .poll
  have taken := Moves.invalidate (polled.owned rested.owned) buffer
  rw [List.append_nil] at taken
  have path : Moves _ _ := polled.trans taken
  exact .ofKept rested.closed (path.trans (Moves.retireHand (path.owned rested.owned))) id rfl rfl

/-! ## Waiting -/

theorem await_leads (rested : Moment.Rested ⟨engine, [], recorded⟩) (fence : Fence) :
    Leads ⟨engine, [], recorded⟩ (engine.await fence).2 :=
  .ofKept rested.closed (.ofDevice (Device.await_steps engine.device fence)) id rfl rfl

theorem awaitAny_leads (rested : Moment.Rested ⟨engine, [], recorded⟩) (fence : Option Fence) :
    Leads ⟨engine, [], recorded⟩ (engine.awaitAny fence).2 := by
  rw [awaitAny_eq]
  exact .ofKept rested.closed (.ofDevice (awaitAny_steps engine fence)) id rfl rfl

theorem watchTracer_leads (rested : Moment.Rested ⟨engine, [], recorded⟩) (elapsed : Nat) :
    Leads ⟨engine, [], recorded⟩ (engine.watchTracer elapsed) :=
  .ofKept rested.closed (.single (.note _ _ _)) id rfl rfl

end Engine

namespace Moves

variable {hand : List Image}

theorem drained (engine : Engine) (hand : List Image) (recorded : List ImageHandle)
    (done : engine.device.finish.1 = true) :
    Moves ⟨engine, hand, recorded⟩
      ⟨{ engine with device := engine.device.finish.2, progress := engine.progress.markIdle },
        hand, recorded⟩ := by
  have path : Moves ⟨engine, hand, recorded⟩
      ⟨{ engine with device := engine.device.finish.2 }, hand, recorded⟩ :=
    .ofDevice (Device.finish_steps engine.device)
  exact path.tail (.idle (.inr (Device.finish_drained done)))

theorem undrained (engine : Engine) (hand : List Image) (recorded : List ImageHandle)
    (failed : engine.device.finish.1 = false) :
    Moves ⟨engine, hand, recorded⟩
      ⟨{ engine with device := engine.device.finish.2 }.markLost, hand, recorded⟩ := by
  have path : Moves ⟨engine, hand, recorded⟩
      ⟨{ engine with device := engine.device.finish.2 }, hand, recorded⟩ :=
    .ofDevice (Device.finish_steps engine.device)
  exact path.tail (.markLost (Device.finish_failed failed))

end Moves

namespace Engine

theorem flush_leads (rested : Moment.Rested ⟨engine, [], recorded⟩) :
    Leads ⟨engine, [], recorded⟩ engine.flush.2 := by
  unfold flush
  split
  · exact .refl rested.closed
  · rename_i usable
    obtain ⟨closed, rfl⟩ := rested.closed (by simpa using usable)
    have begun : Moves ⟨engine, [], []⟩
        ⟨{ engine with progress := engine.progress.begin }, [], []⟩ :=
      .single (.begin closed)
    exact (submit_leads { engine with progress := engine.progress.begin } [] rfl).after begun rfl

theorem finish_leads (rested : Moment.Rested ⟨engine, [], recorded⟩) :
    Leads ⟨engine, [], recorded⟩ engine.finish.2 := by
  unfold finish
  split
  · exact .refl rested.closed
  · cases outcome : engine.device.finish with
    | mk drained device =>
        have same : engine.device.finish.2 = device := by rw [outcome]
        cases drained with
        | false =>
            have path := Moves.undrained engine [] recorded (by rw [outcome])
            rw [same] at path
            exact .ofLost path rfl rfl
        | true =>
            have path := Moves.drained engine [] recorded (by rw [outcome])
            rw [same] at path
            exact .ofKept rested.closed path id rfl rfl

/-! ## Cleaning up -/

theorem collect_leads {before : Moment} (leads : Leads before engine) (owned : before.Owned) :
    Leads before engine.collect := by
  obtain ⟨⟨recorded, moves, closed⟩, contexts⟩ := leads
  exact ⟨⟨recorded, moves.trans (Moves.collect (moves.owned owned)), closed⟩, contexts⟩

/-- What cleaning up did before it destroys anything. -/
inductive Cleans (engine : Engine) (recorded : List ImageHandle) :
    Except EngineError Bool → Progress → Device → Prop where
  | lost {error : EngineError} :
      engine.device.finish.1 = false →
      Cleans engine recorded (.error error) engine.progress engine.device.finish.2
  | cleaned {released : Bool} {progress : Progress} {device : Device} :
      progress.recording = engine.progress.recording →
      Moves ⟨engine, [], recorded⟩ ⟨{ engine with device, progress }, [], recorded⟩ →
      Cleans engine recorded (.ok released) progress device

theorem cleanup_cleans (engine : Engine) (recorded : List ImageHandle) (strategy : Strategy) :
    Cleans engine recorded (strategy.cleanup engine.device engine.progress).1
      (strategy.cleanup engine.device engine.progress).2.1
      (strategy.cleanup engine.device engine.progress).2.2 := by
  have polled : Moves ⟨engine, [], recorded⟩ ⟨engine.poll, [], recorded⟩ := .single .poll
  unfold Strategy.cleanup
  cases strategy with
  | fenceGated =>
      dsimp only
      split
      · exact .cleaned rfl polled
      · exact .cleaned rfl (polled.tail (.note engine.tracer engine.framesDrawn true))
  | blockingFinish =>
      dsimp only
      split
      · exact .cleaned rfl .refl
      · split
        · exact .cleaned rfl (.single (.note engine.tracer engine.framesDrawn true))
        · unfold Strategy.drain
          cases outcome : engine.device.finish with
          | mk drained device =>
              have same : device = engine.device.finish.2 := by rw [outcome]
              cases drained with
              | false =>
                  rw [same]
                  exact .lost (by rw [outcome])
              | true =>
                  have path := Moves.drained engine [] recorded (by rw [outcome])
                  rw [same]
                  exact .cleaned rfl (path.tail (.note engine.tracer engine.framesDrawn true))

theorem cleanup_leads (rested : Moment.Rested ⟨engine, [], recorded⟩) :
    Leads ⟨engine, [], recorded⟩ engine.cleanup.2 := by
  have cleans := cleanup_cleans engine recorded engine.strategy
  unfold cleanup
  cases outcome : engine.strategy.cleanup engine.device engine.progress with
  | mk result rest =>
      obtain ⟨progress, device⟩ := rest
      rw [outcome] at cleans
      cases cleans with
      | lost failed =>
          have path := Moves.undrained engine [] recorded failed
          exact collect_leads (.ofLost path rfl rfl) rested.owned
      | cleaned same path =>
          exact collect_leads (.ofKept rested.closed path id same rfl) rested.owned

end Engine

end Compositor
