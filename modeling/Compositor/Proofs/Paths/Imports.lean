import Compositor.Binding
import Compositor.Proofs.Paths.Retirement

/-!
# Making images as a path of moves

A request for an image either fails, or it puts a fresh image of the buffer into the hand of the
engine. It is fatal only on a lost device.
-/

set_option autoImplicit false

namespace Compositor

variable {engine : Engine} {hand : List Image} {recorded : List ImageHandle} {failure : Type}
  {isFatal : failure → Bool} {kind : ImageKind} {buffer : BufferId}

/-- What a request for an image of a buffer did to an engine. -/
inductive Provides (isFatal : failure → Bool) (engine : Engine) (hand : List Image)
    (recorded : List ImageHandle) (kind : ImageKind) (buffer : BufferId) :
    Except failure Image → Device → Prop where
  | refused {error : failure} {device : Device} :
      (isFatal error = true → device.lost = true) →
      Moves ⟨engine, hand, recorded⟩ ⟨{ engine with device }, hand, recorded⟩ →
      Provides isFatal engine hand recorded kind buffer (.error error) device
  | made {image : Image} {device : Device} :
      image.buffer = buffer → image.kind = kind →
      Moves ⟨engine, hand, recorded⟩ ⟨{ engine with device }, image :: hand, recorded⟩ →
      Provides isFatal engine hand recorded kind buffer (.ok image) device

namespace Provides

theorem after {result : Except failure Image} {arrived device : Device}
    (steps : Device.Steps engine.device arrived)
    (provides : Provides isFatal { engine with device := arrived } hand recorded kind buffer
      result device) :
    Provides isFatal engine hand recorded kind buffer result device := by
  have before : Moves ⟨engine, hand, recorded⟩
      ⟨{ engine with device := arrived }, hand, recorded⟩ :=
    .ofDevice steps
  cases provides with
  | refused fatal moves => exact .refused fatal (before.trans moves)
  | made bufferEq kindEq moves => exact .made bufferEq kindEq (before.trans moves)

/-- Failures may be told differently, as long as no further ones become fatal. -/
theorem mapError {other : Type} (isFatalOther : other → Bool) (rephrase : failure → other)
    {result : Except failure Image} {device : Device}
    (provides : Provides isFatal engine hand recorded kind buffer result device)
    (same : ∀ error, isFatalOther (rephrase error) = true → isFatal error = true) :
    Provides isFatalOther engine hand recorded kind buffer (result.mapError rephrase) device := by
  cases provides with
  | refused fatal moves => exact .refused (fun found => fatal (same _ found)) moves
  | made bufferEq kindEq moves => exact .made bufferEq kindEq moves

theorem unasked {error : failure} (fatal : isFatal error = true → engine.device.lost = true) :
    Provides isFatal engine hand recorded kind buffer (.error error) engine.device :=
  .refused fatal .refl

end Provides

theorem ImportRequest.check_buffer {buffer : Buffer} {mode : Mode} {limit : UInt32}
    {request : ImportRequest} (accepted : ImportRequest.check buffer mode limit = .ok request) :
    request.buffer = buffer := by
  unfold check at accepted
  split at accepted
  · cases accepted
  · split at accepted
    · cases accepted
    · split at accepted
      · cases accepted
      · cases accepted
        rfl

theorem ImportRequest.check_not_fatal {buffer : Buffer} {mode : Mode} {limit : UInt32}
    {error : BindError} (refused : ImportRequest.check buffer mode limit = .error error) :
    error.isFatal = false := by
  unfold check at refused
  split at refused
  · cases refused
    rfl
  · split at refused
    · cases refused
      rfl
    · split at refused
      · cases refused
        rfl
      · cases refused

namespace Device

theorem answer_provides (engine : Engine) (hand : List Image) (recorded : List ImageHandle)
    (kind : ImageKind) (request : ImportRequest) :
    Provides BindError.isFatal engine hand recorded kind request.buffer.id
      ((engine.device.answer engine.contexts.current kind request).1.map fun handle =>
        .fresh handle request.buffer.id engine.contexts.current kind)
      (engine.device.answer engine.contexts.current kind request).2 := by
  have asked : Moves ⟨engine, hand, recorded⟩
      ⟨{ engine with
        device := engine.device.log (.requested engine.contexts.current kind request) },
        hand, recorded⟩ := .single (.device .request)
  unfold answer
  dsimp only
  split
  · rename_i lost
    exact .refused (fun _ => lost) asked
  · rename_i usable
    split
    · exact .refused (by simp [BindError.isFatal]) asked
    · exact .made rfl rfl (asked.tail (.issue (by simpa using usable)))

theorem bindImage_provides (engine : Engine) (hand : List Image) (recorded : List ImageHandle)
    (buffer : Buffer) (limit : UInt32) :
    Provides BindError.isFatal engine hand recorded .texture buffer.id
      (engine.device.bindImage engine.contexts.current buffer limit).1
      (engine.device.bindImage engine.contexts.current buffer limit).2 := by
  have steps := checkLost_steps engine.device
  have told := checkLost_lost engine.device
  unfold bindImage
  cases asked : engine.device.checkLost with
  | mk lost device =>
      rw [asked] at steps told
      refine Provides.after steps ?_
      cases lost with
      | true => exact .unasked fun _ => told
      | false =>
          dsimp only
          cases checked : ImportRequest.check buffer engine.contexts.current limit with
          | error error =>
              exact .unasked fun fatal => by
                rw [ImportRequest.check_not_fatal checked] at fatal
                cases fatal
          | ok request =>
              rw [← ImportRequest.check_buffer checked]
              exact .after (arrive_steps device .importBuffer)
                (answer_provides { engine with device := device.arrive .importBuffer } hand recorded
                  .texture request)

theorem createOutputImage_provides (engine : Engine) (hand : List Image)
    (recorded : List ImageHandle) (request : ImportRequest) :
    Provides EngineError.isFatal engine hand recorded .output request.buffer.id
      ((engine.device.createOutputImage engine.contexts.current request).1.map fun handle =>
        .fresh handle request.buffer.id engine.contexts.current .output)
      (engine.device.createOutputImage engine.contexts.current request).2 := by
  have answered := answer_provides
    { engine with device := engine.device.arrive .createOutputImage } hand recorded .output request
  have told := answered.mapError EngineError.isFatal targetFailure fun error => by
    cases error <;> simp [targetFailure, EngineError.isFatal, BindError.isFatal]
  have arrived := told.after (arrive_steps engine.device .createOutputImage)
  simp only [createOutputImage]
  cases outcome : ((engine.device.arrive .createOutputImage).answer engine.contexts.current
      .output request).1 with
  | error error =>
      rw [outcome] at arrived
      exact arrived
  | ok handle =>
      rw [outcome] at arrived
      exact arrived

theorem createTarget_provides (engine : Engine) (hand : List Image) (recorded : List ImageHandle)
    (buffer : Buffer) (limit : UInt32) :
    Provides EngineError.isFatal engine hand recorded .output buffer.id
      (engine.device.createTarget engine.contexts.current buffer limit).1
      (engine.device.createTarget engine.contexts.current buffer limit).2 := by
  have steps := checkLost_steps engine.device
  have told := checkLost_lost engine.device
  unfold createTarget
  cases asked : engine.device.checkLost with
  | mk lost device =>
      rw [asked] at steps told
      refine Provides.after steps ?_
      cases lost with
      | true => exact .unasked fun _ => told
      | false =>
          dsimp only
          cases checked : ImportRequest.check buffer engine.contexts.current limit with
          | error error =>
              exact .unasked fun fatal => by
                rw [EngineError.isFatal, ImportRequest.check_not_fatal checked] at fatal
                cases fatal
          | ok request =>
              rw [← ImportRequest.check_buffer checked]
              exact createOutputImage_provides { engine with device } hand recorded
                { request with protectedContent := engine.contexts.current.isSecure }

/-- A target is refused for the sake of the buffer, or because the device is lost. -/
theorem createTarget_cause {device : Device} {mode : Mode} {buffer : Buffer} {limit : UInt32}
    {error : EngineError} (refused : (device.createTarget mode buffer limit).1 = .error error) :
    error = .contextLost ∨ ∃ cause, error = .bind cause := by
  unfold createTarget at refused
  split at refused
  · cases refused
    exact .inl rfl
  · split at refused
    · cases refused
      exact .inr ⟨_, rfl⟩
    · rename_i arrived _ _ request _
      simp only [createOutputImage] at refused
      cases outcome : ((arrived.arrive .createOutputImage).answer mode .output
          { request with protectedContent := mode.isSecure }).1 with
      | error failure =>
          rw [outcome] at refused
          cases failure with
          | contextLost =>
              cases refused
              exact .inl rfl
          | importFailed =>
              cases refused
              exact .inr ⟨_, rfl⟩
      | ok handle =>
          rw [outcome] at refused
          cases refused

theorem createTarget_error {device : Device} {mode : Mode} {buffer : Buffer} {limit : UInt32}
    {error : EngineError} (refused : (device.createTarget mode buffer limit).1 = .error error)
    (cause : ValidationError) : error ≠ .validation cause := by
  rcases createTarget_cause refused with rfl | ⟨_, rfl⟩ <;> exact nofun

end Device

end Compositor
