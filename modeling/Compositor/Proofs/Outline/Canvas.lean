import Compositor.Proofs.Device.Dealings
import Compositor.Proofs.Paths.Planning

/-!
# What a device made and drew

The images that a device made and the draws that it recorded, with what decides about the next ones:
the handles issued so far and the imports that it rejects. Submissions, fences and destruction leave
all of this alone, and on a device that stays usable it answers every request.
-/

set_option autoImplicit false

namespace Compositor

variable {mode : Mode} {kind : ImageKind} {buffer : Buffer} {limit : UInt32}

namespace ImportRequest

/-- Why an image of a buffer cannot be made, if so. -/
def refusal? (rejecting : List BufferId) (mode : Mode) (kind : ImageKind) (buffer : Buffer)
    (limit : UInt32) : Option BindError :=
  match check buffer mode limit with
  | .error error => some error
  | .ok _ =>
    if buffer.id ∈ rejecting then some (.importFailed buffer.id (Device.rejection kind)) else none

/-- No image is refused because of a loss. -/
theorem refusal?_survivable {rejecting : List BufferId} {error : BindError}
    (refused : refusal? rejecting mode kind buffer limit = some error) :
    error.isFatal = false := by
  unfold refusal? at refused
  cases checked : check buffer mode limit with
  | error cause =>
      rw [checked] at refused
      cases refused
      exact check_not_fatal checked
  | ok request =>
      rw [checked] at refused
      dsimp only at refused
      split at refused
      · cases refused
        rfl
      · cases refused

end ImportRequest

structure Canvas where
  offersSecure : Bool
  issued : Nat
  rejecting : List BufferId
  /-- Every image that was ever made, the latest one first. -/
  created : List LiveImage
  /-- Every draw that was recorded, the latest one first. -/
  drawn : List DrawRecord

namespace Canvas

def make (canvas : Canvas) (mode : Mode) (kind : ImageKind) (buffer : Buffer) (limit : UInt32) :
    Except BindError LiveImage × Canvas :=
  match ImportRequest.refusal? canvas.rejecting mode kind buffer limit with
  | some error => (.error error, canvas)
  | none =>
    let image : LiveImage := ⟨⟨canvas.issued + 1⟩, mode, buffer.id, kind⟩
    (.ok image,
      { canvas with issued := canvas.issued + 1, created := image :: canvas.created })

variable {canvas : Canvas}

theorem make_refused {error : BindError}
    (refused : ImportRequest.refusal? canvas.rejecting mode kind buffer limit = some error) :
    canvas.make mode kind buffer limit = (.error error, canvas) := by
  rw [make, refused]

theorem make_made
    (accepted : ImportRequest.refusal? canvas.rejecting mode kind buffer limit = none) :
    canvas.make mode kind buffer limit =
      (.ok ⟨⟨canvas.issued + 1⟩, mode, buffer.id, kind⟩,
        { canvas with
          issued := canvas.issued + 1
          created := ⟨⟨canvas.issued + 1⟩, mode, buffer.id, kind⟩ :: canvas.created }) := by
  rw [make, accepted]

theorem make_survivable {error : BindError}
    (refused : (canvas.make mode kind buffer limit).1 = .error error) : error.isFatal = false := by
  cases asked : ImportRequest.refusal? canvas.rejecting mode kind buffer limit with
  | none =>
      rw [make_made asked] at refused
      cases refused
  | some cause =>
      rw [make_refused asked] at refused
      cases refused
      exact ImportRequest.refusal?_survivable asked

/-- Draws sources into a target, one after another. -/
def draw (canvas : Canvas) (mode : Mode) (target : ImageHandle)
    (sources : List (Option ImageHandle)) : Canvas :=
  { canvas with
    drawn := (sources.map fun source => ⟨mode, target, source⟩).reverse ++ canvas.drawn }

theorem draw_cons (canvas : Canvas) (mode : Mode) (target : ImageHandle)
    (source : Option ImageHandle) (sources : List (Option ImageHandle)) :
    (canvas.draw mode target [source]).draw mode target sources =
      canvas.draw mode target (source :: sources) := by
  simp [draw]

end Canvas

namespace Device

def canvas (device : Device) : Canvas where
  offersSecure := device.options.protectedContent
  issued := device.issued
  rejecting := device.rejecting
  created := History.created device.events
  drawn := device.events.filterMap DeviceEvent.draw?

theorem Plain.canvas {before after : Device} (plain : Plain before after) :
    after.canvas = before.canvas := by
  obtain ⟨added, events, unproductive⟩ := plain.events
  have created : added.filterMap DeviceEvent.created? = [] := by
    rw [List.filterMap_eq_nil_iff]
    intro event member
    have quiet := unproductive event member
    cases event <;> first | rfl | cases quiet
  unfold Device.canvas History.created
  rw [plain.options, plain.issued, plain.rejecting, events, List.filterMap_append,
    List.filterMap_append, created, Plain.drawless unproductive]
  rfl

/-! ## Making images -/

theorem answer_canvas (device : Device) (kind : ImageKind) {request accepted : ImportRequest}
    (usable : device.lost = false) (checked : ImportRequest.check buffer mode limit = .ok accepted)
    (same : request.buffer = buffer) :
    device.canvas.make mode kind buffer limit =
      ((device.answer mode kind request).1.map fun handle => ⟨handle, mode, buffer.id, kind⟩,
        (device.answer mode kind request).2.canvas) := by
  subst same
  let asked := device.log (.requested mode kind request)
  have healthy : ¬asked.lost = true := by simp [asked, log, usable]
  unfold answer Canvas.make ImportRequest.refusal?
  rw [checked]
  dsimp only
  rw [if_neg healthy]
  by_cases rejected : request.buffer.id ∈ device.rejecting
  · have known : request.buffer.id ∈ asked.rejecting := rejected
    have seen : request.buffer.id ∈ device.canvas.rejecting := rejected
    rw [if_pos known, if_pos seen]
    rfl
  · have known : request.buffer.id ∉ asked.rejecting := rejected
    have seen : request.buffer.id ∉ device.canvas.rejecting := rejected
    rw [if_neg known, if_neg seen]
    rfl

theorem targetFailure_eq {error : BindError} (survivable : error.isFatal = false) :
    targetFailure error = .bind error := by
  cases error with
  | contextLost => cases survivable
  | importFailed => rfl

theorem bindImage_canvas {device : Device}
    (usable : (device.bindImage mode buffer limit).2.lost = false) :
    device.canvas.make mode .texture buffer limit =
      ((device.bindImage mode buffer limit).1.map Image.asLive,
        (device.bindImage mode buffer limit).2.canvas) := by
  have told := checkLost_lost device
  have plain := Plain.checkLost device
  unfold bindImage at usable ⊢
  cases asked : device.checkLost with
  | mk lost known =>
      rw [asked] at usable told plain
      rw [← plain.canvas]
      cases lost with
      | true => exact absurd (usable.symm.trans told) (by simp)
      | false =>
          dsimp only at usable ⊢
          cases checked : ImportRequest.check buffer mode limit with
          | error error => simp [Canvas.make, ImportRequest.refusal?, checked, Except.map]
          | ok request =>
              rw [checked] at usable
              have healthy := (answer_answered _ mode .texture request).lost_eq.symm.trans usable
              rw [← (Plain.arrive known .importBuffer).canvas,
                answer_canvas _ .texture healthy checked (ImportRequest.check_buffer checked)]
              unfold importBuffer
              dsimp only
              cases ((known.arrive .importBuffer).answer mode .texture request).1 <;> rfl

theorem createTarget_canvas {device : Device}
    (usable : (device.createTarget mode buffer limit).2.lost = false) :
    ((device.canvas.make mode .output buffer limit).1.mapError EngineError.bind,
        (device.canvas.make mode .output buffer limit).2) =
      ((device.createTarget mode buffer limit).1.map Image.asLive,
        (device.createTarget mode buffer limit).2.canvas) := by
  have told := checkLost_lost device
  have plain := Plain.checkLost device
  unfold createTarget at usable ⊢
  cases asked : device.checkLost with
  | mk lost known =>
      rw [asked] at usable told plain
      rw [← plain.canvas]
      cases lost with
      | true => exact absurd (usable.symm.trans told) (by simp)
      | false =>
          dsimp only at usable ⊢
          cases checked : ImportRequest.check buffer mode limit with
          | error error =>
              simp [Canvas.make, ImportRequest.refusal?, checked, Except.map, Except.mapError]
          | ok request =>
              rw [checked] at usable
              let target := { request with protectedContent := mode.isSecure }
              have healthy := (answer_answered _ mode .output target).lost_eq.symm.trans usable
              have same : target.buffer = buffer := by
                rw [← ImportRequest.check_buffer checked]
              have made :=
                answer_canvas (known.arrive .createOutputImage) .output healthy checked same
              have refused := @Canvas.make_survivable mode .output buffer limit
                (known.arrive .createOutputImage).canvas
              rw [← (Plain.arrive known .createOutputImage).canvas]
              rw [made] at refused ⊢
              unfold createOutputImage
              dsimp only [target] at refused ⊢
              cases outcome : ((known.arrive .createOutputImage).answer mode .output
                  { request with protectedContent := mode.isSecure }).1 with
              | error error =>
                  rw [outcome] at refused
                  simp only [Except.map, Except.mapError]
                  rw [targetFailure_eq (refused rfl)]
              | ok handle => rfl

theorem createTarget_refused {device after : Device} {error : EngineError}
    (refused : device.createTarget mode buffer limit = (.error error, after))
    (usable : after.lost = false) :
    ∃ cause, error = .bind cause ∧
      device.canvas.make mode .output buffer limit = (.error cause, after.canvas) := by
  have same := @createTarget_canvas mode buffer limit device
  rw [refused] at same
  cases made : device.canvas.make mode .output buffer limit with
  | mk result canvas =>
      rw [made] at same
      have both := same usable
      cases result with
      | ok image => cases both
      | error cause =>
          cases both
          exact ⟨cause, rfl, rfl⟩

theorem createTarget_made {device after : Device} {image : Image}
    (created : device.createTarget mode buffer limit = (.ok image, after))
    (usable : after.lost = false) :
    device.canvas.make mode .output buffer limit = (.ok image.asLive, after.canvas) := by
  have same := @createTarget_canvas mode buffer limit device
  rw [created] at same
  cases made : device.canvas.make mode .output buffer limit with
  | mk result canvas =>
      rw [made] at same
      have both := same usable
      cases result with
      | error cause => cases both
      | ok fresh =>
          cases both
          rfl

/-! ## Drawing -/

theorem drawLayer_accepted {device after : Device} {target : ImageHandle}
    {source : Option ImageHandle} {layer : Layer}
    (accepted : device.drawLayer mode target source layer = (.ok (), after)) :
    after.canvas = device.canvas.draw mode target [source] := by
  have arrived := (Plain.arrive device .drawLayer).canvas
  have answers := acceptDraw_answered (device.arrive .drawLayer) mode target source
  unfold drawLayer at accepted
  rw [accepted] at answers
  cases answers with
  | done =>
      rw [← arrived]
      rfl

theorem drawLayer_fatal {device after : Device} {target : ImageHandle}
    {source : Option ImageHandle} {layer : Layer} {error : EngineError}
    (refused : device.drawLayer mode target source layer = (.error error, after))
    (fatal : error.isFatal = true) : error = .contextLost ∧ after.lost = true := by
  have answers := acceptDraw_answered (device.arrive .drawLayer) mode target source
  unfold drawLayer at refused
  rw [refused] at answers
  cases answers with
  | lost lost => exact ⟨rfl, lost⟩
  | misused => cases fatal

theorem beginFrame_refused {device after : Device} {target : ImageHandle} {display : Display}
    {error : EngineError}
    (refused : device.beginFrame mode target display = (.error error, after)) :
    (error = .contextLost ∧ after.lost = true) ∨ ∃ cause, error = .validation cause := by
  have answers := acceptBegin_answered (device.arrive .beginFrame) mode target
  unfold beginFrame at refused
  rw [refused] at answers
  cases answers with
  | lost lost => exact .inl ⟨rfl, lost⟩
  | misused => exact .inr ⟨_, rfl⟩

end Device

namespace Recording

variable {target : ImageHandle}

/-- What recording draws that are not refused adds to a recording. -/
structure Draws (mode : Mode) (target : ImageHandle) (before : Recording)
    (sources : List (Option ImageHandle)) (after : Recording) : Prop where
  rejected : after.rejected = before.rejected
  drawn : after.drawn = before.drawn + sources.length
  canvas : after.device.canvas = before.device.canvas.draw mode target sources

theorem add_draws {recording next : Recording} {planned : PlannedDraw}
    (added : recording.add mode target planned = .ok next)
    (accepted : NoneRejected next.rejected) :
    Draws mode target recording [planned.source] next := by
  unfold add at added
  cases outcome : recording.device.drawLayer mode target planned.source planned.layer with
  | mk result device =>
      rw [outcome] at added
      cases result with
      | ok =>
          cases added
          exact ⟨rfl, rfl, Device.drawLayer_accepted outcome⟩
      | error error =>
          dsimp only at added
          split at added
          · cases added
          · cases added
            exact absurd rfl
              (accepted _ (List.mem_append_right _ (List.mem_singleton.mpr rfl)) error)

theorem adds_draw {start last : Recording} {draws : List PlannedDraw}
    (drawn : draws.foldlM (add mode target) start = .ok last)
    (accepted : NoneRejected last.rejected) :
    Draws mode target start (draws.map (·.source)) last := by
  induction draws generalizing start with
  | nil =>
      cases drawn
      exact ⟨rfl, rfl, rfl⟩
  | cons planned draws ih =>
      rw [List.foldlM_cons] at drawn
      cases added : start.add mode target planned with
      | error failure =>
          rw [added] at drawn
          cases drawn
      | ok next =>
          rw [added] at drawn
          have rest := ih drawn
          have first := add_draws added (by rw [← rest.rejected]; exact accepted)
          refine ⟨rest.rejected.trans first.rejected, ?_, ?_⟩
          · rw [rest.drawn, first.drawn]
            simp only [List.map_cons, List.length_cons, List.length_nil]
            omega
          · rw [rest.canvas, first.canvas, Canvas.draw_cons]
            rfl

theorem add_failed {recording : Recording} {planned : PlannedDraw} {error : EngineError}
    {after : Device} (failed : recording.add mode target planned = .error (error, after)) :
    error = .contextLost ∧ after.lost = true := by
  unfold add at failed
  cases outcome : recording.device.drawLayer mode target planned.source planned.layer with
  | mk result device =>
      rw [outcome] at failed
      cases result with
      | ok => cases failed
      | error other =>
          dsimp only at failed
          split at failed
          · rename_i fatal
            cases failed
            exact Device.drawLayer_fatal outcome fatal
          · cases failed

theorem adds_failed {start : Recording} {draws : List PlannedDraw} {error : EngineError}
    {after : Device} (failed : draws.foldlM (add mode target) start = .error (error, after)) :
    error = .contextLost ∧ after.lost = true := by
  induction draws generalizing start with
  | nil => cases failed
  | cons planned draws ih =>
      rw [List.foldlM_cons] at failed
      cases added : start.add mode target planned with
      | error failure =>
          rw [added] at failed
          cases failed
          exact add_failed added
      | ok next =>
          rw [added] at failed
          exact ih failed

variable {device : Device} {display : Display} {draws : List PlannedDraw}

theorem ofDraws_draws {recording : Recording}
    (drawn : ofDraws device mode target display draws = .ok recording)
    (accepted : NoneRejected recording.rejected) :
    Draws mode target ⟨device, 0, []⟩ (draws.map (·.source)) recording := by
  have begun := (Device.Plain.beginFrame device mode target display).canvas
  unfold ofDraws at drawn
  cases outcome : device.beginFrame mode target display with
  | mk result after =>
      rw [outcome] at begun drawn
      cases result with
      | error error => cases drawn
      | ok =>
          have added := adds_draw drawn accepted
          refine ⟨added.rejected, added.drawn, ?_⟩
          rw [added.canvas, ← begun]

theorem ofDraws_failed {error : EngineError} {after : Device}
    (failed : ofDraws device mode target display draws = .error (error, after)) :
    (error = .contextLost ∧ after.lost = true) ∨ ∃ cause, error = .validation cause := by
  unfold ofDraws at failed
  cases outcome : device.beginFrame mode target display with
  | mk result begun =>
      rw [outcome] at failed
      cases result with
      | error other =>
          cases failed
          exact Device.beginFrame_refused outcome
      | ok => exact .inl (adds_failed failed)

end Recording

end Compositor
