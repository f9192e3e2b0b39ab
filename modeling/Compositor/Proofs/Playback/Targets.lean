import Compositor.Proofs.Outline.Verdict
import Compositor.Proofs.Playback.Schedule

/-!
# Targets of a scene

What an engine that plays a scene shows apart from timing: the mode of the latest frame and the
targets that are kept for it. Looking at layers changes neither. So each frame ends as the scene says,
and leaves what the scene says for the next one.
-/

set_option autoImplicit false

namespace Compositor

/-! ## What layers leave alone -/

theorem Canvas.make_rejecting (canvas : Canvas) (mode : Mode) (kind : ImageKind) (buffer : Buffer)
    (limit : UInt32) : (canvas.make mode kind buffer limit).2.rejecting = canvas.rejecting := by
  unfold make
  split <;> rfl

namespace Outline

/-- Nothing changed but textures and the images that were made. -/
structure Steady (before after : Outline) : Prop where
  setting : after.setting = before.setting
  contexts : after.contexts = before.contexts
  outputs : after.outputs = before.outputs
  capacity : after.capacity = before.capacity
  issued : after.issued = before.issued

namespace Steady

theorem refl (outline : Outline) : Steady outline outline := ⟨rfl, rfl, rfl, rfl, rfl⟩

theorem trans {first second third : Outline} (left : Steady first second)
    (right : Steady second third) : Steady first third :=
  ⟨right.setting.trans left.setting, right.contexts.trans left.contexts,
    right.outputs.trans left.outputs, right.capacity.trans left.capacity,
    right.issued.trans left.issued⟩

theorem bindTexture (outline : Outline) (buffer : Buffer) :
    Steady outline (outline.bindTexture buffer).2 := by
  have rejecting := outline.canvas.make_rejecting outline.contexts.current .texture buffer
    outline.limit
  unfold Outline.bindTexture make
  cases made : outline.canvas.make outline.contexts.current .texture buffer outline.limit with
  | mk result canvas =>
      rw [made] at rejecting
      have same : ({ outline with canvas } : Outline).setting = outline.setting :=
        congrArg (Setting.mk outline.patience outline.limit outline.contexts.hasSecure) rejecting
      cases result <;> exact ⟨same, rfl, rfl, rfl, rfl⟩

theorem textureFor (outline : Outline) (buffer : Buffer) :
    Steady outline (outline.textureFor buffer).2 := by
  unfold Outline.textureFor
  split
  · exact .refl outline
  · exact .bindTexture outline buffer

end Steady

end Outline

namespace Sketch

variable {signals : Nat → Bool}

theorem look_steady (sketch : Sketch) (index : Nat) (layer : Layer) :
    sketch.outline.Steady (sketch.look signals index layer).outline := by
  unfold look
  cases layer.buffer? with
  | none => exact .refl sketch.outline
  | some buffer =>
      have textured := Outline.Steady.textureFor sketch.outline buffer
      cases outcome : sketch.outline.textureFor buffer with
      | mk result after =>
          rw [outcome] at textured
          dsimp only
          rw [outcome]
          cases result with
          | error cause => exact textured
          | ok handle =>
              dsimp only
              split <;> exact textured

theorem looks_steady (entries : List (Layer × Nat)) (sketch : Sketch) :
    sketch.outline.Steady (entries.foldl
      (fun sketch (layer, index) => sketch.look signals index layer) sketch).outline := by
  induction entries generalizing sketch with
  | nil => exact .refl sketch.outline
  | cons entry entries ih => exact (sketch.look_steady entry.2 entry.1).trans (ih _)

end Sketch

/-! ## What an outline shows -/

namespace Outline

/-- The context of a mode is current, and what is kept for it are the targets of so many frames of a
scene. No import was rejected. -/
structure Shows (scene : Scene) (hasSecure : Bool) (capacity : Nat) (mode : Mode) (count : Nat)
    (outline : Outline) : Prop where
  limit : outline.limit = Buffer.largestExtent
  accepting : outline.canvas.rejecting = []
  contexts : outline.contexts = ⟨mode, hasSecure⟩
  offered : outline.contexts.has mode = true
  room : outline.capacity = capacity
  modes : ∀ image ∈ outline.outputs, image.mode = mode
  outputs : outline.outputs.map (·.buffer) = scene.keptTargets capacity mode count

namespace Shows

variable {scene : Scene} {hasSecure : Bool} {capacity index : Nat} {mode : Mode}
  {outline after : Outline} {request : FrameRequest} {signals : Nat → Bool}

theorem alike (shows : outline.Shows scene hasSecure capacity mode index)
    (setting : after.setting = outline.setting) (contexts : after.contexts = outline.contexts)
    (outputs : after.outputs = outline.outputs) (room : after.capacity = outline.capacity) :
    after.Shows scene hasSecure capacity mode index := by
  refine ⟨(congrArg Setting.limit setting).trans shows.limit,
    (congrArg Setting.rejecting setting).trans shows.accepting, contexts.trans shows.contexts, ?_,
    room.trans shows.room, ?_, ?_⟩
  · rw [contexts]
    exact shows.offered
  · rw [outputs]
    exact shows.modes
  · rw [outputs]
    exact shows.outputs

theorem current (shows : outline.Shows scene hasSecure capacity mode index) :
    outline.contexts.active = mode ∧ outline.contexts.current = mode := by
  have active : outline.contexts.active = mode := by rw [shows.contexts]
  refine ⟨active, ?_⟩
  rw [Contexts.current, active, if_pos shows.offered]

/-- The switch to the mode of the next frame leaves the targets that are kept for it. -/
theorem switchTo (shows : outline.Shows scene hasSecure capacity (scene.modeAfter index) index)
    (offered : outline.contexts.has mode = true) :
    (outline.switchTo mode).Shows scene hasSecure capacity mode index ∧
      (outline.switchTo mode).issued = outline.issued := by
  have active := shows.current.1
  unfold Outline.switchTo
  by_cases stays : scene.modeAfter index = mode
  · rw [if_pos (.inl (active.trans stays))]
    exact ⟨stays ▸ shows, rfl⟩
  · rw [if_neg (by simp [active, stays, offered])]
    refine ⟨⟨shows.limit, shows.accepting, ?_, ?_, shows.room, nofun, ?_⟩, rfl⟩
    · change outline.contexts.activate mode = _
      rw [Contexts.activate, if_pos offered, shows.contexts]
    · rw [Contexts.activate_has]
      exact offered
    · exact (Scene.keptTargets_other stays).symm

theorem target? (shows : outline.Shows scene hasSecure capacity mode index) (buffer : BufferId) :
    (outline.target? buffer).isSome = true ↔ buffer ∈ scene.keptTargets capacity mode index := by
  rw [Outline.target?, shows.current.1, ← shows.outputs, List.mem_map]
  cases found : outline.outputs.find? (·.buffer == buffer) with
  | none =>
      have absent := List.find?_eq_none.mp found
      simpa using absent
  | some image =>
      have member := List.mem_of_find?_eq_some found
      have same : image.buffer = buffer := by simpa using List.find?_some found
      simp only [Option.filter_some, shows.modes image member, beq_self_eq_true, if_true,
        Option.isSome_some, true_iff]
      exact ⟨image, member, same⟩

/-! ## Frames -/

theorem refusal? (shows : outline.Shows scene hasSecure capacity (scene.modeAt index) index)
    (asks : scene.Asks index request) :
    ImportRequest.refusal? outline.canvas.rejecting outline.contexts.current .output
        request.target outline.limit =
      request.target.extentFailure?.map (.importFailed request.target.id) := by
  rw [shows.accepting, shows.limit, shows.current.2]
  exact Buffer.refusal?_extent asks.secured

theorem make_refused (shows : outline.Shows scene hasSecure capacity (scene.modeAt index) index)
    (asks : scene.Asks index request) {reason : ImportFailure}
    (failure : request.target.extentFailure? = some reason) :
    outline.make .output request.target =
      (.error (.importFailed request.target.id reason), outline.canvas) := by
  have refusal := shows.refusal? asks
  rw [failure] at refusal
  exact Canvas.make_refused refusal

theorem make_made (shows : outline.Shows scene hasSecure capacity (scene.modeAt index) index)
    (asks : scene.Asks index request) (fits : request.target.extentFailure? = none) :
    ∃ handle canvas, outline.make .output request.target =
        (.ok ⟨handle, scene.modeAt index, request.target.id, .output⟩, canvas) ∧
      canvas.rejecting = [] := by
  have refusal := shows.refusal? asks
  rw [fits] at refusal
  have made := Canvas.make_made refusal
  rw [shows.current.2] at made
  rw [Outline.make, shows.current.2]
  exact ⟨_, _, made, shows.accepting⟩

theorem invalidate (shows : outline.Shows scene hasSecure capacity mode index) {buffer : BufferId}
    (absent : buffer ∉ scene.keptTargets capacity mode index) :
    outline.invalidate buffer = outline := by
  have others : ∀ image ∈ outline.outputs, ¬(image.buffer == buffer) = true := by
    intro image member same
    rw [← shows.outputs] at absent
    exact absent (List.mem_map.mpr ⟨image, member, by simpa using same⟩)
  rw [Outline.invalidate, List.eraseP_of_forall_not others]

/-- A target that is kept stays where it is. -/
theorem hit (shows : outline.Shows scene hasSecure capacity (scene.modeAt index) index)
    (asks : scene.Asks index request)
    (kept : request.target.id ∈ scene.keptTargets capacity (scene.modeAt index) index) :
    outline.Shows scene hasSecure capacity (scene.modeAt index) (index + 1) := by
  refine ⟨shows.limit, shows.accepting, shows.contexts, shows.offered, shows.room, shows.modes, ?_⟩
  rw [shows.outputs, Scene.keptTargets_succ asks.target, keepTarget, if_pos kept]

/-- A new target goes to the back, and takes the place of the oldest one where there is no room. -/
theorem keep (shows : outline.Shows scene hasSecure capacity (scene.modeAt index) index)
    (asks : scene.Asks index request)
    (absent : request.target.id ∉ scene.keptTargets capacity (scene.modeAt index) index)
    {canvas : Canvas} (accepting : canvas.rejecting = []) (handle : ImageHandle) :
    (({ outline with canvas } : Outline).keep
        ⟨handle, scene.modeAt index, request.target.id, .output⟩).Shows scene hasSecure capacity
      (scene.modeAt index) (index + 1) := by
  refine ⟨shows.limit, accepting, shows.contexts, shows.offered, shows.room, ?_, ?_⟩
  · intro image member
    rcases List.mem_append.mp (List.mem_of_mem_drop member) with before | new
    · exact shows.modes image before
    · rw [List.mem_singleton.mp new]
  · have counted : outline.outputs.length =
        (scene.keptTargets capacity (scene.modeAt index) index).length := by
      rw [← shows.outputs, List.length_map]
    rw [Scene.keptTargets_succ asks.target, keepTarget, if_neg absent, ← counted, ← shows.outputs,
      ← shows.room]
    simp [Outline.keep]

/-- Without room no target is kept. -/
theorem roomless (shows : outline.Shows scene hasSecure 0 mode index) {canvas : Canvas}
    (accepting : canvas.rejecting = []) (count : Nat) :
    ({ outline with canvas } : Outline).Shows scene hasSecure 0 mode count := by
  have nothing (count : Nat) : scene.keptTargets 0 mode count = [] :=
    List.length_eq_zero_iff.mp (Nat.le_zero.mp (scene.keptTargets_length_le 0 mode count))
  refine ⟨shows.limit, accepting, shows.contexts, shows.offered, shows.room, shows.modes, ?_⟩
  rw [nothing count, ← nothing index]
  exact shows.outputs

theorem targetFor_refused (shows : outline.Shows scene hasSecure capacity (scene.modeAt index) index)
    (asks : scene.Asks index request) {cause : BindError}
    (refused : scene.refusalAt? capacity index request.target = some cause) :
    (outline.targetFor request.target true).1 = .error (.bind cause) := by
  unfold Scene.refusalAt? at refused
  split at refused
  · cases refused
  · rename_i absent
    have miss : outline.target? request.target.id = none := by
      rw [← Option.not_isSome_iff_eq_none, shows.target?]
      exact absent
    obtain ⟨reason, failure, rfl⟩ := Option.map_eq_some_iff.mp refused
    rw [Outline.targetFor, if_pos rfl, miss]
    dsimp only
    rw [shows.make_refused asks failure]

theorem targetFor_given (shows : outline.Shows scene hasSecure capacity (scene.modeAt index) index)
    (asks : scene.Asks index request)
    (accepted : scene.refusalAt? capacity index request.target = none) :
    ∃ given after, outline.targetFor request.target true = (.ok given, after) ∧
      after.Shows scene hasSecure capacity (scene.modeAt index) (index + 1) ∧
      after.issued = outline.issued := by
  have found := shows.target? request.target.id
  unfold Scene.refusalAt? at accepted
  rw [Outline.targetFor, if_pos rfl]
  split at accepted
  · rename_i kept
    obtain ⟨image, hit⟩ := Option.isSome_iff_exists.mp (found.mpr kept)
    rw [hit]
    exact ⟨_, _, rfl, shows.hit asks kept, rfl⟩
  · rename_i absent
    have miss : outline.target? request.target.id = none := by
      rw [← Option.not_isSome_iff_eq_none, found]
      exact absent
    obtain ⟨handle, canvas, made, accepting⟩ :=
      shows.make_made asks (Option.map_eq_none_iff.mp accepted)
    rw [miss]
    dsimp only
    rw [made, if_pos rfl, shows.invalidate absent]
    refine ⟨_, _, rfl, ?_, ?_⟩
    · by_cases room : capacity = 0
      · subst room
        rw [if_neg (by simp [shows.room])]
        exact shows.roomless accepting (index + 1)
      · rw [if_pos (by simp [shows.room, room])]
        exact shows.keep asks absent accepting handle
    · dsimp only
      split <;> rfl

theorem offered_iff (shows : outline.Shows scene hasSecure capacity mode index) (next : Mode) :
    outline.contexts.has next = true ↔ ¬(next = .secure ∧ ¬hasSecure = true) := by
  rw [shows.contexts]
  cases next <;> simp [Contexts.has]

theorem draw_unavailable
    (shows : outline.Shows scene hasSecure capacity (scene.modeAfter index) index)
    (asks : scene.Asks index request) (missing : ¬outline.contexts.has (scene.modeAt index) = true) :
    (outline.draw (fun _ => true) request).1 = .error .protectedUnavailable := by
  have other : scene.modeAfter index ≠ scene.modeAt index := by
    intro same
    exact missing (same ▸ shows.offered)
  have stays : outline.switchTo (scene.modeAt index) = outline := by
    rw [Outline.switchTo, if_pos (.inr missing)]
  rw [Outline.draw, if_pos rfl, asks.mode, stays]
  dsimp only
  rw [if_neg (by rw [shows.current.1]; exact other)]

/-- What a frame whose mode is offered comes to: its layers are looked at, and then its target is
made. -/
theorem draw_composes
    (shows : outline.Shows scene hasSecure capacity (scene.modeAfter index) index)
    (asks : scene.Asks index request) (offered : outline.contexts.has (scene.modeAt index) = true) :
    ∃ sketch : Sketch, outline.draw (fun _ => true) request =
        Outline.finishFrame request outline.issued.next sketch ∧
      (sketch.outline.evict sketch.active).Shows scene hasSecure capacity (scene.modeAt index)
        index ∧
      (sketch.outline.evict sketch.active).issued = outline.issued.next := by
  obtain ⟨switched, issued⟩ := shows.switchTo offered
  let begun : Outline :=
    { outline.switchTo (scene.modeAt index) with issued := outline.issued.next }
  have begins : begun.Shows scene hasSecure capacity (scene.modeAt index) index :=
    switched.alike rfl rfl rfl rfl
  have looked : begun.Steady (Sketch.lookAll (fun _ => true) begun request.layers).outline :=
    Sketch.looks_steady request.layers.zipIdx (.start begun)
  refine ⟨.lookAll (fun _ => true) begun request.layers, ?_, ?_, ?_⟩
  · rw [Outline.draw, if_pos rfl, asks.mode]
    dsimp only
    rw [if_pos switched.current.1, Outline.compose, issued]
  · exact begins.alike looked.setting looked.contexts looked.outputs looked.capacity
  · exact looked.issued

/-- A frame fails where the scene says so, and for the reason that the scene gives. -/
theorem draw_refused (shows : outline.Shows scene hasSecure capacity (scene.modeAfter index) index)
    (asks : scene.Asks index request) {error : EngineError}
    (refused : scene.failureAt? hasSecure capacity index = some error) :
    (outline.draw (fun _ => true) request).1 = .error error := by
  unfold Scene.failureAt? at refused
  split at refused
  · rename_i missing
    cases refused
    exact shows.draw_unavailable asks fun offered => (shows.offered_iff _).mp offered missing
  · rename_i present
    rw [asks.target, Option.bind_some] at refused
    obtain ⟨cause, unfit, rfl⟩ := Option.map_eq_some_iff.mp refused
    obtain ⟨sketch, drawn, ready, -⟩ :=
      shows.draw_composes asks ((shows.offered_iff _).mpr present)
    have targeted := ready.targetFor_refused asks unfit
    rw [drawn, Outline.finishFrame, asks.usesOutputCache]
    cases outcome : (sketch.outline.evict sketch.active).targetFor request.target true with
    | mk result after =>
        rw [outcome] at targeted
        cases targeted
        rfl

/-- A frame that does not fail leaves what the scene says for the next one. -/
theorem draw_finished (shows : outline.Shows scene hasSecure capacity (scene.modeAfter index) index)
    (asks : scene.Asks index request)
    (accepted : scene.failureAt? hasSecure capacity index = none) :
    (∃ status, (outline.draw (fun _ => true) request).1 = .ok status) ∧
      (outline.draw (fun _ => true) request).2.Shows scene hasSecure capacity
        (scene.modeAfter (index + 1)) (index + 1) ∧
      (outline.draw (fun _ => true) request).2.issued = outline.issued.next := by
  unfold Scene.failureAt? at accepted
  split at accepted
  · cases accepted
  · rename_i present
    rw [asks.target, Option.bind_some, Option.map_eq_none_iff] at accepted
    obtain ⟨sketch, drawn, ready, issued⟩ :=
      shows.draw_composes asks ((shows.offered_iff _).mpr present)
    obtain ⟨given, after, targeted, kept, same⟩ := ready.targetFor_given asks accepted
    rw [drawn, Outline.finishFrame, asks.usesOutputCache, targeted]
    exact ⟨⟨_, rfl⟩, kept.alike rfl rfl rfl rfl, same.trans issued⟩

end Shows

end Outline

end Compositor
