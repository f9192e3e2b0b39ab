import Compositor.Proofs.Playback.Targets

/-!
# When frames fail

A frame fails for one of three reasons, which are looked for in this order: its input does not come,
the context that it needs does not exist, or its target can neither be found nor made. Whatever comes
of its layers, they are at most left out.
-/

set_option autoImplicit false

namespace Compositor

/-- A result fails for the reason given, if one is given. -/
inductive FailsBy {ε α : Type} : Option ε → Except ε α → Prop where
  | succeeds {value : α} : FailsBy none (.ok value)
  | fails {error : ε} : FailsBy (some error) (.error error)

namespace FailsBy

variable {ε α β : Type} {reason : Option ε} {result : Except ε α}

theorem error_iff (fails : FailsBy reason result) (error : ε) :
    result = .error error ↔ reason = some error := by
  cases fails <;> simp

theorem ok_iff (fails : FailsBy reason result) : (∃ value, result = .ok value) ↔ reason = none := by
  cases fails <;> simp

theorem of_map {change : α → β} (fails : FailsBy reason (result.map change)) :
    FailsBy reason result := by
  cases result with
  | ok value =>
      cases fails
      exact .succeeds
  | error error =>
      cases fails
      exact .fails

end FailsBy

/-! ## Outlines -/

namespace Outline

variable {outline : Outline} {request : FrameRequest} {signals : Nat → Bool}

/-- The target of a frame is kept for the active mode, and the frame may use it. -/
def finds (outline : Outline) (request : FrameRequest) : Bool :=
  request.usesOutputCache && (outline.target? request.target.id).isSome

/-- Why the target of a frame is not to be had, if so. -/
def targetFailure? (outline : Outline) (request : FrameRequest) : Option EngineError :=
  if outline.finds request then none
  else (outline.setting.refusal? request.mode .output request.target).map .bind

/-- Why a frame fails, if so. -/
def failure? (outline : Outline) (arrives : Bool) (request : FrameRequest) :
    Option EngineError :=
  if arrives then
    if outline.contexts.has request.mode then
      (outline.switchTo request.mode).targetFailure? request
    else some .protectedUnavailable
  else some (.fenceTimeout outline.patience)

theorem make_fails (outline : Outline) (kind : ImageKind) (buffer : Buffer) :
    FailsBy (outline.setting.refusal? outline.contexts.current kind buffer)
      (outline.make kind buffer).1 := by
  cases asked : outline.setting.refusal? outline.contexts.current kind buffer with
  | none =>
      rw [show outline.make kind buffer = _ from Canvas.make_made asked]
      exact .succeeds
  | some cause =>
      rw [show outline.make kind buffer = _ from Canvas.make_refused asked]
      exact .fails

theorem finds_eq (outline : Outline) (request : FrameRequest) :
    outline.finds request =
      (if request.usesOutputCache then outline.target? request.target.id else none).isSome := by
  unfold finds
  cases request.usesOutputCache <;> rfl

theorem targetFor_fails (current : outline.contexts.current = request.mode) :
    FailsBy (outline.targetFailure? request)
      (outline.targetFor request.target request.usesOutputCache).1 := by
  have made := outline.make_fails .output request.target
  rw [current] at made
  unfold targetFailure? targetFor
  rw [finds_eq]
  generalize outline.setting.refusal? request.mode .output request.target = refusal at made ⊢
  cases if request.usesOutputCache then outline.target? request.target.id else none with
  | some image => exact .succeeds
  | none =>
      cases outcome : outline.make .output request.target with
      | mk result canvas =>
          rw [outcome] at made
          dsimp only at made ⊢
          cases made with
          | succeeds => exact .succeeds
          | fails => exact .fails

/-- Layers do not matter for the target of a frame. -/
theorem Steady.targetFailure? {after : Outline} (steady : outline.Steady after) :
    after.targetFailure? request = outline.targetFailure? request := by
  unfold Outline.targetFailure? finds target?
  rw [steady.setting, steady.outputs, steady.contexts]

theorem evict_steady (outline : Outline) (active : List BufferId) :
    outline.Steady (outline.evict active) := ⟨rfl, rfl, rfl, rfl, rfl⟩

theorem compose_fails (current : outline.contexts.current = request.mode) :
    FailsBy (outline.targetFailure? request) (outline.compose signals request).1 := by
  let begun : Outline := { outline with issued := outline.issued.next }
  let sketch := Sketch.lookAll signals begun request.layers
  have steady : begun.Steady (sketch.outline.evict sketch.active) :=
    (Sketch.looks_steady request.layers.zipIdx (.start begun)).trans (evict_steady _ _)
  have currentStill : (sketch.outline.evict sketch.active).contexts.current = request.mode :=
    (congrArg Contexts.current steady.contexts).trans current
  have targeted := targetFor_fails currentStill
  rw [steady.targetFailure?] at targeted
  have same : begun.targetFailure? request = outline.targetFailure? request := rfl
  rw [same] at targeted
  generalize outline.targetFailure? request = failure at targeted ⊢
  unfold compose finishFrame
  cases outcome : (sketch.outline.evict sketch.active).targetFor request.target
      request.usesOutputCache with
  | mk result after =>
      rw [outcome] at targeted
      dsimp only at targeted ⊢
      cases targeted with
      | succeeds => exact .succeeds
      | fails => exact .fails

theorem switchTo_current {mode : Mode} (active : outline.contexts.has outline.contexts.active = true)
    (available : outline.contexts.has mode = true) :
    (outline.switchTo mode).contexts.active = mode ∧
      (outline.switchTo mode).contexts.current = mode := by
  unfold switchTo
  by_cases stays : outline.contexts.active = mode
  · rw [if_pos (.inl stays), Contexts.current_eq active]
    exact ⟨stays, stays⟩
  · have switched := Contexts.activate_active available
    have offered : (outline.contexts.activate mode).has (outline.contexts.activate mode).active =
        true := by
      rw [switched, Contexts.activate_has]
      exact available
    rw [if_neg (by simp [stays, available])]
    exact ⟨switched, (Contexts.current_eq offered).trans switched⟩

theorem switchTo_setting (outline : Outline) (mode : Mode) :
    (outline.switchTo mode).setting = outline.setting := by
  unfold switchTo
  split
  · rfl
  · simp only [setting, Contexts.activate]
    split <;> rfl

theorem draw_fails (active : outline.contexts.has outline.contexts.active = true) :
    FailsBy (outline.failure? (signals 0) request) (outline.draw signals request).1 := by
  unfold failure? draw
  cases signals 0 with
  | false => exact .fails
  | true =>
      rw [if_pos rfl, if_pos rfl]
      by_cases available : outline.contexts.has request.mode = true
      · obtain ⟨switched, current⟩ := switchTo_current active available
        rw [if_pos available, if_pos switched]
        exact compose_fails current
      · have stays : outline.switchTo request.mode = outline := by
          rw [switchTo, if_pos (.inr available)]
        have other : outline.contexts.active ≠ request.mode := by
          rintro same
          exact available (same ▸ active)
        rw [if_neg available, stays, if_neg other]
        exact .fails

end Outline

/-! ## Engines -/

namespace Engine

variable {engine : Engine} {request : FrameRequest}

/-- The frame has to wait for its input, and the wait does not return that it signaled. -/
def InputLate (engine : Engine) (request : FrameRequest) : Prop :=
  ∃ fence, request.inputFence = some fence ∧ (engine.device.await fence).1 = false

/-- The frame shows something protected, and there is no context for it. -/
def Unprotectable (engine : Engine) (request : FrameRequest) : Prop :=
  (request.display.protectedOutput = true ∨ request.target.isProtected = true ∨
    ∃ layer ∈ request.layers, layer.isProtected = true) ∧ engine.supportsProtected = false

/-- After the switch to the context of the frame, its target is at hand. -/
def TargetCached (engine : Engine) (request : FrameRequest) : Prop :=
  request.usesOutputCache = true ∧
    ((engine.switchTo request.mode).outputs.hit? request.target.id request.mode).isSome = true

/-- The target has no extent or too much of it, or the device rejects it. -/
def TargetUnfit (engine : Engine) (target : Buffer) : Prop :=
  target.width = 0 ∨ target.height = 0 ∨ engine.limit < target.width ∨
    engine.limit < target.height ∨ target.id ∈ engine.device.rejecting

theorem inputLate_iff :
    engine.InputLate request ↔ (engine.awaitAny request.inputFence).1 = false := by
  unfold InputLate
  cases request.inputFence with
  | none => simp [awaitAny]
  | some fence => simp [awaitAny, await]

theorem unprotectable_iff :
    engine.Unprotectable request ↔ engine.contexts.has request.mode = false := by
  unfold Unprotectable
  rw [← request.isProtected_iff, FrameRequest.mode]
  cases request.isProtected <;> simp [Mode.ofProtected, Contexts.has, supportsProtected]

/-- Once its input is there, a frame on a device that stays usable switches to its context. -/
theorem draw_switches (alive : engine.lost = false)
    (arrives : (engine.awaitAny request.inputFence).1 = true)
    (usable : (engine.draw request).2.device.lost = false) :
    (engine.switchTo request.mode).device.lost = false := by
  unfold draw at usable
  rw [if_neg (by simp [alive])] at usable
  have unlost := @awaitAny_usable engine request.inputFence
  cases outcome : engine.awaitAny request.inputFence with
  | mk signaled waited =>
      rw [outcome] at arrives usable unlost
      dsimp only at arrives unlost
      subst arrives
      obtain ⟨_, deals, -⟩ := (waited.switchTo request.mode).compose_composes request
      have switched : (waited.switchTo request.mode).device.lost = false := by
        dsimp only at usable
        split at usable
        · exact usable
        · split at usable
          · exact usable
          · exact deals.usable usable
      have same := unlost ((waited.switchTo_plain request.mode).usable switched)
      rwa [same] at switched

/-- What the outline finds after the switch is what the output cache holds. -/
theorem targetCached_iff (alive : engine.lost = false)
    (active : engine.contexts.has engine.contexts.active = true)
    (available : engine.contexts.has request.mode = true)
    (usable : (engine.switchTo request.mode).device.lost = false) :
    engine.TargetCached request ↔
      (engine.outline.switchTo request.mode).finds request = true := by
  obtain ⟨switched, -⟩ := switchTo_outline alive usable
  have outlineActive : engine.outline.contexts.has engine.outline.contexts.active = true := active
  have current := (Outline.switchTo_current outlineActive available).1
  rw [← switched] at current ⊢
  have same : (engine.switchTo request.mode).contexts.active = request.mode := current
  unfold TargetCached Outline.finds
  rw [outline_target?, same, Bool.and_eq_true, Option.isSome_map]

/-- A target for the mode of its frame is refused for what it is, or because the device rejects it,
and in no other way. -/
theorem refusal?_cases (engine : Engine) (request : FrameRequest) :
    (engine.TargetUnfit request.target ∧ ∃ reason,
        engine.outline.setting.refusal? request.mode .output request.target =
          some (.importFailed request.target.id reason)) ∨
      (¬engine.TargetUnfit request.target ∧
        engine.outline.setting.refusal? request.mode .output request.target = none) := by
  have guarded : ¬(request.target.isProtected = true ∧ request.mode = .normal) := by
    rintro ⟨isProtected, normal⟩
    have secure := request.mode_eq_secure_iff.mpr
      (request.isProtected_iff.mpr (.inr (.inl isProtected)))
    cases normal.symm.trans secure
  have same : engine.outline.setting.refusal? request.mode .output request.target =
      ImportRequest.refusal? engine.device.rejecting request.mode .output request.target
        engine.limit := rfl
  rw [same]
  unfold ImportRequest.refusal? ImportRequest.check TargetUnfit
  by_cases empty : request.target.width = 0 ∨ request.target.height = 0
  · rw [if_pos empty]
    exact .inl ⟨empty.imp_right .inl, _, rfl⟩
  · by_cases large : engine.limit < request.target.width ∨ engine.limit < request.target.height
    · rw [if_neg empty, if_pos large]
      exact .inl ⟨.inr (.inr (large.imp_right .inl)), _, rfl⟩
    · rw [if_neg empty, if_neg large, if_neg guarded]
      by_cases rejected : request.target.id ∈ engine.device.rejecting
      · dsimp only
        rw [if_pos rejected]
        exact .inl ⟨.inr (.inr (.inr (.inr rejected))), _, rfl⟩
      · dsimp only
        rw [if_neg rejected]
        refine .inr ⟨?_, rfl⟩
        rintro (flat | thin | wide | tall | refused)
        · exact empty (.inl flat)
        · exact empty (.inr thin)
        · exact large (.inl wide)
        · exact large (.inr tall)
        · exact rejected refused

/-- What a call for a frame comes to, and when. -/
inductive Case (engine : Engine) (request : FrameRequest) : Option EngineError → Prop where
  | late : engine.InputLate request →
      Case engine request (some (.fenceTimeout engine.options.fenceTimeout.toNat))
  | unavailable : ¬engine.InputLate request → engine.Unprotectable request →
      Case engine request (some .protectedUnavailable)
  | rejected (reason : ImportFailure) : ¬engine.InputLate request →
      ¬engine.Unprotectable request → ¬engine.TargetCached request →
      engine.TargetUnfit request.target →
      Case engine request (some (.bind (.importFailed request.target.id reason)))
  | fine : ¬engine.InputLate request → ¬engine.Unprotectable request →
      engine.TargetCached request ∨ ¬engine.TargetUnfit request.target → Case engine request none

namespace Case

variable {reason : Option EngineError}

theorem late_iff (ends : engine.Case request reason) :
    reason = some (.fenceTimeout engine.options.fenceTimeout.toNat) ↔
      engine.InputLate request := by
  cases ends <;> simp [*]

theorem unavailable_iff (ends : engine.Case request reason) :
    reason = some .protectedUnavailable ↔
      ¬engine.InputLate request ∧ engine.Unprotectable request := by
  cases ends <;> simp [*]

theorem rejected_iff (ends : engine.Case request reason) :
    (∃ failure, reason = some (.bind (.importFailed request.target.id failure))) ↔
      ¬engine.InputLate request ∧ ¬engine.Unprotectable request ∧
        ¬engine.TargetCached request ∧ engine.TargetUnfit request.target := by
  cases ends with
  | fine _ _ fit =>
      exact ⟨nofun, fun ⟨_, _, missing, unfit⟩ => absurd unfit (fit.resolve_left missing)⟩
  | _ => simp [*]

theorem fine_iff (ends : engine.Case request reason) :
    reason = none ↔ ¬engine.InputLate request ∧ ¬engine.Unprotectable request ∧
      (engine.TargetCached request ∨ ¬engine.TargetUnfit request.target) := by
  cases ends <;> simp [*]

end Case

theorem failure?_case (alive : engine.lost = false)
    (active : engine.contexts.has engine.contexts.active = true)
    (usable : (engine.draw request).2.device.lost = false) :
    engine.Case request
      (engine.outline.failure? (engine.awaitAny request.inputFence).1 request) := by
  unfold Outline.failure?
  cases arrives : (engine.awaitAny request.inputFence).1 with
  | false => exact .late (inputLate_iff.mpr arrives)
  | true =>
      have timely : ¬engine.InputLate request := by simp [inputLate_iff, arrives]
      rw [if_pos rfl]
      cases available : engine.contexts.has request.mode with
      | false =>
          have missing : ¬engine.outline.contexts.has request.mode = true := by
            rw [show engine.outline.contexts = engine.contexts from rfl, available]
            exact nofun
          rw [if_neg missing]
          exact .unavailable timely (unprotectable_iff.mpr available)
      | true =>
          have protectable : ¬engine.Unprotectable request := by
            simp [unprotectable_iff, available]
          have cached := targetCached_iff alive active available
            (draw_switches alive arrives usable)
          rw [if_pos (show engine.outline.contexts.has request.mode = true from available)]
          unfold Outline.targetFailure?
          by_cases found : (engine.outline.switchTo request.mode).finds request = true
          · rw [if_pos found]
            exact .fine timely protectable (.inl (cached.mpr found))
          · have setting : (engine.outline.switchTo request.mode).setting =
                engine.outline.setting := engine.outline.switchTo_setting request.mode
            rw [if_neg found, setting]
            rcases engine.refusal?_cases request with ⟨unfit, reason, refused⟩ | ⟨fit, accepted⟩
            · rw [refused]
              exact .rejected reason timely protectable (mt cached.mp found) unfit
            · rw [accepted]
              exact .fine timely protectable (.inr fit)

theorem draw_fails {recorded : List ImageHandle}
    (rested : Moment.Rested ⟨engine, [], recorded⟩) (alive : engine.lost = false)
    (request : FrameRequest) (usable : (engine.draw request).2.device.lost = false) :
    FailsBy (engine.outline.failure? (engine.awaitAny request.inputFence).1 request)
      (engine.draw request).1 := by
  have alone : Waits.Agree (engine.waits request) [] := by
    rw [Waits.Agree, List.zip_nil_right]
    exact nofun
  have foretold := alone.foretold.1
  have first : (engine.waits request)[0]? =
      some (some (engine.awaitAny request.inputFence).1) := by
    unfold waits
    rw [if_neg (by simp [alive])]
    cases engine.awaitAny request.inputFence with
    | mk signaled waited => cases signaled <;> rfl
  have drawn := draw_outline alive foretold usable (draw_ends rested request).2
  have fails := @Outline.draw_fails engine.outline request
    (Waits.learned (engine.waits request) []) rested.owned.active
  rw [drawn, foretold 0 _ first] at fails
  exact fails.of_map

/-- Exactly when a frame fails, and how. -/
structure FailsExactly (engine : Engine) (request : FrameRequest) : Prop where
  late : (engine.draw request).1 = .error (.fenceTimeout engine.options.fenceTimeout.toNat) ↔
    engine.InputLate request
  unavailable : (engine.draw request).1 = .error .protectedUnavailable ↔
    ¬engine.InputLate request ∧ engine.Unprotectable request
  rejected : (∃ reason, (engine.draw request).1 =
      .error (.bind (.importFailed request.target.id reason))) ↔
    ¬engine.InputLate request ∧ ¬engine.Unprotectable request ∧ ¬engine.TargetCached request ∧
      engine.TargetUnfit request.target
  drawn : (∃ output, (engine.draw request).1 = .ok output) ↔
    ¬engine.InputLate request ∧ ¬engine.Unprotectable request ∧
      (engine.TargetCached request ∨ ¬engine.TargetUnfit request.target)
  alive : (engine.draw request).2.lost = false
  /-- Layers decide in which mode the frame is composed, and nothing else about its failure. -/
  layers : ∀ layers, { request with layers }.mode = request.mode →
    (engine.draw { request with layers }).2.device.lost = false → ∀ error,
    (engine.draw { request with layers }).1 = .error error ↔ (engine.draw request).1 = .error error

theorem draw_failsExactly {recorded : List ImageHandle}
    (rested : Moment.Rested ⟨engine, [], recorded⟩) (alive : engine.lost = false)
    (request : FrameRequest) (usable : (engine.draw request).2.device.lost = false) :
    engine.FailsExactly request := by
  have fails := draw_fails rested alive request usable
  have ends := failure?_case alive rested.owned.active usable
  have aliveStill : (engine.draw request).2.lost = false := by
    obtain ⟨_, _, after⟩ := (draw_ends rested request).1.rested rested
    by_contra lost
    have noticed := after.paced.lost (by simpa using lost)
    cases usable.symm.trans noticed
  refine ⟨?_, ?_, ?_, ?_, aliveStill, fun layers mode otherUsable error => ?_⟩
  · rw [fails.error_iff]
    exact ends.late_iff
  · rw [fails.error_iff]
    exact ends.unavailable_iff
  · simp only [fails.error_iff]
    exact ends.rejected_iff
  · rw [fails.ok_iff]
    exact ends.fine_iff
  · have other := draw_fails rested alive { request with layers } otherUsable
    have same : engine.outline.failure? (engine.awaitAny request.inputFence).1
        { request with layers } =
          engine.outline.failure? (engine.awaitAny request.inputFence).1 request := by
      unfold Outline.failure? Outline.targetFailure?
      rw [mode]
      rfl
    rw [fails.error_iff, other.error_iff]
    exact iff_of_eq (congrArg (· = some error) same)

end Engine

/-! ## Sessions -/

namespace Session

/-- In every reachable state, as long as the device is not lost during the call: a frame fails for
its input, for want of a context or for its target, and never for what comes of its layers. -/
theorem frames_fail_exactly (options : DeviceOptions) (capabilities : Capabilities)
    (order : ReleaseOrder) (actions : List Action) :
    ∀ engine ∈ ((new (.new options) capabilities order).run actions).2.engine?, ∀ request,
      engine.lost = false → (engine.draw request).2.device.lost = false →
      engine.FailsExactly request := by
  intro engine occupied request alive usable
  have sound := run_sound (new_sound options capabilities order) actions
  obtain ⟨_, rested⟩ := sound.rested occupied
  exact Engine.draw_failsExactly rested alive request usable

/-- Neither the layer nor the target can be imported, but the target was kept. -/
private def unfitFrame : FrameRequest :=
  ⟨.ofSize 64 64, [.ofBuffer (.plain ⟨1⟩ 8 8) (.ofSize 8 8)], .plain ⟨2⟩ 64 64, true, none⟩

private def importsRejected : List Action :=
  [.start { EngineOptions.standard with outputCacheSize := 1 }, .draw unfitFrame,
    .rejectImports ⟨1⟩, .unbind ⟨1⟩, .rejectImports ⟨2⟩]

theorem frames_fail_exactly_not_when_cached :
    ∃ engine ∈ ((new (.new .standard) DeviceOptions.standard.capabilities
        .byArrival).run importsRejected).2.engine?,
      engine.lost = false ∧ (engine.draw unfitFrame).2.device.lost = false ∧
        (engine.draw unfitFrame).1.isOk = true ∧ engine.FailsExactly unfitFrame := by
  have kept : ((new (.new .standard) DeviceOptions.standard.capabilities
      .byArrival).run importsRejected).2.engine?.any (fun engine =>
        !engine.lost && !(engine.draw unfitFrame).2.device.lost &&
          (engine.draw unfitFrame).1.isOk) = true := by decide
  obtain ⟨engine, occupied, facts⟩ := (Option.any_eq_true _ _).mp kept
  simp only [Bool.and_eq_true, Bool.not_eq_true'] at facts
  obtain ⟨⟨alive, usable⟩, finished⟩ := facts
  exact ⟨engine, occupied, alive, usable, finished,
    frames_fail_exactly .standard DeviceOptions.standard.capabilities .byArrival importsRejected
      engine occupied unfitFrame alive usable⟩

end Session

end Compositor
