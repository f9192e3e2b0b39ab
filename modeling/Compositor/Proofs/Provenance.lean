import Compositor.Proofs.Outline.Closed
import Compositor.Proofs.Promises

/-!
# Where images come from

Textures were made as textures, and every live image was made once. So whoever provides textures and
gives them up leaves the render targets alone, also on a device where other users destroy images.
-/

set_option autoImplicit false

namespace Compositor

/-! ## Images of a device -/

namespace Device

/-- Every image was made once, and the live ones are among them. -/
structure Registered (device : Device) : Prop where
  distinct : ((History.created device.events).map (·.handle)).Nodup
  issued : ∀ image ∈ History.created device.events, image.handle.number ≤ device.issued
  live : device.live ⊆ History.created device.events

namespace Registered

variable {device : Device}

theorem new (options : DeviceOptions) : (Device.new options).Registered :=
  ⟨.nil, nofun, List.nil_subset _⟩

/-- No image was made, and some may be gone. -/
theorem fewer (registered : device.Registered) {after : Device}
    (issued : after.issued = device.issued)
    (created : History.created after.events = History.created device.events)
    (live : after.live ⊆ device.live) : after.Registered := by
  refine ⟨?_, ?_, ?_⟩
  · rw [created]
    exact registered.distinct
  · rw [created, issued]
    exact registered.issued
  · rw [created]
    exact List.Subset.trans live registered.live

theorem issue (registered : device.Registered) (mode : Mode) (kind : ImageKind)
    (buffer : BufferId) : (device.issue mode kind buffer).2.Registered := by
  have told : History.created (device.issue mode kind buffer).2.events =
      ⟨⟨device.issued + 1⟩, mode, buffer, kind⟩ :: History.created device.events := rfl
  refine ⟨?_, ?_, ?_⟩
  · rw [told, List.map_cons, List.nodup_cons]
    refine ⟨fun known => ?_, registered.distinct⟩
    obtain ⟨image, member, same⟩ := List.mem_map.mp known
    have bounded := registered.issued image member
    rw [same] at bounded
    exact Nat.not_succ_le_self _ bounded
  · rw [told]
    intro image member
    rcases List.mem_cons.mp member with rfl | earlier
    · exact Nat.le_refl _
    · exact Nat.le_succ_of_le (registered.issued image earlier)
  · rw [told]
    intro image member
    rcases List.mem_append.mp member with before | new
    · exact List.mem_cons_of_mem _ (registered.live before)
    · rw [List.mem_singleton.mp new]
      exact List.mem_cons_self

theorem release (registered : device.Registered) (mode : Mode) (handle : ImageHandle) :
    (device.release mode handle).Registered := by
  unfold Device.release
  split
  · exact registered.fewer rfl rfl (List.Subset.refl _)
  · exact registered.fewer rfl rfl ((List.filter_subset_self _))

theorem step {after : Device} (registered : device.Registered) (step : Step device after) :
    after.Registered := by
  have extension := step.extends
  refine registered.fewer extension.issued extension.created ?_
  rw [extension.live]
  exact List.Subset.refl _

theorem effect {after : Device} (registered : device.Registered) (effect : Effect device after) :
    after.Registered := by
  cases effect with
  | step step => exact registered.step step
  | issue => exact registered.issue _ _ _
  | @destroy mode handle =>
      have handed : (device.log (.handed mode .destroy [handle])).Registered :=
        registered.fewer rfl rfl (List.Subset.refl _)
      exact handed.release mode handle
  | @note event note =>
      refine registered.fewer rfl ?_ (List.Subset.refl _)
      cases event <;> first | rfl | cases note
  | flush flushes =>
      obtain ⟨added, events, inert⟩ := flushes.events
      refine registered.fewer flushes.issued ?_ ?_
      · rw [events]
        exact History.inert_append_created fun event member => (inert event member).1
      · rw [flushes.live]
        exact List.Subset.refl _

theorem effects {after : Device} (registered : device.Registered)
    (effects : Effects device after) : after.Registered := by
  induction effects with
  | refl => exact registered
  | tail _ effect ih => exact ih.effect effect

end Registered

theorem registered_lasting : Lasting Registered where
  meddled := fun registered meddled => by
    cases meddled with
    | step step => exact registered.step step
    | release mode handle => exact registered.release mode handle
  operated := fun registered operated =>
    registered.effects (Engine.operate_deed operated).effects
  torn := fun registered => registered.effects (Engine.teardown_effects _)

/-- The render targets that there are. -/
def targets (device : Device) : List LiveImage := device.live.filter (·.kind = .output)

/-- Handles are never used twice, so giving up a texture leaves the targets alone. -/
theorem Registered.release_targets {device : Device} (registered : device.Registered)
    {image : LiveImage} (made : image ∈ History.created device.events)
    (kind : image.kind = .texture) (mode : Mode) :
    (device.release mode image.handle).targets = device.targets := by
  unfold Device.release
  split
  · rfl
  · unfold targets
    dsimp only [log]
    rw [List.filter_filter]
    refine List.filter_congr fun other live => ?_
    by_cases same : other.handle = image.handle
    · have equal : other = image :=
        List.inj_on_of_nodup_map registered.distinct (registered.live live) made same
      rw [equal, kind]
      rfl
    · simp [same]

end Device

/-! ## Images of an engine -/

namespace Outline

/-- Textures were made as textures, and the targets that are kept belong to the active mode. -/
structure Tidy (outline : Outline) : Prop where
  active : outline.contexts.has outline.contexts.active = true
  textures : ∀ image ∈ outline.textures, image ∈ outline.canvas.created ∧ image.kind = .texture
  targets : ∀ image ∈ outline.outputs, image.mode = outline.contexts.active

namespace Tidy

variable {outline : Outline}

/-- Nothing came into the caches. -/
theorem fewer (tidy : outline.Tidy) {after : Outline} (contexts : after.contexts = outline.contexts)
    (textures : after.textures ⊆ outline.textures) (outputs : after.outputs ⊆ outline.outputs)
    (grows : outline.canvas.created ⊆ after.canvas.created) : after.Tidy := by
  refine ⟨?_, fun image member => ?_, fun image member => ?_⟩
  · rw [contexts]
    exact tidy.active
  · obtain ⟨made, kind⟩ := tidy.textures image (textures member)
    exact ⟨grows made, kind⟩
  · rw [contexts]
    exact tidy.targets image (outputs member)

theorem unbind (tidy : outline.Tidy) (buffer : BufferId) : (outline.unbind buffer).Tidy :=
  tidy.fewer rfl ((List.filter_subset_self _)) (List.Subset.refl _) (List.Subset.refl _)

theorem invalidate (tidy : outline.Tidy) (buffer : BufferId) : (outline.invalidate buffer).Tidy :=
  tidy.fewer rfl (List.Subset.refl _) List.eraseP_subset (List.Subset.refl _)

/-- What is made is told by the canvas, and belongs to the active mode. -/
theorem make_made (tidy : outline.Tidy) {kind : ImageKind} {buffer : Buffer} {image : LiveImage}
    {canvas : Canvas} (made : outline.make kind buffer = (.ok image, canvas)) :
    image.kind = kind ∧ image.mode = outline.contexts.active ∧
      canvas.created = image :: outline.canvas.created := by
  unfold make Canvas.make at made
  split at made
  · cases made
  · cases made
    exact ⟨rfl, Contexts.current_eq tidy.active, rfl⟩

theorem make_refused {kind : ImageKind} {buffer : Buffer} {error : BindError} {canvas : Canvas}
    (refused : outline.make kind buffer = (.error error, canvas)) : canvas = outline.canvas := by
  unfold make Canvas.make at refused
  split at refused <;> cases refused
  rfl

theorem bindTexture (tidy : outline.Tidy) (buffer : Buffer) :
    (outline.bindTexture buffer).2.Tidy := by
  unfold Outline.bindTexture
  cases outcome : outline.make .texture buffer with
  | mk result canvas =>
      cases result with
      | error error =>
          rw [make_refused outcome]
          exact tidy.unbind buffer.id
      | ok image =>
          obtain ⟨kind, -, created⟩ := tidy.make_made outcome
          have grown : ({ outline.unbind buffer.id with canvas } : Outline).Tidy := by
            refine (tidy.unbind buffer.id).fewer rfl (List.Subset.refl _) (List.Subset.refl _) ?_
            rw [created]
            exact List.subset_cons_self _ _
          refine ⟨grown.active, fun other member => ?_, grown.targets⟩
          rcases List.mem_append.mp member with before | new
          · exact grown.textures other before
          · rw [List.mem_singleton.mp new, created]
            exact ⟨List.mem_cons_self, kind⟩

theorem switchTo (tidy : outline.Tidy) (mode : Mode) : (outline.switchTo mode).Tidy := by
  unfold Outline.switchTo
  split
  · exact tidy
  · rename_i other
    have available : outline.contexts.has mode = true := by simpa using (not_or.mp other).2
    refine ⟨?_, nofun, nofun⟩
    rw [Contexts.activate_active available, Contexts.activate_has]
    exact available

theorem keep (tidy : outline.Tidy) {image : LiveImage}
    (mode : image.mode = outline.contexts.active) : (outline.keep image).Tidy := by
  refine ⟨tidy.active, tidy.textures, fun other member => ?_⟩
  rcases List.mem_append.mp (List.mem_of_mem_drop member) with before | new
  · exact tidy.targets other before
  · rw [List.mem_singleton.mp new]
    exact mode

theorem targetFor (tidy : outline.Tidy) (target : Buffer) (usesOutputCache : Bool) :
    (outline.targetFor target usesOutputCache).2.Tidy := by
  let rest := if usesOutputCache then outline.invalidate target.id else outline
  have cleared : rest.Tidy ∧ rest.contexts = outline.contexts ∧ rest.canvas = outline.canvas := by
    cases usesOutputCache with
    | true => exact ⟨tidy.invalidate target.id, rfl, rfl⟩
    | false => exact ⟨tidy, rfl, rfl⟩
  obtain ⟨restTidy, contexts, canvasSame⟩ := cleared
  have grown : ∀ {canvas : Canvas}, outline.canvas.created ⊆ canvas.created →
      ({ rest with canvas } : Outline).Tidy := by
    intro canvas grows
    refine restTidy.fewer rfl (List.Subset.refl _) (List.Subset.refl _) ?_
    rw [canvasSame]
    exact grows
  unfold Outline.targetFor
  split
  · exact tidy
  · cases outcome : outline.make .output target with
    | mk result canvas =>
        cases result with
        | error error =>
            rw [make_refused outcome]
            exact grown (List.Subset.refl _)
        | ok image =>
            obtain ⟨-, mode, created⟩ := tidy.make_made outcome
            have made : ({ rest with canvas } : Outline).Tidy := by
              refine grown ?_
              rw [created]
              exact List.subset_cons_self _ _
            dsimp only
            split
            · exact made.keep (mode.trans (congrArg Contexts.active contexts).symm)
            · exact made

end Tidy

theorem tidy_closed : Closed Tidy where
  created := fun active textures outputs => by
    refine ⟨?_, ?_, ?_⟩
    · rw [active]
      rfl
    · rw [textures]
      exact nofun
    · rw [outputs]
      exact nofun
  issued := fun _ tidy =>
    tidy.fewer rfl (List.Subset.refl _) (List.Subset.refl _) (List.Subset.refl _)
  canvas := fun tidy grows =>
    tidy.fewer rfl (List.Subset.refl _) (List.Subset.refl _) grows.created
  unbind := fun buffer tidy => tidy.unbind buffer
  invalidate := fun buffer tidy => tidy.invalidate buffer
  evict := fun _ tidy =>
    tidy.fewer rfl ((List.filter_subset_self _)) (List.Subset.refl _) (List.Subset.refl _)
  bindTexture := fun buffer tidy => tidy.bindTexture buffer
  switchTo := fun mode tidy => tidy.switchTo mode
  targetFor := fun target usesOutputCache tidy => tidy.targetFor target usesOutputCache

end Outline

/-! ## What leaves the targets alone -/

namespace Device

variable {device : Device} {mode : Mode} {buffer : Buffer} {limit : UInt32}

theorem Steps.targets {before after : Device} (steps : Steps before after) :
    after.targets = before.targets := by
  unfold Device.targets
  rw [steps.extends.live]

/-- Textures are no targets. -/
theorem bindImage_targets (device : Device) (mode : Mode) (buffer : Buffer) (limit : UInt32) :
    (device.bindImage mode buffer limit).2.targets = device.targets := by
  have asked := (checkLost_steps device).targets
  unfold bindImage
  cases outcome : device.checkLost with
  | mk lost known =>
      rw [outcome] at asked
      cases lost with
      | true => exact asked
      | false =>
          dsimp only
          cases ImportRequest.check buffer mode limit with
          | error error => exact asked
          | ok request =>
              have arrived := (arrive_steps known .importBuffer).targets.trans asked
              have answers := answer_answered (known.arrive .importBuffer) mode .texture request
              unfold importBuffer
              dsimp only
              generalize (known.arrive .importBuffer).answer mode .texture request =
                answered at answers ⊢
              refine Eq.trans ?_ arrived
              cases answers with
              | lost | rejected => rfl
              | made => simp [targets, issue, log]

/-- A target that is rejected was not made. -/
theorem createTarget_targets {after : Device} {error : EngineError}
    (refused : device.createTarget mode buffer limit = (.error error, after)) :
    after.targets = device.targets := by
  have asked := (checkLost_steps device).targets
  unfold createTarget at refused
  cases outcome : device.checkLost with
  | mk lost known =>
      rw [outcome] at asked refused
      cases lost with
      | true =>
          cases refused
          exact asked
      | false =>
          dsimp only at refused
          cases checked : ImportRequest.check buffer mode limit with
          | error cause =>
              rw [checked] at refused
              cases refused
              exact asked
          | ok request =>
              have arrived := (arrive_steps known .createOutputImage).targets.trans asked
              let target := { request with protectedContent := mode.isSecure }
              have answers :=
                answer_answered (known.arrive .createOutputImage) mode .output target
              rw [checked] at refused
              unfold createOutputImage at refused
              dsimp only at refused
              generalize (known.arrive .createOutputImage).answer mode .output target =
                answered at answers refused
              cases answers with
              | lost | rejected =>
                  cases refused
                  exact arrived
              | made => cases refused

/-- Destroying a texture leaves the targets alone. -/
theorem Registered.destroyImage_targets (registered : device.Registered) {image : LiveImage}
    (made : image ∈ History.created device.events) (kind : image.kind = .texture) (mode : Mode) :
    (device.destroyImage mode image.handle).targets = device.targets := by
  have steps := arrive_steps device .destroyImage
  obtain ⟨added, events⟩ := (Effects.ofSteps steps).events
  let handed := (device.arrive .destroyImage).log (.handed mode .destroy [image.handle])
  have registry : handed.Registered :=
    (registered.effects (.ofSteps steps)).fewer rfl rfl (List.Subset.refl _)
  have known : image ∈ History.created handed.events := by
    have same : History.created handed.events =
        History.created (device.arrive .destroyImage).events := rfl
    rw [same, events]
    exact History.created_subset_append added _ made
  exact (registry.release_targets known kind mode).trans steps.targets

end Device

namespace Engine

/-- Neither the cache of targets nor the targets themselves changed. -/
structure Spared (before after : Engine) : Prop where
  outputs : after.outputs = before.outputs
  targets : after.device.targets = before.device.targets

namespace Spared

variable {engine : Engine}

theorem refl (engine : Engine) : Spared engine engine := ⟨rfl, rfl⟩

theorem trans {first second third : Engine} (left : Spared first second)
    (right : Spared second third) : Spared first third :=
  ⟨right.outputs.trans left.outputs, right.targets.trans left.targets⟩

theorem awaitAny (engine : Engine) (fence : Option Fence) :
    Spared engine (engine.awaitAny fence).2 := by
  cases fence with
  | none => exact .refl engine
  | some fence => exact ⟨rfl, (Device.await_steps engine.device fence).targets⟩

/-- Only a texture that is missing is imported, so that no other one leaves the cache for it. -/
theorem textureFor (engine : Engine) (buffer : Buffer) (frame : FrameSeq) :
    Spared engine (engine.textureFor buffer frame).2 := by
  have targets := engine.device.bindImage_targets engine.contexts.current buffer engine.limit
  unfold Engine.textureFor
  cases found : engine.textures.markUsed buffer.id frame with
  | mk handle textures =>
      cases handle with
      | some handle => exact ⟨rfl, rfl⟩
      | none =>
          have missing : (engine.textures.unbind buffer.id).1 = none :=
            Option.map_eq_none_iff.mp (congrArg Prod.fst found)
          have bound : Spared engine (engine.bindTexture buffer).2 := by
            cases outcome : engine.device.bindImage engine.contexts.current buffer
                engine.limit with
            | mk result device =>
                rw [outcome] at targets
                cases result with
                | error cause =>
                    rw [bindTexture_refused outcome, missing]
                    exact ⟨rfl, targets⟩
                | ok image =>
                    rw [bindTexture_made outcome, missing]
                    exact ⟨rfl, targets⟩
          dsimp only
          cases outcome : engine.bindTexture buffer with
          | mk result after =>
              rw [outcome] at bound
              cases result with
              | error cause => exact bound
              | ok handle => exact ⟨bound.outputs, bound.targets⟩

/-- Retiring textures leaves the targets alone. -/
theorem retire {images : List Image} (registered : engine.device.Registered)
    (textures : ∀ image ∈ images,
      image.asLive ∈ History.created engine.device.events ∧ image.kind = .texture) :
    Spared engine (engine.retire images) := by
  induction images generalizing engine with
  | nil => exact .refl engine
  | cons image images ih =>
      obtain ⟨made, kind⟩ := textures image List.mem_cons_self
      have first : Spared engine (engine.retire [image]) := by
        by_cases complete : engine.progress.isComplete image.lastUsed = true
        · rw [retire_done complete]
          refine ⟨rfl, ?_⟩
          dsimp only
          unfold Contexts.destroy
          split
          · exact registered.destroyImage_targets made kind image.mode
          · rfl
        · rw [retire_used complete]
          exact ⟨rfl, rfl⟩
      have effects := (engine.retire_calls [image]).effects
      obtain ⟨added, events⟩ := effects.events
      rw [retire_cons]
      refine first.trans (ih (registered.effects effects) fun other member => ?_)
      obtain ⟨known, same⟩ := textures other (List.mem_cons_of_mem _ member)
      refine ⟨?_, same⟩
      rw [events]
      exact History.created_subset_append added _ known

/-- What a frame evicts are textures. -/
theorem evicted (registered : engine.device.Registered) (tidy : engine.outline.Tidy)
    (active : List BufferId) : Spared engine (engine.evicted active) := by
  let left : Engine := { engine with textures := (engine.textures.evictStale active).2 }
  have retired : Spared left (left.retire (engine.textures.evictStale active).1) := by
    refine retire registered fun image member => ?_
    have released := (engine.textures.order.perm _ _).subset member
    have cached := (List.mem_filter.mp released).1
    exact tidy.textures image.asLive (List.mem_map.mpr ⟨image, cached, rfl⟩)
  exact ⟨retired.outputs, retired.targets⟩

end Spared

end Engine

namespace FramePlan

theorem look_spares (frame : FrameSeq) (plan : FramePlan) (index : Nat) (layer : Layer) :
    plan.engine.Spared (reached (plan.look frame index layer)) := by
  unfold look
  cases layer.source with
  | solid color => exact .refl plan.engine
  | sampled buffer fence =>
      have textured := Engine.Spared.textureFor plan.engine buffer frame
      dsimp only
      cases outcome : plan.engine.textureFor buffer frame with
      | mk result after =>
          rw [outcome] at textured
          cases result with
          | error cause =>
              dsimp only
              split <;> exact textured
          | ok handle =>
              have awaited := textured.trans (.awaitAny after fence)
              dsimp only
              split <;> exact awaited

theorem looks_spare (frame : FrameSeq) (layers : List (Layer × Nat)) (plan : FramePlan) :
    plan.engine.Spared (reached
      (layers.foldlM (fun plan (layer, index) => plan.look frame index layer) plan)) := by
  induction layers generalizing plan with
  | nil => exact .refl plan.engine
  | cons entry layers ih =>
      obtain ⟨layer, index⟩ := entry
      have first := look_spares frame plan index layer
      rw [List.foldlM_cons]
      dsimp only
      cases outcome : plan.look frame index layer with
      | error after =>
          rw [outcome] at first
          exact first
      | ok next =>
          rw [outcome] at first
          exact first.trans (ih next)

end FramePlan

end Compositor
