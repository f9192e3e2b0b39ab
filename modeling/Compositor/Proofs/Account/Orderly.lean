import Compositor.Proofs.Outline.Closed

/-!
# Orderly engines

Whatever other users of its device do, an engine is active in a mode that has a context, keeps at
most one target for a buffer, and holds no handle that was not issued yet. Images behind these
handles may be gone.
-/

set_option autoImplicit false

namespace Compositor

/-! ## Orderly outlines -/

namespace Outline

structure Orderly (outline : Outline) : Prop where
  active : outline.contexts.has outline.contexts.active = true
  targets : (outline.outputs.map (·.buffer)).Nodup
  textureHandles : ∀ image ∈ outline.textures, image.handle.number ≤ outline.canvas.issued
  targetHandles : ∀ image ∈ outline.outputs, image.handle.number ≤ outline.canvas.issued

/-- Asking for an image is refused, or gives the next handle. -/
inductive Makes (outline : Outline) (kind : ImageKind) (buffer : Buffer) :
    Except BindError LiveImage × Canvas → Prop where
  | refused {error : BindError} : Makes outline kind buffer (.error error, outline.canvas)
  | made {image : LiveImage} {canvas : Canvas} :
      image.handle = ⟨outline.canvas.issued + 1⟩ → image.buffer = buffer.id →
      canvas.issued = outline.canvas.issued + 1 →
      Makes outline kind buffer (.ok image, canvas)

variable {outline : Outline}

theorem make_makes (outline : Outline) (kind : ImageKind) (buffer : Buffer) :
    outline.Makes kind buffer (outline.make kind buffer) := by
  unfold make Canvas.make
  split
  · exact .refused
  · exact .made rfl rfl rfl

namespace Orderly

/-- More handles were issued, and entries may have left. -/
theorem fewer (orderly : outline.Orderly) {after : Outline}
    (contexts : after.contexts = outline.contexts)
    (textures : after.textures.Sublist outline.textures)
    (outputs : after.outputs.Sublist outline.outputs)
    (issued : outline.canvas.issued ≤ after.canvas.issued) : after.Orderly where
  active := by
    rw [contexts]
    exact orderly.active
  targets := orderly.targets.sublist (outputs.map _)
  textureHandles := fun image member =>
    Nat.le_trans (orderly.textureHandles image (textures.subset member)) issued
  targetHandles := fun image member =>
    Nat.le_trans (orderly.targetHandles image (outputs.subset member)) issued

theorem ofCanvas (orderly : outline.Orderly) {canvas : Canvas}
    (issued : outline.canvas.issued ≤ canvas.issued) :
    ({ outline with canvas } : Outline).Orderly :=
  orderly.fewer rfl (.refl _) (.refl _) issued

theorem unbind (orderly : outline.Orderly) (buffer : BufferId) : (outline.unbind buffer).Orderly :=
  orderly.fewer rfl List.filter_sublist (.refl _) (Nat.le_refl _)

theorem invalidate (orderly : outline.Orderly) (buffer : BufferId) :
    (outline.invalidate buffer).Orderly :=
  orderly.fewer rfl (.refl _) List.eraseP_sublist (Nat.le_refl _)

theorem evict (orderly : outline.Orderly) (active : List BufferId) :
    (outline.evict active).Orderly :=
  orderly.fewer rfl List.filter_sublist (.refl _) (Nat.le_refl _)

theorem bindTexture (orderly : outline.Orderly) (buffer : Buffer) :
    (outline.bindTexture buffer).2.Orderly := by
  have makes := outline.make_makes .texture buffer
  unfold Outline.bindTexture
  generalize outline.make .texture buffer = answer at makes
  cases makes with
  | refused => exact orderly.unbind buffer.id
  | @made image canvas handle _ issued =>
      have unbound : ({ outline.unbind buffer.id with canvas } : Outline).Orderly :=
        (orderly.unbind buffer.id).ofCanvas (Nat.le_of_lt (Nat.lt_of_succ_le issued.symm.le))
      refine ⟨unbound.active, unbound.targets, fun other member => ?_, unbound.targetHandles⟩
      rcases List.mem_append.mp member with before | new
      · exact unbound.textureHandles other before
      · rw [List.mem_singleton.mp new, handle]
        exact issued.symm.le

theorem switchTo (orderly : outline.Orderly) (mode : Mode) : (outline.switchTo mode).Orderly := by
  unfold Outline.switchTo
  split
  · exact orderly
  · rename_i other
    have available : outline.contexts.has mode = true := by simpa using (not_or.mp other).2
    refine ⟨?_, .nil, nofun, nofun⟩
    rw [Contexts.activate_active available, Contexts.activate_has]
    exact available

/-- A target of a buffer that has none is kept. -/
theorem keep (orderly : outline.Orderly) {image : LiveImage}
    (absent : ∀ other ∈ outline.outputs, other.buffer ≠ image.buffer)
    (issued : image.handle.number ≤ outline.canvas.issued) : (outline.keep image).Orderly := by
  have grown : ((outline.outputs ++ [image]).map (·.buffer)).Nodup := by
    rw [List.map_append, List.nodup_append]
    refine ⟨orderly.targets, by simp, fun buffer member other same => ?_⟩
    obtain ⟨found, inside, rfl⟩ := List.mem_map.mp member
    rw [List.map_singleton, List.mem_singleton] at same
    rw [same]
    exact absent found inside
  refine ⟨orderly.active, grown.sublist ((List.drop_sublist _ _).map _), orderly.textureHandles,
    fun other member => ?_⟩
  rcases List.mem_append.mp ((List.drop_sublist _ _).subset member) with before | new
  · exact orderly.targetHandles other before
  · rw [List.mem_singleton.mp new]
    exact issued

/-- Where there is at most one target for a buffer, none is left of a buffer that was dropped. -/
theorem invalidate_absent (orderly : outline.Orderly) (buffer : BufferId) :
    ∀ other ∈ (outline.invalidate buffer).outputs, other.buffer ≠ buffer := by
  have distinct := orderly.targets
  intro other member same
  unfold Outline.invalidate at member
  dsimp only at member
  generalize outline.outputs = outputs at distinct member
  induction outputs with
  | nil => cases member
  | cons image images ih =>
      rw [List.map_cons, List.nodup_cons] at distinct
      by_cases own : image.buffer = buffer
      · rw [List.eraseP_cons_of_pos (by simpa using own)] at member
        exact distinct.1 (List.mem_map.mpr ⟨other, member, same.trans own.symm⟩)
      · rw [List.eraseP_cons_of_neg (by simpa using own)] at member
        rcases List.mem_cons.mp member with rfl | rest
        · exact own same
        · exact ih distinct.2 rest

theorem targetFor (orderly : outline.Orderly) (target : Buffer) (usesOutputCache : Bool) :
    (outline.targetFor target usesOutputCache).2.Orderly := by
  have makes := outline.make_makes .output target
  unfold Outline.targetFor
  split
  · exact orderly
  · generalize outline.make .output target = answer at makes
    have cleared : (if usesOutputCache then outline.invalidate target.id else outline).Orderly := by
      split
      · exact orderly.invalidate target.id
      · exact orderly
    cases makes with
    | refused =>
        cases usesOutputCache
        · exact orderly
        · exact orderly.invalidate target.id
    | @made image canvas handle buffer issued =>
        have grows : outline.canvas.issued ≤ canvas.issued :=
          Nat.le_of_lt (Nat.lt_of_succ_le issued.symm.le)
        dsimp only
        split
        · rename_i isKept
          have cached : usesOutputCache = true := by
            cases usesOutputCache
            · cases isKept
            · rfl
          subst cached
          have made : ({ outline.invalidate target.id with canvas } : Outline).Orderly :=
            (orderly.invalidate target.id).ofCanvas grows
          refine made.keep ?_ (by rw [handle]; exact issued.symm.le)
          rw [buffer]
          exact orderly.invalidate_absent target.id
        · cases usesOutputCache
          · exact orderly.ofCanvas grows
          · exact (orderly.invalidate target.id).ofCanvas grows

end Orderly

theorem orderly_closed : Closed Orderly where
  created := fun active textures outputs => by
    refine ⟨?_, ?_, ?_, ?_⟩
    · rw [active]
      rfl
    · rw [outputs]
      exact .nil
    · rw [textures]
      exact nofun
    · rw [outputs]
      exact nofun
  issued := fun _ orderly => orderly.fewer rfl (.refl _) (.refl _) (Nat.le_refl _)
  canvas := fun orderly grows => orderly.ofCanvas grows.issued
  unbind := fun buffer orderly => orderly.unbind buffer
  invalidate := fun buffer orderly => orderly.invalidate buffer
  evict := fun active orderly => orderly.evict active
  bindTexture := fun buffer orderly => orderly.bindTexture buffer
  switchTo := fun mode orderly => orderly.switchTo mode
  targetFor := fun target usesOutputCache orderly => orderly.targetFor target usesOutputCache

end Outline

/-! ## Orderly engines -/

namespace Engine

/-- As long as the device is usable, the engine is orderly. -/
def Orderly (engine : Engine) : Prop := engine.device.lost = false → engine.outline.Orderly

variable {engine : Engine}

namespace Orderly

/-- Nothing but the device changed in what the outline tells, and only more handles were issued. -/
theorem ofDevice (orderly : engine.Orderly) {device : Device}
    (issued : engine.device.issued ≤ device.issued)
    (lost : engine.device.lost = true → device.lost = true) :
    ({ engine with device } : Engine).Orderly := by
  intro usable
  have before : engine.device.lost = false := by
    cases gone : engine.device.lost with
    | false => rfl
    | true => exact absurd ((lost gone).symm.trans usable) (by simp)
  have grown : engine.outline.canvas.issued ≤ device.canvas.issued := issued
  exact (orderly before).ofCanvas grown

theorem awaitAny (orderly : engine.Orderly) (fence : Option Fence) :
    (engine.awaitAny fence).2.Orderly := Outlined.awaitAny orderly fence

theorem switchTo (orderly : engine.Orderly) (alive : engine.lost = false) (mode : Mode) :
    (engine.switchTo mode).Orderly := Outlined.switchTo Outline.orderly_closed orderly alive mode

theorem lookAll (orderly : engine.Orderly) {frame : FrameSeq} {layers : List Layer}
    {plan : FramePlan} (looked : FramePlan.lookAll engine frame layers = .ok plan) :
    plan.engine.Orderly := Outlined.lookAll Outline.orderly_closed orderly looked

theorem evicted (orderly : engine.Orderly) (active : List BufferId) :
    (engine.evicted active).Orderly := Outlined.evicted Outline.orderly_closed orderly active

theorem targetFor (orderly : engine.Orderly) (target : Buffer) (frame : FrameSeq)
    (usesOutputCache : Bool) : (engine.targetFor target frame usesOutputCache).2.Orderly :=
  Outlined.targetFor Outline.orderly_closed orderly target frame usesOutputCache

end Orderly

/-- Engines are orderly in any company. -/
theorem orderly_enduring : Enduring Orderly where
  created := fun created => Outlined.create Outline.orderly_closed created
  operated := fun orderly operated => Outlined.operate Outline.orderly_closed orderly operated
  exposed := fun orderly issued lost => orderly.ofDevice issued.symm.le lost

end Engine

end Compositor
