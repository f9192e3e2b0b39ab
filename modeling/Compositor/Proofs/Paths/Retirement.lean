import Compositor.Proofs.Caches
import Compositor.Proofs.Ownership
import Compositor.Proofs.Pace

/-!
# Retiring as a path of moves

Images that left a cache are in the hand of the engine. Retiring them takes them one by one from
there: to the device if their last use has completed, and to the parked images otherwise. The path
never depends on which of the two it is.
-/

set_option autoImplicit false

namespace Compositor

variable {engine : Engine} {hand : List Image} {recorded : List ImageHandle}

namespace Engine

theorem retire_nil (engine : Engine) : engine.retire [] = engine := rfl

theorem retire_cons (engine : Engine) (image : Image) (images : List Image) :
    engine.retire (image :: images) = (engine.retire [image]).retire images := rfl

/-- The device is done with the image. -/
theorem retire_done {image : Image}
    (complete : engine.progress.isComplete image.lastUsed = true) :
    engine.retire [image] =
      { engine with device := engine.contexts.destroy engine.device image } := by
  simp [retire, RetireQueue.retireAll, RetireQueue.retire, complete]

/-- The device may still use the image. -/
theorem retire_used {image : Image}
    (incomplete : ¬engine.progress.isComplete image.lastUsed = true) :
    engine.retire [image] =
      { engine with retired := ⟨engine.retired.parked ++ [image]⟩ } := by
  simp [retire, RetireQueue.retireAll, RetireQueue.retire, incomplete]

/-- What has completed is not parked. -/
theorem retire_parked {images : List Image}
    (complete : ∀ image ∈ images, engine.progress.isComplete image.lastUsed = true) :
    (engine.retire images).retired.parked = engine.retired.parked := by
  induction images generalizing engine with
  | nil => rfl
  | cons image images ih =>
      have first : (engine.retire [image]).retired.parked = engine.retired.parked := by
        rw [retire_done (complete image List.mem_cons_self)]
      rw [retire_cons, ← first]
      exact ih fun other member => complete other (List.mem_cons_of_mem _ member)

/-- The images that wait although the device is done with them. -/
def done (engine : Engine) : List Image :=
  engine.retired.parked.filter fun image => engine.progress.isComplete image.lastUsed

def stillWaiting (engine : Engine) : List Image :=
  engine.retired.parked.filter fun image => !engine.progress.isComplete image.lastUsed

theorem collect_eq (engine : Engine) :
    engine.collect =
      { engine with
        retired := ⟨engine.stillWaiting⟩
        device := engine.contexts.destroyAll engine.device engine.done } := by
  simp [collect, RetireQueue.collect, List.partition_eq_filter_filter, done, stillWaiting,
    Function.comp_def]

theorem collect_parked :
    engine.collect.retired.parked =
      engine.retired.parked.filter fun image => !engine.progress.isComplete image.lastUsed := by
  rw [collect_eq]
  rfl

end Engine

/-! ## Paths -/

namespace Moves

theorem destroy {image : Image} (owner : engine.contexts.has image.mode = true)
    (safe : engine.progress.isComplete image.lastUsed = true ∨ engine.device.lost = true) :
    Moves ⟨engine, image :: hand, recorded⟩
      ⟨{ engine with device := engine.contexts.destroy engine.device image }, hand, recorded⟩ := by
  have arrival := Device.arrive_steps engine.device .destroyImage
  have later : engine.progress.isComplete image.lastUsed = true ∨
      (engine.device.arrive .destroyImage).lost = true := safe.imp_right arrival.extends.lost
  rw [Contexts.destroy, if_pos owner]
  exact (ofDevice arrival).tail (.destroy later)

theorem destroyAll {images : List Image}
    (owner : ∀ image ∈ images, engine.contexts.has image.mode = true)
    (safe : ∀ image ∈ images,
      engine.progress.isComplete image.lastUsed = true ∨ engine.device.lost = true) :
    Moves ⟨engine, images ++ hand, recorded⟩
      ⟨{ engine with device := engine.contexts.destroyAll engine.device images },
        hand, recorded⟩ := by
  induction images generalizing engine with
  | nil => exact .refl
  | cons image images ih =>
      have first : Moves ⟨engine, image :: (images ++ hand), recorded⟩ _ :=
        destroy (owner image List.mem_cons_self) (safe image List.mem_cons_self)
      refine first.trans (ih (fun other member => owner other (List.mem_cons_of_mem _ member)) ?_)
      intro other member
      exact (safe other (List.mem_cons_of_mem _ member)).imp_right first.continues.lost

theorem park {image : Image} (owned : Moment.Owned ⟨engine, image :: hand, recorded⟩) :
    Moves ⟨engine, image :: hand, recorded⟩
      ⟨{ engine with retired := ⟨engine.retired.parked ++ [image]⟩ }, hand, recorded⟩ := by
  refine .single (.shift owned.shelved ?_)
  simp [Engine.owned]

theorem retireOne {image : Image} (owned : Moment.Owned ⟨engine, image :: hand, recorded⟩) :
    Moves ⟨engine, image :: hand, recorded⟩ ⟨engine.retire [image], hand, recorded⟩ := by
  by_cases complete : engine.progress.isComplete image.lastUsed = true
  · rw [Engine.retire_done complete]
    exact destroy (owned.hasOwner (by simp [Moment.held])) (.inl complete)
  · rw [Engine.retire_used complete]
    exact park owned

theorem retire {images : List Image}
    (owned : Moment.Owned ⟨engine, images ++ hand, recorded⟩) :
    Moves ⟨engine, images ++ hand, recorded⟩ ⟨engine.retire images, hand, recorded⟩ := by
  induction images generalizing engine with
  | nil => exact .refl
  | cons image images ih =>
      have first : Moves ⟨engine, image :: (images ++ hand), recorded⟩ _ := retireOne owned
      rw [Engine.retire_cons]
      exact first.trans (ih (first.owned owned))

/-- All images in the hand of the engine are retired. -/
theorem retireHand (owned : Moment.Owned ⟨engine, hand, recorded⟩) :
    Moves ⟨engine, hand, recorded⟩ ⟨engine.retire hand, [], recorded⟩ := by
  have all : Moment.Owned ⟨engine, hand ++ [], recorded⟩ := by
    rw [List.append_nil]
    exact owned
  have retired := retire all
  rw [List.append_nil] at retired
  exact retired

/-- What has completed is taken from the images that wait. -/
theorem takeDone (owned : Moment.Owned ⟨engine, hand, recorded⟩) :
    Moves ⟨engine, hand, recorded⟩
      ⟨{ engine with retired := ⟨engine.stillWaiting⟩ }, engine.done ++ hand, recorded⟩ := by
  refine .single (.shift owned.shelved ?_)
  have split : (engine.stillWaiting ++ engine.done).Perm engine.retired.parked :=
    List.perm_append_comm.trans (List.filter_append_perm _ engine.retired.parked)
  rw [List.perm_iff_count]
  intro image
  have same := split.count_eq image
  simp only [Engine.owned, List.count_append] at same ⊢
  omega

theorem collect (owned : Moment.Owned ⟨engine, hand, recorded⟩) :
    Moves ⟨engine, hand, recorded⟩ ⟨engine.collect, hand, recorded⟩ := by
  have taken := takeDone owned
  have destroyed : Moves ⟨{ engine with retired := ⟨engine.stillWaiting⟩ },
        engine.done ++ hand, recorded⟩
      ⟨{ engine with
        retired := ⟨engine.stillWaiting⟩
        device := engine.contexts.destroyAll engine.device engine.done }, hand, recorded⟩ :=
    destroyAll
      (fun image member => (taken.owned owned).hasOwner
        (List.mem_append_right _ (List.mem_append_left _ member)))
      (fun image member => .inl (List.mem_filter.mp member).2)
  rw [Engine.collect_eq]
  exact taken.trans destroyed

theorem drainCaches (engine : Engine) (hand : List Image) (recorded : List ImageHandle) :
    Moves ⟨engine, hand, recorded⟩
      ⟨{ engine with textures := engine.textures.drain.2, outputs := engine.outputs.drain.2 },
        engine.textures.drain.1 ++ engine.outputs.drain.1 ++ hand, recorded⟩ := by
  have noTextures := engine.textures.drain_entries
  refine .single (.shift ?_ ?_)
  · rw [noTextures]
    exact .empty
  · have textures := engine.textures.releaseUnless_perm fun _ => false
    rw [← TextureCache.drain, noTextures, List.append_nil] at textures
    rw [List.perm_iff_count]
    intro image
    have same := textures.count_eq image
    simp only [Engine.owned, noTextures, OutputCache.drain, List.count_append, List.count_nil]
    omega

theorem emptyCaches (owned : Moment.Owned ⟨engine, hand, recorded⟩) :
    Moves ⟨engine, hand, recorded⟩ ⟨engine.emptyCaches, hand, recorded⟩ := by
  have drained := drainCaches engine hand recorded
  exact drained.trans (retire (drained.owned owned))

end Moves

end Compositor
