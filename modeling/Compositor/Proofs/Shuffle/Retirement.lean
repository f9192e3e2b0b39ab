import Compositor.Proofs.Shuffle.Device

/-!
# The order of retiring

What leaves a cache is destroyed or parked in the order in which it leaves. An engine only holds
images that its device made, and no handle was issued twice. So engines that retire the same images
in different orders stay alike: only the order of what was destroyed and of what is parked differs.
-/

set_option autoImplicit false

namespace Compositor

/-! ## Known images -/

namespace Device

/-- The device made all these images. -/
def Knows (device : Device) (images : List Image) : Prop :=
  ∀ image ∈ images, image.asLive ∈ History.created device.events

namespace Knows

variable {device after : Device} {images others : List Image}

theorem nil (device : Device) : device.Knows [] := nofun

theorem subset (knows : device.Knows images) (part : others ⊆ images) : device.Knows others :=
  fun image member => knows image (part member)

theorem append (left : device.Knows images) (right : device.Knows others) :
    device.Knows (images ++ others) :=
  fun image member => (List.mem_append.mp member).elim (left image) (right image)

theorem later (knows : device.Knows images)
    (events : ∃ added : History, after.events = added ++ device.events) : after.Knows images := by
  obtain ⟨added, events⟩ := events
  intro image member
  rw [events]
  exact History.created_subset_append added _ (knows image member)

theorem effects (knows : device.Knows images) (effects : Effects device after) :
    after.Knows images := knows.later effects.events

/-- Marking images as used does not make them other images. -/
theorem marked (knows : device.Knows images)
    (same : others.map Image.asLive = images.map Image.asLive) : device.Knows others := by
  intro image member
  have here : image.asLive ∈ others.map Image.asLive := List.mem_map.mpr ⟨image, member, rfl⟩
  rw [same] at here
  obtain ⟨original, inside, equal⟩ := List.mem_map.mp here
  rw [← equal]
  exact knows original inside

end Knows

/-- A handle tells the context that made its image. -/
theorem Registered.mode_eq {device : Device} (registered : device.Registered) {images : List Image}
    (knows : device.Knows images) {first second : Image} (left : first ∈ images)
    (right : second ∈ images) (same : first.handle = second.handle) : first.mode = second.mode :=
  congrArg LiveImage.mode
    (List.inj_on_of_nodup_map registered.distinct (knows first left) (knows second right) same)

section Making

variable {device after : Device} {mode : Mode} {kind : ImageKind} {buffer : Buffer}
  {limit : UInt32} {image : Image}

theorem answer_created {request : ImportRequest} {handle : ImageHandle}
    (made : device.answer mode kind request = (.ok handle, after)) :
    ⟨handle, mode, request.buffer.id, kind⟩ ∈ History.created after.events := by
  unfold answer at made
  dsimp only at made
  split at made
  · cases made
  · split at made
    · cases made
    · cases made
      exact List.mem_cons_self

theorem bindImage_created (made : device.bindImage mode buffer limit = (.ok image, after)) :
    image.asLive ∈ History.created after.events := by
  unfold bindImage at made
  split at made
  · cases made
  · split at made
    · cases made
    · rename_i known _ _ request checked
      unfold importBuffer at made
      cases answered : (known.arrive .importBuffer).answer mode .texture request with
      | mk result last =>
          rw [answered] at made
          cases result with
          | error error => cases made
          | ok handle =>
              have told := answer_created answered
              rw [ImportRequest.check_buffer checked] at told
              cases made
              exact told

theorem createTarget_created
    (made : device.createTarget mode buffer limit = (.ok image, after)) :
    image.asLive ∈ History.created after.events := by
  unfold createTarget at made
  split at made
  · cases made
  · split at made
    · cases made
    · rename_i known _ _ request checked
      unfold createOutputImage at made
      dsimp only at made
      cases answered : (known.arrive .createOutputImage).answer mode .output
          { request with protectedContent := mode.isSecure } with
      | mk result last =>
          rw [answered] at made
          cases result with
          | error error => cases made
          | ok handle =>
              have told := answer_created answered
              rw [ImportRequest.check_buffer checked] at told
              cases made
              exact told

end Making

end Device

/-! ## Destroying many images -/

namespace Contexts

variable {left right : Device} (contexts : Contexts)

theorem destroy_alike (alike : left.Alike right) (image : Image) :
    (contexts.destroy left image).Alike (contexts.destroy right image) := by
  unfold destroy
  split
  · exact alike.destroyImage image.mode image.handle
  · exact alike

theorem destroyAll_alike (alike : left.Alike right) (images : List Image) :
    (contexts.destroyAll left images).Alike (contexts.destroyAll right images) := by
  induction images generalizing left right with
  | nil => exact alike
  | cons image images ih => exact ih (contexts.destroy_alike alike image)

theorem destroy_comm (device : Device) {first second : Image}
    (same : first.handle = second.handle → first.mode = second.mode) :
    (contexts.destroy (contexts.destroy device first) second).Alike
      (contexts.destroy (contexts.destroy device second) first) := by
  unfold destroy
  by_cases one : contexts.has first.mode = true
  · by_cases two : contexts.has second.mode = true
    · simp only [one, two, if_true]
      exact device.destroyImage_comm same
    · simp only [one, two, if_true]
      exact .refl _
  · simp only [one]
    exact .refl _

/-- Images are destroyed in any order, as long as a handle tells the context. -/
theorem destroyAll_perm {images others : List Image} (perm : images.Perm others) (device : Device)
    (same : ∀ first ∈ images, ∀ second ∈ images,
      first.handle = second.handle → first.mode = second.mode) :
    (contexts.destroyAll device images).Alike (contexts.destroyAll device others) := by
  induction perm generalizing device with
  | nil => exact .refl device
  | cons image _ ih =>
      exact ih (contexts.destroy device image) fun first left second right =>
        same first (List.mem_cons_of_mem _ left) second (List.mem_cons_of_mem _ right)
  | swap second first rest =>
      have swapped := contexts.destroy_comm device
        (same first List.mem_cons_self second (List.mem_cons_of_mem _ List.mem_cons_self))
      exact contexts.destroyAll_alike swapped rest
  | trans perm _ first second =>
      refine (first device same).trans (second device fun one left two right => ?_)
      exact same one (perm.mem_iff.mpr left) two (perm.mem_iff.mpr right)

end Contexts

/-! ## Engines -/

namespace Engine

/-- The engine only holds images that its device made. -/
structure Honest (engine : Engine) : Prop where
  registered : engine.device.Registered
  knows : engine.device.Knows engine.owned

/-- Only the order of what was destroyed, of what is parked and of what will be released tells these
engines apart. -/
inductive Alike (left : Engine) : Engine → Prop where
  | varied {device : Device} {order : ReleaseOrder} {parked : List Image} :
      left.Honest → left.device.Alike device → left.retired.parked.Perm parked →
      Alike left
        { left with
          device
          textures := { left.textures with order }
          retired := ⟨parked⟩ }

theorem retire_eq (engine : Engine) (images : List Image) :
    engine.retire images =
      { engine with
        retired := ⟨engine.retired.parked ++
          images.filter fun image => !engine.progress.isComplete image.lastUsed⟩
        device := engine.contexts.destroyAll engine.device
          (images.filter fun image => engine.progress.isComplete image.lastUsed) } := by
  induction images generalizing engine with
  | nil => simp [retire_nil, Contexts.destroyAll]
  | cons image images ih =>
      rw [retire_cons]
      by_cases complete : engine.progress.isComplete image.lastUsed = true
      · rw [retire_done complete, ih]
        simp [complete, Contexts.destroyAll]
      · rw [retire_used complete, ih]
        simp [complete]

namespace Honest

variable {engine after : Engine} {images : List Image}

theorem textures (honest : engine.Honest) : engine.device.Knows engine.textures.entries :=
  honest.knows.subset fun _ member => List.mem_append_left _ (List.mem_append_left _ member)

theorem outputs (honest : engine.Honest) : engine.device.Knows engine.outputs.entries :=
  honest.knows.subset fun _ member => List.mem_append_left _ (List.mem_append_right _ member)

theorem parked (honest : engine.Honest) : engine.device.Knows engine.retired.parked :=
  honest.knows.subset fun _ member => List.mem_append_right _ member

/-- The device worked, and the engine holds images that were made by now. -/
theorem hold (honest : engine.Honest) (effects : Device.Effects engine.device after.device)
    (textures : after.device.Knows after.textures.entries)
    (outputs : after.device.Knows after.outputs.entries)
    (parked : after.device.Knows after.retired.parked) : after.Honest :=
  ⟨honest.registered.effects effects, (textures.append outputs).append parked⟩

/-- The device worked, and the engine holds what it held. -/
theorem work (honest : engine.Honest) (effects : Device.Effects engine.device after.device)
    (owned : after.owned ⊆ engine.owned) : after.Honest :=
  ⟨honest.registered.effects effects, (honest.knows.effects effects).subset owned⟩

theorem retire (honest : engine.Honest) (knows : engine.device.Knows images) :
    (engine.retire images).Honest := by
  have effects := (engine.retire_calls images).effects
  refine honest.hold effects ?_ ?_ ?_
  · rw [retire_eq] at effects ⊢
    exact honest.textures.effects effects
  · rw [retire_eq] at effects ⊢
    exact honest.outputs.effects effects
  · rw [retire_eq] at effects ⊢
    exact (honest.parked.append (knows.subset (List.filter_subset_self _))).effects effects

end Honest

namespace Alike

variable {left right : Engine}

theorem honest (alike : left.Alike right) : left.Honest := by
  cases alike with
  | varied honest => exact honest

theorem device (alike : left.Alike right) : left.device.Alike right.device := by
  cases alike with
  | varied _ device => exact device

theorem parked (alike : left.Alike right) :
    left.retired.parked.Perm right.retired.parked := by
  cases alike with
  | varied _ _ parked => exact parked

theorem contexts (alike : left.Alike right) : left.contexts = right.contexts := by
  cases alike with
  | varied => rfl

theorem outputs (alike : left.Alike right) : left.outputs = right.outputs := by
  cases alike with
  | varied => rfl

theorem progress (alike : left.Alike right) : left.progress = right.progress := by
  cases alike with
  | varied => rfl

theorem lost (alike : left.Alike right) : left.lost = right.lost := by
  cases alike with
  | varied => rfl

theorem destroyAll (alike : left.Alike right) {images others : List Image}
    (perm : images.Perm others) (knows : left.device.Knows images) :
    (left.contexts.destroyAll left.device images).Alike
      (left.contexts.destroyAll right.device others) := by
  have shuffled := left.contexts.destroyAll_perm perm left.device fun first inside second also =>
    alike.honest.registered.mode_eq knows inside also
  exact shuffled.trans (left.contexts.destroyAll_alike alike.device others)

theorem retire (alike : left.Alike right) {images others : List Image}
    (perm : images.Perm others) (knows : left.device.Knows images) :
    (left.retire images).Alike (right.retire others) := by
  let complete := fun image : Image => left.progress.isComplete image.lastUsed
  have retired := alike.honest.retire knows
  have destroyed := alike.destroyAll (perm.filter complete)
    (knows.subset (List.filter_subset_self _))
  rw [retire_eq] at retired
  cases alike with
  | varied _ _ parked =>
      rw [retire_eq, retire_eq]
      exact .varied retired destroyed (parked.append (perm.filter _))

/-- The device was called on both sides, and answered alike. -/
theorem work (alike : left.Alike right) {device other : Device}
    (effects : Device.Effects left.device device) (same : device.Alike other) :
    ({ left with device } : Engine).Alike { right with device := other } := by
  cases alike with
  | varied honest _ parked =>
      exact .varied (honest.work effects (List.Subset.refl _)) same parked

theorem withProgress (alike : left.Alike right) (progress : Progress) :
    ({ left with progress } : Engine).Alike { right with progress } := by
  cases alike with
  | varied honest device parked => exact .varied ⟨honest.registered, honest.knows⟩ device parked

theorem withTracer (alike : left.Alike right) (tracer : Option Tracer) :
    ({ left with tracer } : Engine).Alike { right with tracer } := by
  cases alike with
  | varied honest device parked => exact .varied ⟨honest.registered, honest.knows⟩ device parked

theorem entries (alike : left.Alike right) : left.textures.entries = right.textures.entries := by
  cases alike with
  | varied => rfl

theorem releases (alike : left.Alike right) :
    left.textures.releases = right.textures.releases := by
  cases alike with
  | varied => rfl

/-- Textures may change in any way that does not look at their order. -/
theorem withTextures (alike : left.Alike right) {cache other : TextureCache}
    (entries : cache.entries = other.entries) (releases : cache.releases = other.releases)
    (knows : left.device.Knows cache.entries) :
    ({ left with textures := cache } : Engine).Alike { right with textures := other } := by
  obtain ⟨images, order, count⟩ := cache
  cases entries
  cases releases
  cases alike with
  | varied honest device parked =>
      exact .varied (honest.hold .refl knows honest.outputs honest.parked) device parked

theorem markLost (alike : left.Alike right) : left.markLost.Alike right.markLost := by
  cases alike with
  | varied honest device parked => exact .varied ⟨honest.registered, honest.knows⟩ device parked

theorem collect (alike : left.Alike right) : left.collect.Alike right.collect := by
  have effects := left.collect_calls.effects
  have honest := alike.honest
  have done : left.device.Knows left.done := honest.parked.subset (List.filter_subset_self _)
  have waiting : left.device.Knows left.stillWaiting :=
    honest.parked.subset (List.filter_subset_self _)
  have same : left.done.Perm right.done := by
    cases alike with
    | varied _ _ parked => exact parked.filter _
  have destroyed := alike.destroyAll same done
  rw [collect_eq] at effects
  cases alike with
  | varied _ _ parked =>
      rw [collect_eq, collect_eq]
      refine .varied ?_ destroyed (parked.filter _)
      exact honest.hold effects (honest.textures.effects effects) (honest.outputs.effects effects)
        (waiting.effects effects)

/-! ### Releasing textures -/

theorem released_perm (alike : left.Alike right) (keeps : Image → Bool) :
    (left.textures.releaseUnless keeps).1.Perm (right.textures.releaseUnless keeps).1 := by
  cases alike with
  | @varied _ order =>
      exact (left.textures.order.perm _ _).trans (order.perm _ _).symm

theorem released_known (alike : left.Alike right) (keeps : Image → Bool) :
    left.device.Knows (left.textures.releaseUnless keeps).1 :=
  alike.honest.textures.subset fun _ member =>
    List.mem_of_mem_filter ((left.textures.order.perm _ _).subset member)

/-- What stays in a cache does not depend on the order of what leaves it. -/
theorem releasing (alike : left.Alike right) (keeps : Image → Bool) :
    ({ left with textures := (left.textures.releaseUnless keeps).2 } : Engine).Alike
      { right with textures := (right.textures.releaseUnless keeps).2 } :=
  alike.withTextures (congrArg (List.filter keeps) alike.entries)
    (congrArg (· + 1) alike.releases) (alike.honest.textures.subset (List.filter_subset_self _))

theorem evicted (alike : left.Alike right) (active : List BufferId) :
    (left.evicted active).Alike (right.evicted active) :=
  (alike.releasing _).retire (alike.released_perm _) (alike.released_known _)

theorem emptyCaches (alike : left.Alike right) : left.emptyCaches.Alike right.emptyCaches := by
  have released := alike.released_perm fun _ => false
  have known := (alike.released_known fun _ => false).append alike.honest.outputs
  have emptied : ({ left with
        textures := left.textures.drain.2
        outputs := left.outputs.drain.2 } : Engine).Alike
      { right with textures := right.textures.drain.2, outputs := right.outputs.drain.2 } := by
    cases alike with
    | varied honest device parked =>
        refine .varied ?_ device parked
        exact honest.hold .refl (honest.textures.subset (List.filter_subset_self _)) (.nil _)
          honest.parked
  cases alike with
  | varied => exact emptied.retire (released.append_right _) known

end Alike

end Engine

end Compositor
