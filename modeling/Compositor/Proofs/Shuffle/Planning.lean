import Compositor.Proofs.Shuffle.Retirement

/-!
# Planning a frame on alike engines

Textures are looked up, imported and marked in no order of their own, so on alike engines the layers
of a frame are planned in the same way: the same ones are drawn from the same images, and the same
ones are left out for the same reasons.
-/

set_option autoImplicit false

namespace Compositor

/-! ## Results -/

/-- Both results are failures, or both are successes, that are related. -/
inductive Tally {failure value : Type} (failures : failure → failure → Prop)
    (values : value → value → Prop) : Except failure value → Except failure value → Prop where
  | error {left right : failure} : failures left right →
      Tally failures values (.error left) (.error right)
  | ok {left right : value} : values left right → Tally failures values (.ok left) (.ok right)

/-- Two loops over the same list keep what each pair of rounds keeps. -/
theorem Tally.foldlM {α failure value : Type} {failures : failure → failure → Prop}
    {values : value → value → Prop} {round : value → α → Except failure value}
    (keeps : ∀ {left right : value} (item : α), values left right →
      Tally failures values (round left item) (round right item))
    (items : List α) {left right : value} (start : values left right) :
    Tally failures values (items.foldlM round left) (items.foldlM round right) := by
  induction items generalizing left right with
  | nil => exact .ok start
  | cons item items ih =>
      have first := keeps item start
      rw [List.foldlM_cons, List.foldlM_cons]
      generalize round left item = one at first
      generalize round right item = other at first
      cases first with
      | error failed => exact .error failed
      | ok next => exact ih next

/-! ## Textures -/

namespace Engine.Alike

variable {left right : Engine}

theorem poll (alike : left.Alike right) : left.poll.Alike right.poll := by
  have polled := alike.withProgress (left.progress.poll left.device.fences)
  cases alike with
  | varied _ device _ =>
      rw [Engine.poll, Engine.poll, ← device.fences]
      exact polled

theorem awaitAny (alike : left.Alike right) (fence : Option Fence) :
    Agree Engine.Alike (left.awaitAny fence) (right.awaitAny fence) := by
  cases fence with
  | none => exact ⟨rfl, alike⟩
  | some fence =>
      obtain ⟨answer, device⟩ := alike.device.await fence
      exact ⟨answer, alike.work (left.awaitAny_calls (some fence)).effects device⟩

/-- The texture of a buffer leaves the cache. -/
theorem unbound (alike : left.Alike right) (buffer : BufferId) :
    ({ left with textures := (left.textures.unbind buffer).2 } : Engine).Alike
      { right with textures := (right.textures.unbind buffer).2 } := by
  refine alike.withTextures ?_ alike.releases
    (alike.honest.textures.subset (List.filter_subset_self _))
  exact congrArg (List.filter _) alike.entries

theorem unbind_eq (alike : left.Alike right) (buffer : BufferId) :
    (left.textures.unbind buffer).1 = (right.textures.unbind buffer).1 :=
  congrArg (List.find? _) alike.entries

theorem unbind_known (alike : left.Alike right) (buffer : BufferId) :
    left.device.Knows (left.textures.unbind buffer).1.toList := by
  intro image member
  exact alike.honest.textures image (List.mem_of_find?_eq_some (Option.mem_toList.mp member))

theorem insert (alike : left.Alike right) {image : Image}
    (made : image.asLive ∈ History.created left.device.events) :
    ({ left with textures := left.textures.insert image } : Engine).Alike
      { right with textures := right.textures.insert image } := by
  refine alike.withTextures (congrArg (· ++ [image]) alike.entries) alike.releases ?_
  refine alike.honest.textures.append fun other member => ?_
  rw [List.mem_singleton.mp member]
  exact made

theorem markUsed (alike : left.Alike right) (buffer : BufferId) (frame : FrameSeq) :
    ({ left with textures := (left.textures.markUsed buffer frame).2 } : Engine).Alike
      { right with textures := (right.textures.markUsed buffer frame).2 } := by
  refine alike.withTextures (congrArg (List.map _) alike.entries) alike.releases ?_
  exact alike.honest.textures.marked
    (Image.map_asLive_of_marked (Image.markedBy_map frame (·.buffer = buffer) _))

theorem bindTexture (alike : left.Alike right) (buffer : Buffer) :
    Agree Engine.Alike (left.bindTexture buffer) (right.bindTexture buffer) := by
  have effects := (Device.Calls.bindImage left.device left.contexts.current buffer
    left.limit).effects
  obtain ⟨result, first, second, made, making, same⟩ :=
    (alike.device.bindImage left.contexts.current buffer left.limit).split
  have remade : right.device.bindImage right.contexts.current buffer right.limit =
      (result, second) := by
    cases alike with
    | varied => exact making
  rw [made] at effects
  have known := (alike.unbind_known buffer.id).effects effects
  have leaving := List.Perm.of_eq (congrArg Option.toList (alike.unbind_eq buffer.id))
  have worked := (alike.unbound buffer.id).work effects same
  cases result with
  | error error =>
      rw [bindTexture_refused made, bindTexture_refused remade]
      exact ⟨rfl, worked.retire leaving known⟩
  | ok image =>
      rw [bindTexture_made made, bindTexture_made remade]
      exact ⟨rfl, (worked.insert (Device.bindImage_created made)).retire leaving known⟩

theorem textureFor (alike : left.Alike right) (buffer : Buffer) (frame : FrameSeq) :
    Agree Engine.Alike (left.textureFor buffer frame) (right.textureFor buffer frame) := by
  have found : (left.textures.markUsed buffer.id frame).1 =
      (right.textures.markUsed buffer.id frame).1 :=
    congrArg (Option.map Image.handle) (alike.unbind_eq buffer.id)
  have marked := alike.markUsed buffer.id frame
  unfold Engine.textureFor
  cases cached : left.textures.markUsed buffer.id frame with
  | mk handle textures =>
      cases caching : right.textures.markUsed buffer.id frame with
      | mk other rest =>
          rw [cached, caching] at found marked
          dsimp only at found
          subst found
          cases handle with
          | some handle => exact ⟨rfl, marked⟩
          | none =>
              obtain ⟨result, first, second, bound, binding, same⟩ :=
                (alike.bindTexture buffer).split
              dsimp only
              rw [bound, binding]
              cases result with
              | error cause => exact ⟨rfl, same⟩
              | ok handle => exact ⟨rfl, same.markUsed buffer.id frame⟩

end Engine.Alike

/-! ## Layers -/

namespace FramePlan

/-- The same is known of the layers, on alike engines. -/
inductive Alike (left : FramePlan) : FramePlan → Prop where
  | varied {engine : Engine} : left.engine.Alike engine → Alike left { left with engine }

variable {left right : FramePlan}

theorem Alike.look (alike : left.Alike right) (frame : FrameSeq) (index : Nat) (layer : Layer) :
    Tally Engine.Alike FramePlan.Alike (left.look frame index layer)
      (right.look frame index layer) := by
  cases alike with
  | varied alike =>
      unfold FramePlan.look
      cases layer.source with
      | solid color => exact .ok (.varied alike)
      | sampled buffer fence =>
          obtain ⟨result, first, second, found, finding, same⟩ :=
            (alike.textureFor buffer frame).split
          dsimp only
          rw [found, finding]
          cases result with
          | error cause =>
              dsimp only
              split
              · exact .error same
              · exact .ok (.varied same)
          | ok handle =>
              obtain ⟨signaled, one, other, waited, waiting, still⟩ := (same.awaitAny fence).split
              dsimp only
              rw [waited, waiting]
              cases signaled with
              | true => exact .ok (.varied still)
              | false => exact .ok (.varied still)

theorem lookAll_alike {left right : Engine} (alike : left.Alike right) (frame : FrameSeq)
    (layers : List Layer) :
    Tally Engine.Alike FramePlan.Alike (lookAll left frame layers)
      (lookAll right frame layers) :=
  Tally.foldlM (fun (layer, index) same => same.look frame index layer) layers.zipIdx
    (.varied alike)

end FramePlan

end Compositor
