import Compositor.Proofs.Reachable
import Compositor.Proofs.Shelf.Planning

/-!
# Textures that binding replaces

Binding a buffer hands over the texture that the buffer had: it is destroyed at once if its last use
has completed, and it is the last one to wait otherwise. No other image is concerned.
-/

set_option autoImplicit false

namespace Compositor

/-! ## What contexts are asked to destroy -/

namespace DeviceEvent

/-- The images that a context was asked to destroy. -/
def condemned : DeviceEvent → List ImageHandle
  | .handed _ .destroy handles => handles
  | _ => []

end DeviceEvent

namespace Device

/-- In between, contexts were asked to destroy just these images, in this order. -/
def Condemns (before : Device) (handles : List ImageHandle) (after : Device) : Prop :=
  ∃ added : History, after.events = added ++ before.events ∧
    added.reverse.flatMap DeviceEvent.condemned = handles

namespace Condemns

theorem refl (device : Device) : device.Condemns [] device := ⟨[], rfl, rfl⟩

theorem trans {first second third : Device} {early late : List ImageHandle}
    (left : first.Condemns early second) (right : second.Condemns late third) :
    first.Condemns (early ++ late) third := by
  obtain ⟨before, beforeEq, rfl⟩ := left
  obtain ⟨after, afterEq, rfl⟩ := right
  refine ⟨after ++ before, ?_, ?_⟩
  · rw [afterEq, beforeEq, List.append_assoc]
  · rw [List.reverse_append, List.flatMap_append]

variable (device : Device)

theorem log (event : DeviceEvent) : device.Condemns event.condemned (device.log event) :=
  ⟨[event], rfl, by simp⟩

theorem arrive (call : ContextCall) : device.Condemns [] (device.arrive call) := by
  unfold Device.arrive
  dsimp only
  split
  · exact ⟨[.lost, .settled .error device.pending], rfl, rfl⟩
  · exact ⟨[], rfl, rfl⟩

theorem answer (mode : Mode) (kind : ImageKind) (request : ImportRequest) :
    device.Condemns [] (device.answer mode kind request).2 := by
  have answers := answer_answered device mode kind request
  generalize device.answer mode kind request = answered at answers ⊢
  cases answers with
  | lost | rejected => exact ⟨[_], rfl, rfl⟩
  | made => exact ⟨[_, _], rfl, rfl⟩

theorem bindImage (mode : Mode) (buffer : Buffer) (limit : UInt32) :
    device.Condemns [] (device.bindImage mode buffer limit).2 := by
  have checked : device.Condemns [] device.checkLost.2 := arrive device .checkLost
  unfold Device.bindImage
  cases asked : device.checkLost with
  | mk lost known =>
      rw [asked] at checked
      cases lost with
      | true => exact checked
      | false =>
          dsimp only
          cases ImportRequest.check buffer mode limit with
          | error error => exact checked
          | ok request =>
              exact (checked.trans (arrive known .importBuffer)).trans
                (answer _ mode .texture request)

theorem release (mode : Mode) (handle : ImageHandle) :
    device.Condemns [] (device.release mode handle) := by
  unfold Device.release
  split
  · exact ⟨[_], rfl, rfl⟩
  · exact ⟨[_], rfl, rfl⟩

theorem destroyImage (mode : Mode) (handle : ImageHandle) :
    device.Condemns [handle] (device.destroyImage mode handle) := by
  have asked := (arrive device .destroyImage).trans
    (log (device.arrive .destroyImage) (.handed mode .destroy [handle]))
  exact asked.trans (release _ mode handle)

end Condemns

end Device

namespace Contexts

theorem destroy_condemns {contexts : Contexts} {image : Image}
    (owner : contexts.has image.mode = true) (device : Device) :
    device.Condemns [image.handle] (contexts.destroy device image) := by
  rw [destroy, if_pos owner]
  exact .destroyImage device image.mode image.handle

end Contexts

theorem TextureCache.unbind_others (cache : TextureCache) (buffer : BufferId) :
    (cache.unbind buffer).2.entries.filter (·.buffer ≠ buffer) =
      cache.entries.filter (·.buffer ≠ buffer) := by
  simp [unbind, List.filter_filter]

namespace Engine

variable {engine : Engine}

/-- The device does not use the image any more. -/
def isDoneWith (engine : Engine) (image : Image) : Bool :=
  engine.progress.isComplete image.lastUsed

/-- Of the images that are retired, those that the device is done with are destroyed, and the others
wait. -/
theorem retire_hands {images : List Image}
    (owners : ∀ image ∈ images, engine.contexts.has image.mode = true) :
    (engine.retire images).retired.parked =
        engine.retired.parked ++ images.filter (!engine.isDoneWith ·) ∧
      engine.device.Condemns ((images.filter (engine.isDoneWith ·)).map (·.handle))
        (engine.retire images).device := by
  induction images generalizing engine with
  | nil => exact ⟨(List.append_nil _).symm, .refl engine.device⟩
  | cons image images ih =>
      have owner := owners image List.mem_cons_self
      obtain ⟨parked, destroyed⟩ := @ih (engine.retire [image]) fun other member =>
        owners other (List.mem_cons_of_mem _ member)
      rw [retire_cons, parked]
      by_cases complete : engine.isDoneWith image = true
      · rw [retire_done complete] at destroyed ⊢
        rw [List.filter_cons_of_neg (by simp [complete]), List.filter_cons_of_pos complete]
        exact ⟨rfl, (Contexts.destroy_condemns owner engine.device).trans destroyed⟩
      · rw [retire_used complete] at destroyed ⊢
        rw [List.filter_cons_of_pos (by simp [complete]), List.filter_cons_of_neg complete]
        exact ⟨List.append_assoc .., destroyed⟩

/-- What binding a buffer does with the texture that the buffer had. -/
structure HandsOver (engine : Engine) (buffer : BufferId) (after : Engine) : Prop where
  /-- The textures of other buffers stay. -/
  kept : after.textures.entries.filter (·.buffer ≠ buffer) =
    engine.textures.entries.filter (·.buffer ≠ buffer)
  waits : after.retired.parked = engine.retired.parked ++
    (engine.textures.find? buffer).toList.filter (!engine.isDoneWith ·)
  destroyed : engine.device.Condemns
    (((engine.textures.find? buffer).toList.filter (engine.isDoneWith ·)).map (·.handle))
    after.device

theorem bindTexture_hands {recorded : List ImageHandle}
    (owned : Moment.Owned ⟨engine, [], recorded⟩) (buffer : Buffer) :
    engine.HandsOver buffer.id (engine.bindTexture buffer).2 := by
  have asked := Device.Condemns.bindImage engine.device engine.contexts.current buffer engine.limit
  have provided := Device.bindImage_provides engine [] [] buffer engine.limit
  have owners : ∀ image ∈ (engine.textures.find? buffer.id).toList,
      engine.contexts.has image.mode = true := by
    intro image member
    obtain ⟨inside, -⟩ := TextureCache.find?_some (Option.mem_toList.mp member)
    exact owned.hasOwner (by simp [Moment.held, Engine.owned, inside])
  cases outcome : engine.device.bindImage engine.contexts.current buffer engine.limit with
  | mk result device =>
      rw [outcome] at asked provided
      cases provided with
      | refused =>
          let unbound : Engine :=
            { engine with textures := (engine.textures.unbind buffer.id).2, device }
          obtain ⟨parked, destroyed⟩ := unbound.retire_hands owners
          rw [bindTexture_refused outcome]
          exact ⟨engine.textures.unbind_others buffer.id, parked, asked.trans destroyed⟩
      | @made image _ same =>
          let bound : Engine :=
            { engine with textures := (engine.textures.unbind buffer.id).2.insert image, device }
          obtain ⟨parked, destroyed⟩ := bound.retire_hands owners
          have others : ((engine.textures.unbind buffer.id).2.insert image).entries.filter
              (·.buffer ≠ buffer.id) = engine.textures.entries.filter (·.buffer ≠ buffer.id) := by
            rw [TextureCache.insert, List.filter_append, engine.textures.unbind_others buffer.id]
            simp [same]
          rw [bindTexture_made outcome]
          exact ⟨others, parked, asked.trans destroyed⟩

/-! ## Binding as an operation -/

/-- Binding ends as importing the texture does, with the loss of the device noted. -/
theorem bind_eq (alive : engine.lost = false) (buffer : Buffer) :
    (engine.bind buffer).1.isOk = (engine.poll.bindTexture buffer).1.isOk ∧
      ∃ lost, (engine.bind buffer).2 = { (engine.poll.bindTexture buffer).2 with lost } := by
  unfold bind
  rw [if_neg (by simp [alive])]
  cases engine.poll.bindTexture buffer with
  | mk result after =>
      cases result with
      | ok handle => exact ⟨rfl, after.lost, rfl⟩
      | error cause =>
          cases fatal : cause.isFatal with
          | false =>
              refine ⟨rfl, after.lost, ?_⟩
              simp [noteFailure, fatal]
          | true =>
              refine ⟨rfl, true, ?_⟩
              simp [noteFailure, fatal, markLost]

/-- Binding adds the buffer to the stock if it succeeds, and takes it out otherwise. -/
theorem bind_stock (alive : engine.lost = false) (buffer : Buffer) :
    (engine.bind buffer).2.stock =
      if (engine.bind buffer).1.isOk then insert buffer.id engine.stock
      else engine.stock.erase buffer.id := by
  obtain ⟨result, lost, same⟩ := bind_eq alive buffer
  rw [result, same]
  exact engine.poll.bindTexture_stock buffer

theorem bind_hands {recorded : List ImageHandle} (rested : Moment.Rested ⟨engine, [], recorded⟩)
    (alive : engine.lost = false) (buffer : Buffer) :
    engine.poll.HandsOver buffer.id (engine.bind buffer).2 := by
  obtain ⟨-, lost, same⟩ := bind_eq alive buffer
  have polled : Moves ⟨engine, [], recorded⟩ ⟨engine.poll, [], recorded⟩ := .single .poll
  have hands := bindTexture_hands (polled.owned rested.owned) buffer
  rw [same]
  exact ⟨hands.kept, hands.waits, hands.destroyed⟩

end Engine

end Compositor
