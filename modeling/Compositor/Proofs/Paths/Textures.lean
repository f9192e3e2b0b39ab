import Compositor.Engine.Frame
import Compositor.Proofs.Paths.Imports

/-!
# Textures as paths of moves

Binding a buffer hands the texture that it had to the queue and puts a new one in its place.
Composing a frame does this for each sampled buffer that has no texture, and marks the texture as
used by the frame. Nothing that comes later in the frame takes such a texture away.
-/

set_option autoImplicit false

namespace Compositor

variable {engine : Engine} {hand : List Image} {recorded : List ImageHandle}

namespace Engine

@[simp] theorem bindTexture_progress (engine : Engine) (buffer : Buffer) :
    (engine.bindTexture buffer).2.progress = engine.progress := rfl

/-- The cache has a texture of a buffer, and the texture is known to be used by `frame`. -/
def Serves (engine : Engine) (frame : FrameSeq) (buffer : BufferId) (handle : ImageHandle) :
    Prop :=
  ∃ image ∈ engine.textures.entries, image.buffer = buffer ∧ image.handle = handle ∧
    image.UsedSince frame

theorem Serves.mono {frame : FrameSeq} {buffer : BufferId} {handle : ImageHandle} {later : Engine}
    (serves : engine.Serves frame buffer handle)
    (kept : ∀ image ∈ engine.textures.entries, image.buffer = buffer →
      image ∈ later.textures.entries) : later.Serves frame buffer handle := by
  obtain ⟨image, member, same, found⟩ := serves
  exact ⟨image, kept image member same, same, found⟩

end Engine

/-! ## Binding -/

/-- What binding a buffer left behind. -/
structure Bound (engine : Engine) (hand : List Image) (recorded : List ImageHandle)
    (buffer : Buffer) (result : Except BindError ImageHandle) (after : Engine) : Prop where
  moves : Moves ⟨engine, hand, recorded⟩ ⟨after, hand, recorded⟩
  fatal : ∀ cause, result = .error cause → cause.isFatal = true → after.device.lost = true
  found : ∀ handle, result = .ok handle → ∃ image ∈ after.textures.entries,
    image.buffer = buffer.id ∧ image.handle = handle
  kept : ∀ image ∈ engine.textures.entries, image.buffer ≠ buffer.id →
    image ∈ after.textures.entries

namespace TextureCache

variable {cache : TextureCache} {buffer : BufferId} {image : Image}

theorem mem_unbind (member : image ∈ cache.entries) (other : image.buffer ≠ buffer) :
    image ∈ (cache.unbind buffer).2.entries :=
  List.mem_filter.mpr ⟨member, by simpa using other⟩

theorem markUsed_hit (cached : cache.find? buffer = some image) {frame : FrameSeq} :
    cache.markUsed buffer frame = (some image.handle, (cache.markUsed buffer frame).2) := by
  simp [markUsed, cached]

theorem markUsed_miss (cached : cache.find? buffer = none) {frame : FrameSeq} :
    cache.markUsed buffer frame = (none, (cache.markUsed buffer frame).2) := by
  simp [markUsed, cached]

/-- Marking changes the image of one buffer only. -/
theorem mem_markUsed {frame : FrameSeq} (member : image ∈ (cache.markUsed buffer frame).2.entries) :
    image ∈ cache.entries ∨ image.buffer = buffer := by
  obtain ⟨original, inside, marked⟩ := List.mem_map.mp member
  split at marked
  · rename_i own
    rw [← marked]
    exact .inr own
  · rw [← marked]
    exact .inl inside

end TextureCache

namespace Moves

theorem unbind (owned : Moment.Owned ⟨engine, hand, recorded⟩) (buffer : BufferId) :
    Moves ⟨engine, hand, recorded⟩
      ⟨{ engine with textures := (engine.textures.unbind buffer).2 },
        (engine.textures.unbind buffer).1.toList ++ hand, recorded⟩ := by
  refine .single (.shift ?_ ?_)
  · exact owned.shelved.sublist (engine.textures.unbind_sublist buffer) (List.Sublist.refl _)
  · have split := TextureCache.unbind_perm owned.shelved.textureBuffers buffer
    rw [List.perm_iff_count]
    intro image
    have same := split.count_eq image
    simp only [Engine.owned, List.count_append] at same ⊢
    omega

theorem insertTexture {image : Image} {rest : List Image}
    (owned : Moment.Owned ⟨engine, image :: rest, recorded⟩) (kind : image.kind = .texture)
    (absent : ∀ other ∈ engine.textures.entries, other.buffer ≠ image.buffer) :
    Moves ⟨engine, image :: rest, recorded⟩
      ⟨{ engine with textures := engine.textures.insert image }, rest, recorded⟩ := by
  refine .single (.shift (owned.shelved.insertTexture kind absent) ?_)
  rw [List.perm_iff_count]
  intro other
  simp only [Engine.owned, TextureCache.insert, List.count_append, List.count_cons, List.count_nil]
  omega

end Moves

namespace Engine

theorem bindTexture_refused {buffer : Buffer} {error : BindError} {device : Device}
    (outcome : engine.device.bindImage engine.contexts.current buffer engine.limit =
      (.error error, device)) :
    engine.bindTexture buffer =
      (.error error,
        { engine with textures := (engine.textures.unbind buffer.id).2, device }.retire
          (engine.textures.unbind buffer.id).1.toList) := by
  simp [bindTexture, TextureCache.bind, outcome]

theorem bindTexture_made {buffer : Buffer} {image : Image} {device : Device}
    (outcome : engine.device.bindImage engine.contexts.current buffer engine.limit =
      (.ok image, device)) :
    engine.bindTexture buffer =
      (.ok image.handle,
        { engine with
          textures := (engine.textures.unbind buffer.id).2.insert image
          device }.retire (engine.textures.unbind buffer.id).1.toList) := by
  simp [bindTexture, TextureCache.bind, outcome]

theorem bindTexture_bound (owned : Moment.Owned ⟨engine, hand, recorded⟩) (buffer : Buffer) :
    Bound engine hand recorded buffer (engine.bindTexture buffer).1
      (engine.bindTexture buffer).2 := by
  have taken := Moves.unbind owned buffer.id
  have provided := Device.bindImage_provides
    { engine with textures := (engine.textures.unbind buffer.id).2 }
    ((engine.textures.unbind buffer.id).1.toList ++ hand) recorded buffer engine.limit
  cases outcome : engine.device.bindImage engine.contexts.current buffer engine.limit with
  | mk result device =>
      dsimp only at provided
      rw [outcome] at provided
      cases provided with
      | refused fatal moves =>
          have path : Moves _ _ := taken.trans moves
          have retired := Moves.retire (path.owned owned)
          rw [bindTexture_refused outcome]
          refine ⟨path.trans retired, ?_, by simp, fun image member other =>
            TextureCache.mem_unbind member other⟩
          intro cause same isFatal
          cases same
          exact retired.continues.lost (fatal isFatal)
      | made bufferEq kindEq moves =>
          have path : Moves _ _ := taken.trans moves
          have placed : Moves _ _ := path.trans (Moves.insertTexture (path.owned owned) kindEq
            fun other member => by
              rw [bufferEq]
              exact engine.textures.unbind_absent buffer.id other member)
          rw [bindTexture_made outcome]
          refine ⟨placed.trans (Moves.retire (placed.owned owned)), by simp, ?_,
            fun image member other =>
              List.mem_append_left _ (TextureCache.mem_unbind member other)⟩
          intro handle same
          cases same
          exact ⟨_, List.mem_append_right _ List.mem_cons_self, bufferEq, rfl⟩

end Engine

/-! ## Textures of a frame -/

/-- A part of composing a frame that records nothing and submits nothing. Images may be left in the
hand of the engine. -/
structure Stage (before after : Engine) (hand : List Image) : Prop where
  moves : Moves ⟨before, [], []⟩ ⟨after, hand, []⟩
  progress : after.progress = before.progress
  lost : after.lost = before.lost
  contexts : after.contexts = before.contexts

namespace Stage

theorem refl (engine : Engine) : Stage engine engine [] := ⟨.refl, rfl, rfl, rfl⟩

theorem trans {first second third : Engine} (left : Stage first second [])
    (right : Stage second third hand) : Stage first third hand :=
  ⟨left.moves.trans right.moves, right.progress.trans left.progress, right.lost.trans left.lost,
    right.contexts.trans left.contexts⟩

end Stage

/-- What looking for the texture of a buffer left behind. -/
structure Textured (engine : Engine) (buffer : Buffer) (frame : FrameSeq)
    (result : Except BindError ImageHandle) (after : Engine) : Prop where
  stage : Stage engine after []
  fatal : ∀ cause, result = .error cause → cause.isFatal = true → after.device.lost = true
  found : ∀ handle, result = .ok handle → after.Serves frame buffer.id handle
  kept : ∀ other handle, engine.Serves frame other handle → after.Serves frame other handle

namespace Moves

theorem markTexture (owned : Moment.Owned ⟨engine, hand, recorded⟩) {frame : FrameSeq}
    (recording : engine.progress.recording = some frame) (buffer : BufferId) :
    Moves ⟨engine, hand, recorded⟩
      ⟨{ engine with textures := (engine.textures.markUsed buffer frame).2 }, hand, recorded⟩ := by
  have marked := engine.textures.markUsed_marked buffer frame
  have others := Image.markedBy_self frame
  refine .single (.mark recording (owned.shelved.marked marked (others _)) ?_)
  exact List.rel_append (List.rel_append (List.rel_append marked (others _)) (others _)) (others _)

end Moves

namespace Engine

theorem Serves.marked {frame : FrameSeq} {buffer : BufferId} {handle : ImageHandle}
    (serves : engine.Serves frame buffer handle) (used : BufferId) (later : FrameSeq) :
    ({ engine with textures := (engine.textures.markUsed used later).2 } : Engine).Serves frame
      buffer handle := by
  obtain ⟨image, member, bufferEq, handleEq, since⟩ := serves
  refine ⟨_, List.mem_map_of_mem member, ?_⟩
  split
  · exact ⟨bufferEq, handleEq, since.markUsed later⟩
  · exact ⟨bufferEq, handleEq, since⟩

theorem serves_marked {image : Image} (member : image ∈ engine.textures.entries)
    (frame : FrameSeq) :
    ({ engine with
      textures := (engine.textures.markUsed image.buffer frame).2 } : Engine).Serves frame
      image.buffer image.handle := by
  refine ⟨_, List.mem_map_of_mem member, ?_⟩
  rw [if_pos rfl]
  exact ⟨rfl, rfl, Image.usedSince_markUsed image frame⟩

theorem textureFor_textured (owned : Moment.Owned ⟨engine, [], []⟩) {frame : FrameSeq}
    (recording : engine.progress.recording = some frame) (buffer : Buffer) :
    Textured engine buffer frame (engine.textureFor buffer frame).1
      (engine.textureFor buffer frame).2 := by
  unfold textureFor
  cases cached : engine.textures.find? buffer.id with
  | some image =>
      obtain ⟨member, same⟩ := TextureCache.find?_some cached
      rw [TextureCache.markUsed_hit cached]
      refine ⟨⟨.markTexture owned recording buffer.id, rfl, rfl, rfl⟩, by simp, ?_, ?_⟩
      · intro handle found
        cases found
        rw [← same]
        exact serves_marked member frame
      · exact fun other handle serves => serves.marked buffer.id frame
  | none =>
      rw [TextureCache.markUsed_miss cached]
      have bound := bindTexture_bound owned buffer
      have stage : Stage engine (engine.bindTexture buffer).2 [] := ⟨bound.moves, rfl, rfl, rfl⟩
      have kept : ∀ other handle, engine.Serves frame other handle →
          (engine.bindTexture buffer).2.Serves frame other handle := by
        intro other handle serves
        refine serves.mono fun image member _ => bound.kept image member ?_
        simpa using List.find?_eq_none.mp cached image member
      cases outcome : engine.bindTexture buffer with
      | mk result after =>
          rw [outcome] at bound stage kept
          cases result with
          | error cause => exact ⟨stage, bound.fatal, by simp, kept⟩
          | ok handle =>
              have open_ : after.progress.recording = some frame := by
                rw [stage.progress]
                exact recording
              have marked := Moves.markTexture (stage.moves.owned owned) open_ buffer.id
              refine ⟨stage.trans ⟨marked, rfl, rfl, rfl⟩, by simp, ?_,
                fun other handle serves => (kept other handle serves).marked _ _⟩
              intro found same
              cases same
              obtain ⟨image, member, bufferEq, handleEq⟩ := bound.found handle rfl
              rw [← bufferEq, ← handleEq]
              exact serves_marked member frame

end Engine

end Compositor
