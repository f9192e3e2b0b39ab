import Compositor.Proofs.Moment

/-!
# Images in caches

What leaves a cache is handed to the caller and nothing is lost on the way: every change of a cache
rearranges the same images. The images of a cache keep their kind, and there stays at most one for a
buffer.
-/

set_option autoImplicit false

namespace Compositor

/-! ## Lists of images -/

/-- Taking out the only image of a buffer leaves all the others. -/
theorem find?_filter_perm {images : List Image} (distinct : (images.map (·.buffer)).Nodup)
    (buffer : BufferId) :
    ((images.find? (·.buffer == buffer)).toList ++ images.filter (·.buffer ≠ buffer)).Perm
      images := by
  induction images with
  | nil => exact .nil
  | cons image images ih =>
      rw [List.map_cons, List.nodup_cons] at distinct
      by_cases same : image.buffer = buffer
      · have others : ∀ other ∈ images, other.buffer ≠ buffer := by
          intro other member equal
          apply distinct.1
          rw [same, ← equal]
          exact List.mem_map.mpr ⟨other, member, rfl⟩
        have kept : images.filter (·.buffer ≠ buffer) = images := by
          rw [List.filter_eq_self]
          simpa using others
        rw [List.find?_cons_of_pos (by simpa using same),
          List.filter_cons_of_neg (by simpa using same),
          kept]
        exact .refl _
      · rw [List.find?_cons_of_neg (by simpa using same),
          List.filter_cons_of_pos (by simpa using same)]
        exact List.perm_middle.trans ((ih distinct.2).cons image)

theorem find?_eraseP_perm (isWanted : Image → Bool) (images : List Image) :
    ((images.find? isWanted).toList ++ images.eraseP isWanted).Perm images := by
  induction images with
  | nil => exact .nil
  | cons image images ih =>
      by_cases wanted : isWanted image = true
      · rw [List.find?_cons_of_pos wanted, List.eraseP_cons_of_pos wanted]
        exact .refl _
      · rw [List.find?_cons_of_neg wanted, List.eraseP_cons_of_neg wanted]
        exact List.perm_middle.trans (ih.cons image)

theorem buffers_nodup_append {images : List Image} {image : Image}
    (distinct : (images.map (·.buffer)).Nodup)
    (absent : ∀ other ∈ images, other.buffer ≠ image.buffer) :
    ((images ++ [image]).map (·.buffer)).Nodup := by
  rw [List.map_append, List.nodup_append]
  refine ⟨distinct, by simp, ?_⟩
  intro buffer member other same equal
  obtain ⟨found, inside, rfl⟩ := List.mem_map.mp member
  rw [List.map_singleton, List.mem_singleton] at same
  exact absent found inside (equal.trans same)

/-! ## The shape of the caches -/

namespace Shelved

variable {textures outputs : List Image}

theorem empty : Shelved [] [] := ⟨by simp, .nil, by simp, .nil⟩

theorem sublist {fewerTextures fewerOutputs : List Image} (shelved : Shelved textures outputs)
    (left : fewerTextures.Sublist textures) (right : fewerOutputs.Sublist outputs) :
    Shelved fewerTextures fewerOutputs where
  textureKinds := fun image member => shelved.textureKinds image (left.subset member)
  textureBuffers := shelved.textureBuffers.sublist (left.map _)
  outputKinds := fun image member => shelved.outputKinds image (right.subset member)
  outputBuffers := shelved.outputBuffers.sublist (right.map _)

theorem marked {laterTextures laterOutputs : List Image} {frame : FrameSeq}
    (shelved : Shelved textures outputs)
    (left : List.Forall₂ (Image.MarkedBy frame) textures laterTextures)
    (right : List.Forall₂ (Image.MarkedBy frame) outputs laterOutputs) :
    Shelved laterTextures laterOutputs := by
  have buffers : ∀ {images later : List Image},
      List.Forall₂ (Image.MarkedBy frame) images later →
      later.map (·.buffer) = images.map (·.buffer) := by
    intro images later marked
    have same := congrArg (List.map LiveImage.buffer) (Image.map_asLive_of_marked marked)
    simpa [Image.asLive, Function.comp_def] using same
  refine ⟨fun image member => ?_, ?_, fun image member => ?_, ?_⟩
  · obtain ⟨original, inside, same⟩ := Image.exists_of_marked left member
    exact (congrArg LiveImage.kind same.asLive).trans (shelved.textureKinds original inside)
  · rw [buffers left]
    exact shelved.textureBuffers
  · obtain ⟨original, inside, same⟩ := Image.exists_of_marked right member
    exact (congrArg LiveImage.kind same.asLive).trans (shelved.outputKinds original inside)
  · rw [buffers right]
    exact shelved.outputBuffers

theorem insertTexture (shelved : Shelved textures outputs) {image : Image}
    (kind : image.kind = .texture) (absent : ∀ other ∈ textures, other.buffer ≠ image.buffer) :
    Shelved (textures ++ [image]) outputs := by
  refine ⟨fun other member => ?_, buffers_nodup_append shelved.textureBuffers absent, shelved.outputKinds,
    shelved.outputBuffers⟩
  rcases List.mem_append.mp member with before | new
  · exact shelved.textureKinds other before
  · rw [List.mem_singleton.mp new]
    exact kind

theorem insertOutput (shelved : Shelved textures outputs) {image : Image}
    (kind : image.kind = .output) (absent : ∀ other ∈ outputs, other.buffer ≠ image.buffer) :
    Shelved textures (outputs ++ [image]) := by
  refine ⟨shelved.textureKinds, shelved.textureBuffers, fun other member => ?_,
    buffers_nodup_append shelved.outputBuffers absent⟩
  rcases List.mem_append.mp member with before | new
  · exact shelved.outputKinds other before
  · rw [List.mem_singleton.mp new]
    exact kind

end Shelved

/-! ## Textures -/

namespace TextureCache

variable {cache : TextureCache}

theorem unbind_perm (distinct : (cache.entries.map (·.buffer)).Nodup) (buffer : BufferId) :
    ((cache.unbind buffer).1.toList ++ (cache.unbind buffer).2.entries).Perm cache.entries :=
  find?_filter_perm distinct buffer

theorem unbind_sublist (cache : TextureCache) (buffer : BufferId) :
    (cache.unbind buffer).2.entries.Sublist cache.entries :=
  List.filter_sublist

theorem unbind_absent (cache : TextureCache) (buffer : BufferId) :
    ∀ image ∈ (cache.unbind buffer).2.entries, image.buffer ≠ buffer := by
  intro image member
  simpa using (List.mem_filter.mp member).2

theorem find?_some {buffer : BufferId} {image : Image} (found : cache.find? buffer = some image) :
    image ∈ cache.entries ∧ image.buffer = buffer :=
  ⟨List.mem_of_find?_eq_some found, by simpa using List.find?_some found⟩

theorem releaseUnless_perm (cache : TextureCache) (keeps : Image → Bool) :
    ((cache.releaseUnless keeps).1 ++ (cache.releaseUnless keeps).2.entries).Perm
      cache.entries := by
  have arranged := cache.order.perm cache.releases (cache.entries.filter (!keeps ·))
  exact (arranged.append_right _).trans
    (List.perm_append_comm.trans (List.filter_append_perm keeps cache.entries))

theorem releaseUnless_sublist (cache : TextureCache) (keeps : Image → Bool) :
    (cache.releaseUnless keeps).2.entries.Sublist cache.entries :=
  List.filter_sublist

theorem drain_entries (cache : TextureCache) : cache.drain.2.entries = [] := by
  simp [drain, releaseUnless]

theorem markUsed_marked (cache : TextureCache) (buffer : BufferId) (frame : FrameSeq) :
    List.Forall₂ (Image.MarkedBy frame) cache.entries (cache.markUsed buffer frame).2.entries :=
  Image.markedBy_map frame (·.buffer = buffer) cache.entries

end TextureCache

/-! ## Render targets -/

namespace OutputCache

variable {cache : OutputCache}

theorem invalidate_perm (cache : OutputCache) (buffer : BufferId) :
    ((cache.invalidate buffer).1.toList ++ (cache.invalidate buffer).2.entries).Perm
      cache.entries :=
  find?_eraseP_perm _ _

theorem invalidate_sublist (cache : OutputCache) (buffer : BufferId) :
    (cache.invalidate buffer).2.entries.Sublist cache.entries :=
  List.eraseP_sublist

theorem markUsed_marked (cache : OutputCache) (buffer : BufferId) (frame : FrameSeq) :
    List.Forall₂ (Image.MarkedBy frame) cache.entries (cache.markUsed buffer frame).entries :=
  Image.markedBy_map frame (·.buffer = buffer) cache.entries

/-- The overflow and the rest are the old entries with the new one behind them. -/
theorem insert_append (cache : OutputCache) (image : Image) :
    (cache.insert image).1 ++ (cache.insert image).2.entries = cache.entries ++ [image] :=
  List.take_append_drop _ _

theorem insert_sublist (cache : OutputCache) (image : Image) :
    (cache.insert image).2.entries.Sublist (cache.entries ++ [image]) :=
  List.drop_sublist _ _

theorem mem_insert (cache : OutputCache) (image : Image) (room : cache.capacity ≠ 0) :
    image ∈ (cache.insert image).2.entries := by
  have enough : (cache.entries ++ [image]).length - cache.capacity ≤ cache.entries.length := by
    rw [List.length_append, List.length_singleton]
    omega
  simp only [insert, excess]
  rw [List.drop_append_of_le_length enough]
  exact List.mem_append_right _ (List.mem_singleton.mpr rfl)

/-! ### Getting a target -/

variable {state : Type} {buffer : BufferId} {mode : Mode}
  {create : state → Except EngineError Image × state} {initial final : state}

theorem getOrCreate_hit {image : Image} (hit : cache.hit? buffer mode = some image) :
    cache.getOrCreate buffer mode create initial =
      ⟨.ok (.cached image.handle), [], cache, initial⟩ := by
  rw [getOrCreate, hit]

theorem getOrCreate_refused {error : EngineError} (miss : cache.hit? buffer mode = none)
    (created : create initial = (.error error, final)) :
    cache.getOrCreate buffer mode create initial =
      ⟨.error error, (cache.invalidate buffer).1.toList, (cache.invalidate buffer).2, final⟩ := by
  simp [getOrCreate, miss, created]

theorem getOrCreate_transient {image : Image} (miss : cache.hit? buffer mode = none)
    (created : create initial = (.ok image, final)) (full : cache.capacity = 0) :
    cache.getOrCreate buffer mode create initial =
      ⟨.ok (.transient image), (cache.invalidate buffer).1.toList, (cache.invalidate buffer).2,
        final⟩ := by
  simp [getOrCreate, miss, created, invalidate, full]

theorem getOrCreate_cached {image : Image} (miss : cache.hit? buffer mode = none)
    (created : create initial = (.ok image, final)) (room : cache.capacity ≠ 0) :
    cache.getOrCreate buffer mode create initial =
      ⟨.ok (.cached image.handle),
        (cache.invalidate buffer).1.toList ++ ((cache.invalidate buffer).2.insert image).1,
        ((cache.invalidate buffer).2.insert image).2, final⟩ := by
  simp [getOrCreate, miss, created, invalidate, room]

theorem mem_markUsed {image : Image} (member : image ∈ cache.entries) (frame : FrameSeq) :
    image.markUsed frame ∈ (cache.markUsed image.buffer frame).entries := by
  refine List.mem_map.mpr ⟨image, member, ?_⟩
  rw [if_pos rfl]

theorem hit?_some {image : Image} (hit : cache.hit? buffer mode = some image) :
    image ∈ cache.entries ∧ image.buffer = buffer ∧ image.mode = mode := by
  obtain ⟨found, matched⟩ := Option.filter_eq_some_iff.mp hit
  exact ⟨List.mem_of_find?_eq_some found, by simpa using List.find?_some found,
    by simpa using matched⟩

end OutputCache

end Compositor
