import Compositor.Proofs.Device.Textures
import Compositor.Proofs.Dealings
import Mathlib.Data.Finset.Basic
import Mathlib.Data.Finset.Filter

/-!
# Textures while a frame is planned

The stock of an engine are the buffers that have a texture. Looking at the layers of a frame only
adds to it, and the plan lists as active those buffers of the layers that are in stock in the end. So
the eviction that follows leaves exactly the buffers of the layers that had a texture or got one.
-/

set_option autoImplicit false

namespace Compositor

variable {engine : Engine}

/-! ## The stock -/

namespace TextureCache

variable {cache : TextureCache} {buffer : BufferId}

/-- The buffers that have a texture. -/
def stock (cache : TextureCache) : Finset BufferId := (cache.entries.map (·.buffer)).toFinset

theorem mem_stock : buffer ∈ cache.stock ↔ ∃ image ∈ cache.entries, image.buffer = buffer := by
  rw [stock, List.mem_toFinset, List.mem_map]

theorem find?_eq_none_iff : cache.find? buffer = none ↔ buffer ∉ cache.stock := by
  rw [find?, List.find?_eq_none, mem_stock]
  simp

theorem stock_of_filter (keeps : BufferId → Bool) {after : TextureCache}
    (left : after.entries = cache.entries.filter (keeps ·.buffer)) :
    after.stock = cache.stock.filter (keeps · = true) := by
  ext buffer
  rw [mem_stock, Finset.mem_filter, mem_stock, left]
  constructor
  · intro found
    obtain ⟨image, member, rfl⟩ := found
    obtain ⟨inside, kept⟩ := List.mem_filter.mp member
    exact ⟨⟨image, inside, rfl⟩, kept⟩
  · intro found
    obtain ⟨⟨image, inside, rfl⟩, kept⟩ := found
    exact ⟨image, List.mem_filter.mpr ⟨inside, kept⟩, rfl⟩

theorem unbind_stock (cache : TextureCache) (buffer : BufferId) :
    (cache.unbind buffer).2.stock = cache.stock.erase buffer := by
  rw [stock_of_filter (· ≠ buffer) rfl]
  ext other
  simp [and_comm]

theorem evictStale_stock (cache : TextureCache) (active : List BufferId) :
    (cache.evictStale active).2.stock = cache.stock.filter (· ∈ active) := by
  rw [stock_of_filter active.contains rfl]
  simp

theorem insert_stock (cache : TextureCache) (image : Image) :
    (cache.insert image).stock = {image.buffer} ∪ cache.stock := by
  ext buffer
  simp [stock, TextureCache.insert]

theorem markUsed_stock (cache : TextureCache) (buffer : BufferId) (frame : FrameSeq) :
    (cache.markUsed buffer frame).2.stock = cache.stock := by
  have same : (cache.markUsed buffer frame).2.entries.map (·.buffer) =
      cache.entries.map (·.buffer) := by
    simp only [markUsed, List.map_map]
    refine List.map_congr_left fun image _ => ?_
    simp only [Function.comp_apply]
    split <;> rfl
  rw [stock, same, stock]

theorem stock_eq_empty (nothing : cache.entries = []) : cache.stock = ∅ := by
  rw [stock, nothing]
  rfl

end TextureCache

namespace Engine

/-- The buffers that have a texture. -/
def stock (engine : Engine) : Finset BufferId := engine.textures.stock

/-- The cache of textures had no part in what happened. -/
structure Bypasses (before after : Engine) : Prop where
  textures : after.textures = before.textures
  contexts : after.contexts = before.contexts
  imports : ∀ shelf, before.device.Imports shelf [] after.device

/-- Textures were made of the buffers `made` and joined those that there were. -/
structure Gathers (before : Engine) (made : List BufferId) (after : Engine) : Prop where
  stock : after.stock = before.stock ∪ made.toFinset
  contexts : after.contexts = before.contexts
  imports : before.device.Imports before.stock made after.device

namespace Bypasses

theorem refl (engine : Engine) : Bypasses engine engine := ⟨rfl, rfl, .refl engine.device⟩

theorem trans {first second third : Engine} (left : Bypasses first second)
    (right : Bypasses second third) : Bypasses first third :=
  ⟨right.textures.trans left.textures, right.contexts.trans left.contexts,
    fun shelf => (left.imports shelf).after_quiet (right.imports shelf)⟩

theorem of_plain {before after : Engine} (plain : Device.Plain before.device after.device)
    (textures : after.textures = before.textures) (contexts : after.contexts = before.contexts) :
    Bypasses before after :=
  ⟨textures, contexts, fun _ => .of_plain plain⟩

theorem stock {before after : Engine} (bypasses : Bypasses before after) :
    after.stock = before.stock := by
  rw [Engine.stock, bypasses.textures, Engine.stock]

theorem gathers {before after : Engine} (bypasses : Bypasses before after) :
    before.Gathers [] after := by
  refine ⟨?_, bypasses.contexts, bypasses.imports _⟩
  rw [bypasses.stock, List.toFinset_nil, Finset.union_empty]

theorem retire (engine : Engine) (images : List Image) : Bypasses engine (engine.retire images) :=
  of_plain (engine.retire_plain images) rfl rfl

theorem awaitAny (engine : Engine) (fence : Option Fence) :
    Bypasses engine (engine.awaitAny fence).2 := by
  have plain := engine.awaitAny_plain fence
  rw [engine.awaitAny_eq fence] at plain ⊢
  exact of_plain plain rfl rfl

end Bypasses

namespace Gathers

theorem trans {first second third : Engine} {early late : List BufferId}
    (left : first.Gathers early second) (right : second.Gathers late third) :
    first.Gathers (early ++ late) third := by
  refine ⟨?_, right.contexts.trans left.contexts, left.imports.trans ?_⟩
  · rw [right.stock, left.stock, List.toFinset_append, Finset.union_assoc]
  · rw [← left.stock]
    exact right.imports

theorem bypass {before middle after : Engine} {made : List BufferId}
    (gathers : before.Gathers made middle) (bypasses : middle.Bypasses after) :
    before.Gathers made after := by
  have both := gathers.trans bypasses.gathers
  rwa [List.append_nil] at both

end Gathers

/-! ## Binding -/

/-- A buffer has a texture after binding exactly if binding succeeds. -/
theorem bindTexture_stock (engine : Engine) (buffer : Buffer) :
    (engine.bindTexture buffer).2.stock =
      if (engine.bindTexture buffer).1.isOk then insert buffer.id engine.stock
      else engine.stock.erase buffer.id := by
  have provided := Device.bindImage_provides engine [] [] buffer engine.limit
  cases outcome : engine.device.bindImage engine.contexts.current buffer engine.limit with
  | mk result device =>
      rw [outcome] at provided
      cases provided with
      | refused =>
          rw [bindTexture_refused outcome, (Bypasses.retire _ _).stock]
          exact engine.textures.unbind_stock buffer.id
      | @made image _ same =>
          rw [bindTexture_made outcome, (Bypasses.retire _ _).stock, stock,
            TextureCache.insert_stock, TextureCache.unbind_stock, same]
          have added : {buffer.id} ∪ engine.textures.stock.erase buffer.id =
              insert buffer.id engine.stock := by
            ext other
            by_cases own : other = buffer.id <;> simp [own, stock]
          exact added

theorem bindTexture_contexts (engine : Engine) (buffer : Buffer) :
    (engine.bindTexture buffer).2.contexts = engine.contexts := rfl

/-- Binding a buffer that has no texture asks for no other one. -/
theorem bindTexture_imports (engine : Engine) {buffer : Buffer} {shelf : Finset BufferId}
    (absent : buffer.id ∉ shelf) :
    engine.device.Imports shelf
      (if (engine.bindTexture buffer).1.isOk then [buffer.id] else [])
      (engine.bindTexture buffer).2.device := by
  cases outcome : engine.device.bindImage engine.contexts.current buffer engine.limit with
  | mk result device =>
      have asked := Device.Imports.bindImage absent outcome
      cases result with
      | error error =>
          have retired := retire_plain
            { engine with textures := (engine.textures.unbind buffer.id).2, device }
            (engine.textures.unbind buffer.id).1.toList
          rw [bindTexture_refused outcome]
          exact asked.quiet (.of_plain retired)
      | ok image =>
          have retired := retire_plain
            { engine with
              textures := (engine.textures.unbind buffer.id).2.insert image
              device }
            (engine.textures.unbind buffer.id).1.toList
          rw [bindTexture_made outcome]
          exact asked.quiet (.of_plain retired)

/-! ## Looking at layers -/

/-- What providing the texture of a buffer did: at most one texture was made, of a buffer that had
none, and there is one now exactly if the answer is a texture. -/
structure Supplies (engine : Engine) (buffer : BufferId) (result : Except BindError ImageHandle)
    (after : Engine) : Prop where
  gathers : ∃ made : List BufferId, engine.Gathers made after ∧ ∀ other ∈ made, other = buffer
  found : result.isOk = true ↔ buffer ∈ after.stock

theorem textureFor_supplies (engine : Engine) (buffer : Buffer) (frame : FrameSeq) :
    engine.Supplies buffer.id (engine.textureFor buffer frame).1
      (engine.textureFor buffer frame).2 := by
  unfold textureFor
  cases cached : engine.textures.find? buffer.id with
  | some image =>
      obtain ⟨member, same⟩ := TextureCache.find?_some cached
      have marked := engine.textures.markUsed_stock buffer.id frame
      rw [TextureCache.markUsed_hit cached]
      refine ⟨⟨[], ⟨?_, rfl, .refl _ _⟩, nofun⟩, iff_of_true rfl ?_⟩
      · rw [List.toFinset_nil, Finset.union_empty]
        exact marked
      · rw [stock, marked]
        exact TextureCache.mem_stock.mpr ⟨image, member, same⟩
  | none =>
      have absent : buffer.id ∉ engine.stock := TextureCache.find?_eq_none_iff.mp cached
      have stocked := engine.bindTexture_stock buffer
      have contexts := engine.bindTexture_contexts buffer
      have imports := engine.bindTexture_imports absent
      rw [TextureCache.markUsed_miss cached]
      cases outcome : engine.bindTexture buffer with
      | mk result after =>
          rw [outcome] at stocked contexts imports
          cases result with
          | error cause =>
              have kept : after.stock = engine.stock :=
                stocked.trans (Finset.erase_eq_of_notMem absent)
              refine ⟨⟨[], ⟨?_, contexts, imports⟩, nofun⟩, iff_of_false nofun ?_⟩
              · rw [List.toFinset_nil, Finset.union_empty]
                exact kept
              · rw [kept]
                exact absent
          | ok handle =>
              have marked := after.textures.markUsed_stock buffer.id frame
              have added : (after.textures.markUsed buffer.id frame).2.stock =
                  insert buffer.id engine.stock := marked.trans stocked
              refine ⟨⟨[buffer.id], ⟨?_, contexts, imports⟩, ?_⟩, iff_of_true rfl ?_⟩
              · rw [stock, added, List.toFinset_cons, List.toFinset_nil, Finset.union_comm]
                rfl
              · exact fun other only => List.mem_singleton.mp only
              · rw [stock, added]
                exact Finset.mem_insert_self ..

end Engine

namespace FramePlan

/-- The buffers that layers sample. -/
def sampledBy (layers : List Layer) : List BufferId :=
  layers.filterMap fun layer => layer.buffer?.map (·.id)

/-- What is known of the textures once layers that sample `seen` were looked at. -/
structure Surveyed (start : Engine) (seen : List BufferId) (plan : FramePlan) : Prop where
  gathers : ∃ made : List BufferId, start.Gathers made plan.engine
  active : ∀ buffer, buffer ∈ plan.active ↔ buffer ∈ seen ∧ buffer ∈ plan.engine.stock

/-- What looking at layers did to the textures. -/
inductive Surveys (start : Engine) (seen : List BufferId) : Except Engine FramePlan → Prop where
  | lost {made : List BufferId} {after : Engine} : start.Gathers made after →
      Surveys start seen (.error after)
  | whole {plan : FramePlan} : plan.Surveyed start seen → Surveys start seen (.ok plan)

variable {start : Engine} {seen : List BufferId} {plan : FramePlan}

theorem surveyed_start (engine : Engine) : (FramePlan.start engine).Surveyed engine [] :=
  ⟨⟨[], (Engine.Bypasses.refl engine).gathers⟩, by simp [FramePlan.start]⟩

/-- After a sampled layer, its buffer is active too if it is in stock. -/
theorem Surveyed.sample {buffer : BufferId} {after : Engine} {active : List BufferId}
    (surveyed : plan.Surveyed start seen)
    (gathers : ∃ made : List BufferId, plan.engine.Gathers made after ∧
      ∀ other ∈ made, other = buffer)
    (named : ∀ other, other ∈ active ↔
      other ∈ plan.active ∨ other = buffer ∧ buffer ∈ after.stock) :
    ({ plan with engine := after, active } : FramePlan).Surveyed start (seen ++ [buffer]) := by
  obtain ⟨earlier, gathered⟩ := surveyed.gathers
  obtain ⟨made, gathers, own⟩ := gathers
  refine ⟨⟨_, gathered.trans gathers⟩, fun other => ?_⟩
  have stock : other ∈ after.stock ↔ other ∈ plan.engine.stock ∨ other ∈ made := by
    rw [gathers.stock, Finset.mem_union, List.mem_toFinset]
  dsimp only
  rw [named, surveyed.active, List.mem_append, List.mem_singleton]
  by_cases same : other = buffer
  · subst same
    rw [stock]
    grind
  · have unmade : other ∉ made := fun member => same (own other member)
    rw [stock]
    grind

theorem Surveyed.draw (surveyed : plan.Surveyed start seen) (index : Nat) (layer : Layer)
    (source : Option ImageHandle) : (plan.draw index layer source).Surveyed start seen :=
  ⟨surveyed.gathers, surveyed.active⟩

theorem Surveyed.skip (surveyed : plan.Surveyed start seen) (index : Nat) (layer : Layer)
    (reason : SkipReason) : (plan.skip index layer reason).Surveyed start seen :=
  ⟨surveyed.gathers, surveyed.active⟩

theorem look_surveys (surveyed : plan.Surveyed start seen) (frame : FrameSeq) (index : Nat)
    (layer : Layer) :
    Surveys start (seen ++ (layer.buffer?.map (·.id)).toList) (plan.look frame index layer) := by
  unfold look Layer.buffer?
  cases layer.source with
  | solid color =>
      dsimp only [Option.map_none, Option.toList_none]
      rw [List.append_nil]
      exact .whole (surveyed.draw index layer none)
  | sampled buffer fence =>
      have supplies := plan.engine.textureFor_supplies buffer frame
      dsimp only [Option.map_some, Option.toList_some]
      cases outcome : plan.engine.textureFor buffer frame with
      | mk result after =>
          rw [outcome] at supplies
          obtain ⟨gathers, found⟩ := supplies
          cases result with
          | error cause =>
              have absent : buffer.id ∉ after.stock := fun inside => nomatch found.mpr inside
              have passed : ({ plan with engine := after } : FramePlan).Surveyed start
                  (seen ++ [buffer.id]) :=
                surveyed.sample gathers (by simp [absent])
              dsimp only
              split
              · obtain ⟨made, gathers⟩ := passed.gathers
                exact .lost gathers
              · exact .whole (passed.skip index layer _)
          | ok handle =>
              have awaited := Engine.Bypasses.awaitAny after fence
              obtain ⟨made, gathers, own⟩ := gathers
              have inside : buffer.id ∈ (after.awaitAny fence).2.stock := by
                rw [awaited.stock]
                exact found.mp rfl
              have taken : FramePlan.Surveyed start (seen ++ [buffer.id])
                  { plan with
                    engine := (after.awaitAny fence).2
                    active := buffer.id :: plan.active } :=
                surveyed.sample ⟨made, gathers.bypass awaited, own⟩ (by simp [inside, or_comm])
              dsimp only
              split
              · exact .whole (taken.draw index layer _)
              · exact .whole (taken.skip index layer _)

theorem looks_survey (surveyed : plan.Surveyed start seen) (frame : FrameSeq)
    (layers : List (Layer × Nat)) :
    Surveys start (seen ++ sampledBy (layers.map Prod.fst))
      (layers.foldlM (fun plan (layer, index) => plan.look frame index layer) plan) := by
  induction layers generalizing plan seen with
  | nil =>
      rw [List.map_nil, sampledBy, List.filterMap_nil, List.append_nil]
      exact .whole surveyed
  | cons entry layers ih =>
      obtain ⟨layer, index⟩ := entry
      have first := look_surveys surveyed frame index layer
      rw [List.foldlM_cons]
      dsimp only
      cases outcome : plan.look frame index layer with
      | error after =>
          rw [outcome] at first
          cases first with
          | lost gathers => exact .lost gathers
      | ok next =>
          rw [outcome] at first
          cases first with
          | whole surveyed =>
              have rest := ih surveyed
              have sampled : sampledBy (((layer, index) :: layers).map Prod.fst) =
                  (layer.buffer?.map (·.id)).toList ++ sampledBy (layers.map Prod.fst) := by
                rw [sampledBy, List.map_cons, List.filterMap_cons]
                cases layer.buffer?.map (·.id) <;> rfl
              rw [sampled, ← List.append_assoc]
              exact rest

theorem lookAll_surveys (engine : Engine) (frame : FrameSeq) (layers : List Layer) :
    Surveys engine (sampledBy layers) (lookAll engine frame layers) := by
  have surveys := looks_survey (surveyed_start engine) frame layers.zipIdx
  rw [List.zipIdx_map_fst, List.nil_append] at surveys
  exact surveys

end FramePlan

end Compositor
