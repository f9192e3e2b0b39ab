import Compositor.Proofs.Calm
import Compositor.Proofs.Outline.Planning

/-!
# What planning decides about each layer

Whether a layer is left out before anything is drawn depends on what the engine knows when planning
starts and on the layers before it: these may have given its buffer a texture. So the plan of a frame
can be told layer by layer, provided that the device is usable afterwards.
-/

set_option autoImplicit false

namespace Compositor

variable {engine : Engine} {frame : FrameSeq}

/-! ## Layers in turn -/

namespace Layer

/-- What is told of layers, each with the layers before it and its position. -/
def tally {α : Type} (tell : List Layer → Nat → Layer → Option α) (layers : List Layer) : List α :=
  layers.zipIdx.filterMap fun (layer, index) => tell (layers.take index) index layer

variable {α β : Type} {tell other : List Layer → Nat → Layer → Option α}

theorem tally_concat (layers : List Layer) (layer : Layer) :
    tally tell (layers ++ [layer]) =
      tally tell layers ++ (tell layers layers.length layer).toList := by
  have earlier : (layers.zipIdx.filterMap fun (entry, index) =>
      tell ((layers ++ [layer]).take index) index entry) = tally tell layers := by
    refine List.filterMap_congr fun entry member => ?_
    obtain ⟨entry, index⟩ := entry
    have bound : index < layers.length := by
      have found := List.mk_mem_zipIdx_iff_getElem?.mp member
      exact (List.getElem?_eq_some_iff.mp found).1
    dsimp only
    rw [List.take_append_of_le_length (Nat.le_of_lt bound)]
  rw [tally, List.zipIdx_append, List.filterMap_append, earlier]
  cases told : tell layers layers.length layer <;> simp [told]

theorem tally_filterMap (pick : α → Option β) (layers : List Layer) :
    (tally tell layers).filterMap pick =
      tally (fun earlier index layer => (tell earlier index layer).bind pick) layers :=
  List.filterMap_filterMap ..

/-- Where at most one of two things is told of each layer, both can be told in one go. -/
theorem tally_perm (apart : ∀ earlier index layer, tell earlier index layer ≠ none →
      other earlier index layer = none) (layers : List Layer) :
    (tally tell layers ++ tally other layers).Perm
      (tally (fun earlier index layer =>
        (tell earlier index layer).or (other earlier index layer)) layers) := by
  induction layers using List.reverseRecOn with
  | nil => exact .nil
  | append_singleton layers layer ih =>
      simp only [tally_concat]
      cases told : tell layers layers.length layer with
      | none =>
          simp only [Option.toList_none, List.append_nil, Option.none_or]
          rw [← List.append_assoc]
          exact ih.append_right _
      | some value =>
          rw [apart layers layers.length layer (by simp [told])]
          simp only [Option.toList_some, Option.toList_none, List.append_nil, Option.some_or]
          refine .trans ?_ (ih.append_right [value])
          rw [List.append_assoc, List.append_assoc]
          exact .append_left _ List.perm_append_comm

end Layer

namespace TextureCache

variable {cache : TextureCache}

theorem markUsed_find? (cache : TextureCache) (used : BufferId) (frame : FrameSeq)
    (buffer : BufferId) : ((cache.markUsed used frame).2.find? buffer).map (·.handle) =
      (cache.find? buffer).map (·.handle) := by
  have same : (fun image : Image => image.buffer == buffer) ∘ (fun image : Image =>
      if image.buffer = used then image.markUsed frame else image) =
      fun image => image.buffer == buffer := by
    funext image
    simp only [Function.comp_apply]
    split <;> rfl
  rw [find?, markUsed, List.find?_map, same, Option.map_map, find?]
  congr 1
  funext image
  simp only [Function.comp_apply]
  split <;> rfl

theorem unbind_find? {buffer other : BufferId} (apart : other ≠ buffer) :
    (cache.unbind buffer).2.find? other = cache.find? other := by
  rw [find?, unbind, List.find?_filter, find?]
  congr 1
  funext image
  by_cases own : image.buffer = other
  · simp [own, apart]
  · simp [own]

theorem insert_find?_of_some {image found : Image} {buffer : BufferId}
    (cached : cache.find? buffer = some found) :
    (cache.insert image).find? buffer = some found := by
  rw [find?, insert, List.find?_append]
  rw [find?] at cached
  rw [cached, Option.some_or]

theorem insert_find?_of_none {image : Image}
    (absent : cache.find? image.buffer = none) :
    (cache.insert image).find? image.buffer = some image := by
  rw [find?, insert, List.find?_append]
  rw [find?] at absent
  rw [absent, Option.none_or]
  simp

theorem releaseUnless_find? {keeps : Image → Bool} {image : Image} {buffer : BufferId}
    (cached : cache.find? buffer = some image)
    (kept : ∀ other : Image, other.buffer = buffer → keeps other = true) :
    (cache.releaseUnless keeps).2.find? buffer = some image := by
  rw [find?, releaseUnless, List.find?_filter, ← cached, find?]
  congr 1
  funext other
  by_cases own : other.buffer = buffer
  · simp [own, kept other own]
  · simp [own]

end TextureCache

namespace Engine

/-! ## What an engine knows -/

/-- Why no texture can be made of a buffer, if so. -/
def refusal? (engine : Engine) (buffer : Buffer) : Option BindError :=
  ImportRequest.refusal? engine.device.rejecting engine.contexts.current .texture buffer
    engine.limit

/-- The buffers with a texture after a layer, of those that had one before it or can be imported. -/
def stocked (engine : Engine) (stock : Finset BufferId) (layer : Layer) : Finset BufferId :=
  match layer.buffer? with
  | none => stock
  | some buffer => if (engine.refusal? buffer).isNone then insert buffer.id stock else stock

/-- The buffers that are resident when a layer is reached, after the ones before it. -/
def residents (engine : Engine) (earlier : List Layer) : Finset BufferId :=
  earlier.foldl engine.stocked engine.stock

/-- How the import of the buffer of a layer fails, if the layer comes to that. -/
def importFailure? (engine : Engine) (resident : Finset BufferId) (layer : Layer) :
    Option BindError :=
  layer.buffer?.bind fun buffer =>
    if buffer.id ∈ resident then none else engine.refusal? buffer

/-- Why a layer is left out before anything is drawn, if so. -/
def omission? (engine : Engine) (resident : Finset BufferId) (layer : Layer) : Option SkipReason :=
  match engine.importFailure? resident layer with
  | some cause => some (.importFailed cause)
  | none =>
    if layer.acquireFence?.all engine.device.fences.isSignaled then none else some .acquireTimeout

def handle? (engine : Engine) (buffer : BufferId) : Option ImageHandle :=
  (engine.textures.find? buffer).map (·.handle)

/-- Both engines decide alike about imports and fences. -/
structure Agrees (engine later : Engine) : Prop where
  rejecting : later.device.rejecting = engine.device.rejecting
  contexts : later.contexts = engine.contexts
  capabilities : later.capabilities = engine.capabilities
  fences : later.device.fences = engine.device.fences

namespace Agrees

theorem refl (engine : Engine) : engine.Agrees engine := ⟨rfl, rfl, rfl, rfl⟩

theorem trans {first second third : Engine} (left : first.Agrees second)
    (right : second.Agrees third) : first.Agrees third :=
  ⟨right.rejecting.trans left.rejecting, right.contexts.trans left.contexts,
    right.capabilities.trans left.capabilities, right.fences.trans left.fences⟩

theorem refusal? {later : Engine} (agrees : engine.Agrees later) (buffer : Buffer) :
    later.refusal? buffer = engine.refusal? buffer := by
  rw [Engine.refusal?, limit, agrees.rejecting, agrees.contexts, agrees.capabilities]
  rfl

end Agrees

theorem mem_stock_iff {buffer : BufferId} : buffer ∈ engine.stock ↔ engine.handle? buffer ≠ none := by
  rw [handle?, ne_eq, Option.map_eq_none_iff, TextureCache.find?_eq_none_iff, not_not]
  rfl

theorem handle?_of_mem_stock {buffer : BufferId} (resident : buffer ∈ engine.stock) :
    ∃ handle, engine.handle? buffer = some handle :=
  Option.ne_none_iff_exists'.mp (mem_stock_iff.mp resident)

theorem stock_kept {later : Engine}
    (kept : ∀ other handle, engine.handle? other = some handle →
      later.handle? other = some handle) {buffer : BufferId} (resident : buffer ∈ engine.stock) :
    buffer ∈ later.stock := by
  obtain ⟨handle, found⟩ := handle?_of_mem_stock resident
  rw [mem_stock_iff, kept buffer handle found]
  exact nofun

/-! ## Waiting -/

theorem awaitAny_signaled (engine : Engine) (fence : Option Fence) :
    (engine.awaitAny fence).1 = fence.all engine.device.fences.isSignaled := by
  cases fence <;> rfl

theorem awaitAny_agrees {fence : Option Fence}
    (usable : (engine.awaitAny fence).2.device.lost = false) :
    engine.Agrees (engine.awaitAny fence).2 := by
  have calm := engine.awaitAny_calm fence
  have same := engine.awaitAny_eq fence
  refine ⟨calm.rejecting, ?_, ?_, calm.fences usable⟩
  · rw [same]
  · rw [same]

/-! ## Textures -/

/-- What providing the texture of a buffer came to. -/
structure Yields (engine : Engine) (buffer : Buffer) (result : Except BindError ImageHandle)
    (after : Engine) : Prop where
  agrees : engine.Agrees after
  stock : after.stock =
    if (engine.refusal? buffer).isNone then insert buffer.id engine.stock else engine.stock
  failed : ∀ cause, result = .error cause →
    buffer.id ∉ engine.stock ∧ engine.refusal? buffer = some cause
  made : ∀ handle, result = .ok handle →
    (buffer.id ∈ engine.stock ∨ engine.refusal? buffer = none) ∧
      after.handle? buffer.id = some handle
  kept : ∀ other handle, engine.handle? other = some handle → after.handle? other = some handle

/-- Looking for a texture is a calm dealing with the current context. -/
theorem textureFor_agrees {buffer : Buffer}
    (usable : (engine.textureFor buffer frame).2.device.lost = false) :
    engine.Agrees (engine.textureFor buffer frame).2 :=
  have deals := Deals.textureFor engine buffer frame
  have calm := engine.textureFor_calm buffer frame
  ⟨calm.rejecting, deals.contexts, deals.capabilities, calm.fences usable⟩

/-- Handles of other buffers are told by their images. -/
theorem handle?_of_kept {other buffer : BufferId} {handle : ImageHandle} {later : Engine}
    (found : engine.handle? other = some handle) (absent : buffer ∉ engine.stock)
    (kept : ∀ image, engine.textures.find? other = some image → other ≠ buffer →
      later.handle? other = some image.handle) : later.handle? other = some handle := by
  obtain ⟨image, cached, rfl⟩ := Option.map_eq_some_iff.mp found
  refine kept image cached ?_
  rintro rfl
  exact absent (mem_stock_iff.mpr (by rw [found]; exact nofun))

theorem bindImage_refusal {buffer : Buffer} {result : Except BindError Image} {device : Device}
    (outcome : engine.device.bindImage engine.contexts.current buffer engine.limit =
      (result, device))
    (usable : device.lost = false) :
    match result with
    | .error cause => engine.refusal? buffer = some cause
    | .ok _ => engine.refusal? buffer = none := by
  have made := @Device.bindImage_canvas engine.contexts.current buffer engine.limit engine.device
  rw [outcome] at made
  have same := congrArg Prod.fst (made usable)
  unfold Canvas.make at same
  have asked : ImportRequest.refusal? engine.device.canvas.rejecting engine.contexts.current
    .texture buffer engine.limit = engine.refusal? buffer := rfl
  rw [asked] at same
  cases refused : engine.refusal? buffer with
  | some error =>
      rw [refused] at same
      cases result with
      | error cause =>
          cases same
          rfl
      | ok image => cases same
  | none =>
      rw [refused] at same
      cases result with
      | error cause => cases same
      | ok image => rfl

theorem textureFor_yields {buffer : Buffer}
    (usable : (engine.textureFor buffer frame).2.device.lost = false) :
    engine.Yields buffer (engine.textureFor buffer frame).1
      (engine.textureFor buffer frame).2 := by
  have agrees := textureFor_agrees usable
  unfold textureFor at usable agrees ⊢
  cases cached : engine.textures.find? buffer.id with
  | some image =>
      have handles := engine.textures.markUsed_find? buffer.id frame
      have resident : buffer.id ∈ engine.stock := by
        rw [mem_stock_iff, handle?, cached]
        exact nofun
      rw [TextureCache.markUsed_hit cached] at agrees ⊢
      refine ⟨agrees, ?_, nofun, fun handle same => ⟨.inl resident, ?_⟩, fun other handle found => ?_⟩
      · rw [Finset.insert_eq_of_mem resident, ite_self]
        exact engine.textures.markUsed_stock buffer.id frame
      · cases same
        exact (handles buffer.id).trans (by rw [cached]; rfl)
      · exact (handles other).trans found
  | none =>
      have absent : buffer.id ∉ engine.stock := TextureCache.find?_eq_none_iff.mp cached
      have stock := engine.bindTexture_stock buffer
      rw [TextureCache.markUsed_miss cached] at usable agrees ⊢
      cases bound : engine.device.bindImage engine.contexts.current buffer engine.limit with
      | mk result device =>
          cases result with
          | error cause =>
              rw [bindTexture_refused bound] at usable agrees stock ⊢
              have refused := bindImage_refusal bound ((retire_plain _ _).usable usable)
              refine ⟨agrees, ?_, fun _ same => ?_, nofun, fun other handle found => ?_⟩
              · rw [refused]
                exact stock.trans (Finset.erase_eq_of_notMem absent)
              · cases same
                exact ⟨absent, refused⟩
              · refine handle?_of_kept found absent fun image cached apart => ?_
                have there := (TextureCache.unbind_find? apart).trans cached
                exact congrArg (Option.map Image.handle) there
          | ok image =>
              rw [bindTexture_made bound] at usable agrees stock ⊢
              have accepted := bindImage_refusal bound ((retire_plain _ _).usable usable)
              let unbound := (engine.textures.unbind buffer.id).2
              have same : image.buffer = buffer.id := by rw [(Device.bindImage_fresh bound).1]; rfl
              have nothing : unbound.find? image.buffer = none := by
                rw [same]
                exact TextureCache.find?_eq_none_iff.mpr (by simp [unbound, TextureCache.unbind_stock])
              have inserted := TextureCache.insert_find?_of_none nothing
              have handles := (unbound.insert image).markUsed_find? buffer.id frame
              refine ⟨agrees, ?_, nofun, fun handle made => ⟨.inr accepted, ?_⟩,
                fun other handle found => ?_⟩
              · rw [accepted]
                exact ((unbound.insert image).markUsed_stock buffer.id frame).trans stock
              · cases made
                exact (handles buffer.id).trans (by rw [← same, inserted]; rfl)
              · refine handle?_of_kept found absent fun old cached apart => (handles other).trans ?_
                have there := (TextureCache.unbind_find? apart).trans cached
                rw [TextureCache.insert_find?_of_some there]
                rfl

/-- Waiting takes no texture away. -/
theorem Yields.awaitAny {buffer : Buffer} {result : Except BindError ImageHandle}
    {after : Engine} {fence : Option Fence} (yields : engine.Yields buffer result after)
    (usable : (after.awaitAny fence).2.device.lost = false) :
    engine.Yields buffer result (after.awaitAny fence).2 := by
  have agrees := yields.agrees.trans (awaitAny_agrees usable)
  rw [after.awaitAny_eq fence] at agrees ⊢
  exact ⟨agrees, yields.stock, yields.failed, yields.made, yields.kept⟩

namespace Yields

variable {ready after : Engine} {layer : Layer} {buffer : Buffer}

theorem stocked {result : Except BindError ImageHandle} (yields : engine.Yields buffer result after)
    (agrees : ready.Agrees engine) (sampled : layer.buffer? = some buffer) :
    after.stock = ready.stocked engine.stock layer := by
  rw [yields.stock, Engine.stocked, sampled, agrees.refusal?]

theorem omission?_of_error {cause : BindError} (yields : engine.Yields buffer (.error cause) after)
    (agrees : ready.Agrees engine) (sampled : layer.buffer? = some buffer) :
    ready.omission? engine.stock layer = some (.importFailed cause) := by
  obtain ⟨absent, refused⟩ := yields.failed cause rfl
  rw [agrees.refusal?] at refused
  simp [Engine.omission?, importFailure?, sampled, absent, refused]

/-- A layer that has a texture is left out only because of its fence. -/
theorem omission?_of_ok {handle : ImageHandle} (yields : engine.Yields buffer (.ok handle) after)
    (agrees : ready.Agrees engine) (sampled : layer.buffer? = some buffer) :
    ready.omission? engine.stock layer =
      if layer.acquireFence?.all engine.device.fences.isSignaled then none
      else some .acquireTimeout := by
  obtain ⟨importable, -⟩ := yields.made handle rfl
  rw [agrees.refusal?] at importable
  have imported : ready.importFailure? engine.stock layer = none := by
    rw [importFailure?, sampled, Option.bind_some]
    split
    · rfl
    · rename_i absent
      exact importable.resolve_left absent
  rw [Engine.omission?, imported, agrees.fences]

end Yields

end Engine

/-! ## The plan of a frame -/

def SkippedLayer.of (index : Nat) (layer : Layer) (reason : SkipReason) : SkippedLayer :=
  ⟨index, layer.buffer?.map (·.id), reason⟩

namespace Engine

/-- The layers that are left out before anything is drawn. -/
def omissions (engine : Engine) (layers : List Layer) : List SkippedLayer :=
  Layer.tally (fun earlier index layer =>
    (engine.omission? (engine.residents earlier) layer).map (SkippedLayer.of index layer)) layers

/-- The layers to draw, with their positions. -/
def chosen (engine : Engine) (layers : List Layer) : List (Nat × Layer) :=
  Layer.tally (fun earlier index layer =>
    if engine.omission? (engine.residents earlier) layer = none then some (index, layer)
    else none) layers

theorem residents_concat (engine : Engine) (earlier : List Layer) (layer : Layer) :
    engine.residents (earlier ++ [layer]) = engine.stocked (engine.residents earlier) layer := by
  rw [residents, List.foldl_concat]
  rfl

/-- Every layer is left out or drawn. -/
theorem omissions_chosen_length (engine : Engine) (layers : List Layer) :
    (engine.omissions layers).length + (engine.chosen layers).length = layers.length := by
  induction layers using List.reverseRecOn with
  | nil => rfl
  | append_singleton layers layer ih =>
      rw [omissions, chosen] at ih ⊢
      rw [Layer.tally_concat, Layer.tally_concat]
      cases engine.omission? (engine.residents layers) layer with
      | none =>
          simp only [Option.map_none, Option.toList_none, List.append_nil, if_true,
            Option.toList_some, List.length_append, List.length_cons, List.length_nil]
          omega
      | some reason =>
          simp only [Option.map_some, Option.toList_some, reduceCtorEq, if_false,
            Option.toList_none, List.append_nil, List.length_append, List.length_cons,
            List.length_nil]
          omega

end Engine

namespace FramePlan

/-- The plan of an engine that was `ready` for the layers `seen` so far. -/
structure Accounts (ready : Engine) (seen : List Layer) (plan : FramePlan) : Prop where
  agrees : ready.Agrees plan.engine
  stock : plan.engine.stock = ready.residents seen
  skipped : plan.skipped = ready.omissions seen
  draws : plan.draws.map (fun planned => (planned.index, planned.layer)) = ready.chosen seen
  sources : ∀ planned ∈ plan.draws,
    planned.source = planned.layer.buffer?.bind (plan.engine.handle? ·.id)
  held : ∀ planned ∈ plan.draws, ∀ buffer ∈ planned.layer.buffer?,
    buffer.id ∈ plan.active ∧ buffer.id ∈ plan.engine.stock

theorem start_accounts (engine : Engine) : (start engine).Accounts engine [] :=
  ⟨.refl engine, rfl, rfl, rfl, nofun, nofun⟩

variable {ready : Engine} {seen : List Layer} {plan : FramePlan} {layer : Layer}

namespace Accounts

/-- A source stays what it is if no texture is lost. -/
theorem sources_kept (accounts : plan.Accounts ready seen) {later : Engine}
    (kept : ∀ other handle, plan.engine.handle? other = some handle →
      later.handle? other = some handle) :
    ∀ planned ∈ plan.draws, planned.source = planned.layer.buffer?.bind (later.handle? ·.id) := by
  intro planned member
  rw [accounts.sources planned member]
  cases sampled : planned.layer.buffer? with
  | none => rfl
  | some buffer =>
      have resident := (accounts.held planned member buffer sampled).2
      obtain ⟨handle, found⟩ := Engine.handle?_of_mem_stock resident
      rw [Option.bind_some, Option.bind_some, found, kept _ _ found]

/-- The layer is left out. -/
theorem skip (accounts : plan.Accounts ready seen) {later : Engine} {active : List BufferId}
    {reason : SkipReason} (agrees : plan.engine.Agrees later)
    (stock : later.stock = ready.stocked plan.engine.stock layer)
    (kept : ∀ other handle, plan.engine.handle? other = some handle →
      later.handle? other = some handle)
    (more : plan.active ⊆ active)
    (omitted : ready.omission? plan.engine.stock layer = some reason) :
    (skip { plan with engine := later, active } seen.length layer reason).Accounts ready
      (seen ++ [layer]) where
  agrees := accounts.agrees.trans agrees
  stock := by
    rw [Engine.residents_concat, ← accounts.stock]
    exact stock
  skipped := by
    rw [Engine.omissions, Layer.tally_concat, ← accounts.stock, omitted]
    exact congrArg (· ++ _) accounts.skipped
  draws := by
    rw [Engine.chosen, Layer.tally_concat, ← accounts.stock, omitted, if_neg nofun,
      Option.toList_none, List.append_nil]
    exact accounts.draws
  sources := accounts.sources_kept kept
  held := fun planned member buffer sampled => by
    obtain ⟨named, resident⟩ := accounts.held planned member buffer sampled
    exact ⟨more named, Engine.stock_kept kept resident⟩

/-- The layer is drawn. -/
theorem draw (accounts : plan.Accounts ready seen) {later : Engine} {active : List BufferId}
    {source : Option ImageHandle} (agrees : plan.engine.Agrees later)
    (stock : later.stock = ready.stocked plan.engine.stock layer)
    (kept : ∀ other handle, plan.engine.handle? other = some handle →
      later.handle? other = some handle)
    (more : plan.active ⊆ active)
    (chosen : ready.omission? plan.engine.stock layer = none)
    (found : source = layer.buffer?.bind (later.handle? ·.id))
    (held : ∀ buffer ∈ layer.buffer?, buffer.id ∈ active ∧ buffer.id ∈ later.stock) :
    (draw { plan with engine := later, active } seen.length layer source).Accounts ready
      (seen ++ [layer]) where
  agrees := accounts.agrees.trans agrees
  stock := by
    rw [Engine.residents_concat, ← accounts.stock]
    exact stock
  skipped := by
    rw [Engine.omissions, Layer.tally_concat, ← accounts.stock, chosen, Option.map_none,
      Option.toList_none, List.append_nil]
    exact accounts.skipped
  draws := by
    rw [Engine.chosen, Layer.tally_concat, ← accounts.stock, if_pos chosen, FramePlan.draw,
      List.map_append, accounts.draws]
    rfl
  sources := fun planned member => by
    rcases List.mem_append.mp member with before | new
    · exact accounts.sources_kept kept planned before
    · rw [List.mem_singleton.mp new]
      exact found
  held := fun planned member buffer sampled => by
    rcases List.mem_append.mp member with before | new
    · obtain ⟨named, resident⟩ := accounts.held planned before buffer sampled
      exact ⟨more named, Engine.stock_kept kept resident⟩
    · rw [List.mem_singleton.mp new] at sampled
      exact held buffer sampled

end Accounts

theorem look_accounts (accounts : plan.Accounts ready seen) {next : FramePlan}
    (looked : plan.look frame seen.length layer = .ok next)
    (usable : next.engine.device.lost = false) : next.Accounts ready (seen ++ [layer]) := by
  unfold look at looked
  cases source : layer.source with
  | solid color =>
      rw [source] at looked
      cases looked
      have buffer? : layer.buffer? = none := by rw [Layer.buffer?, source]
      have fence? : layer.acquireFence? = none := by rw [Layer.acquireFence?, source]
      refine accounts.draw (.refl _) ?_ (fun _ _ => id) (List.Subset.refl _) ?_ ?_ ?_
      · rw [Engine.stocked, buffer?]
      · simp [Engine.omission?, Engine.importFailure?, buffer?, fence?]
      · rw [buffer?]
        rfl
      · simp [buffer?]
  | sampled buffer fence =>
      rw [source] at looked
      have buffer? : layer.buffer? = some buffer := by rw [Layer.buffer?, source]
      have fence? : layer.acquireFence? = fence := by rw [Layer.acquireFence?, source]
      have provided := @Engine.textureFor_yields plan.engine frame buffer
      dsimp only at looked
      cases outcome : plan.engine.textureFor buffer frame with
      | mk result after =>
          rw [outcome] at looked provided
          cases result with
          | error cause =>
              dsimp only at looked
              split at looked
              · cases looked
              · cases looked
                have yields := provided usable
                exact accounts.skip yields.agrees (yields.stocked accounts.agrees buffer?)
                  yields.kept (List.Subset.refl _)
                  (yields.omission?_of_error accounts.agrees buffer?)
          | ok handle =>
              have signals := after.awaitAny_signaled fence
              have calm := after.awaitAny_calm fence
              have waited := fun given => @Engine.Yields.awaitAny _ _ _ _ fence (provided given)
              dsimp only at looked
              generalize after.awaitAny fence = answer at looked signals calm waited
              obtain ⟨signaled, last⟩ := answer
              dsimp only at looked signals calm waited
              have ends : last.device.lost = false := by
                split at looked <;> (cases looked; exact usable)
              have yields := waited (calm.usable ends) ends
              have stock := yields.stocked accounts.agrees buffer?
              have omission := yields.omission?_of_ok accounts.agrees buffer?
              rw [fence?, ← (provided (calm.usable ends)).agrees.fences, ← signals] at omission
              split at looked
              · rename_i done
                cases looked
                obtain ⟨-, found⟩ := yields.made handle rfl
                rw [if_pos done] at omission
                refine accounts.draw yields.agrees stock yields.kept
                  (List.subset_cons_self _ _) omission ?_ fun sampled same => ?_
                · rw [buffer?]
                  exact found.symm
                · cases buffer?.symm.trans same
                  exact ⟨List.mem_cons_self, Engine.mem_stock_iff.mpr (by
                    rw [found]
                    exact Option.some_ne_none _)⟩
              · rename_i late
                cases looked
                rw [if_neg late] at omission
                exact accounts.skip yields.agrees stock yields.kept (List.subset_cons_self _ _)
                  omission

theorem looks_account {layers : List Layer} (accounts : plan.Accounts ready seen)
    {last : FramePlan}
    (looked : (layers.zipIdx seen.length).foldlM
      (fun plan (layer, index) => plan.look frame index layer) plan = .ok last)
    (usable : last.engine.device.lost = false) : last.Accounts ready (seen ++ layers) := by
  induction layers generalizing plan seen with
  | nil =>
      cases looked
      rw [List.append_nil]
      exact accounts
  | cons layer layers ih =>
      rw [List.zipIdx_cons, List.foldlM_cons] at looked
      dsimp only at looked
      cases outcome : plan.look frame seen.length layer with
      | error after =>
          rw [outcome] at looked
          cases looked
      | ok next =>
          rw [outcome] at looked
          have rest := looks_calm frame (layers.zipIdx (seen.length + 1)) next
          have reached := congrArg FramePlan.reached looked
          have first := look_accounts accounts outcome
            (rest.usable ((congrArg (·.device.lost) reached).trans usable))
          have position : (seen ++ [layer]).length = seen.length + 1 := by simp
          rw [← position] at looked
          have whole := ih first looked
          rw [List.append_assoc] at whole
          exact whole

/-- The plan of a frame, told layer by layer. -/
theorem lookAll_accounts {layers : List Layer}
    (looked : lookAll engine frame layers = .ok plan)
    (usable : plan.engine.device.lost = false) : plan.Accounts engine layers :=
  looks_account (start_accounts engine) looked usable

end FramePlan

end Compositor
