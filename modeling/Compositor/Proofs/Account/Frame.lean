import Compositor.Proofs.Account.Ending
import Compositor.Proofs.Loss
import Compositor.Proofs.Possession

/-!
# What a finished frame drew

Every layer of a finished frame has one fate. It is left out because its buffer could not be imported
or because its fence did not signal, or it is handed to the context, which draws it unless its source
is gone. All that was drawn went into one target, in the order of the layers.
-/

set_option autoImplicit false

namespace Compositor

variable {engine : Engine} {frame : FrameSeq}

/-! ## Fates of layers -/

/-- What becomes of a layer of a finished frame. -/
inductive LayerFate where
  | skipped (reason : SkipReason)
  /-- The context drew the layer, from a texture unless it is solid. -/
  | drawn (source : Option ImageHandle)
  deriving DecidableEq, Repr

namespace LayerFate

def reason? : LayerFate → Option SkipReason
  | .skipped reason => some reason
  | .drawn _ => none

def source? : LayerFate → Option (Option ImageHandle)
  | .skipped _ => none
  | .drawn source => some source

end LayerFate

namespace Engine

/-- The fate of a layer that comes after `earlier` ones in a frame that took an engine from `ready`
to `after`. -/
def layerFate (ready after : Engine) (earlier : List Layer) (layer : Layer) : LayerFate :=
  match ready.omission? (ready.residents earlier) layer with
  | some reason => .skipped reason
  | none =>
    let source := layer.buffer?.bind (after.handle? ·.id)
    if after.device.refuses after.contexts.current source then
      .skipped (.drawRejected (.validation .sourceNotLive))
    else .drawn source

/-- Where a frame was drawn: into a target that the cache has afterwards, or into a new image that
no cache has. -/
structure DrewInto (before : Device) (after : Engine) (buffer : BufferId) (isCached : Bool)
    (target : ImageHandle) : Prop where
  cached : isCached = true →
    ∃ image, after.outputs.find? buffer = some image ∧ image.handle = target
  fresh : isCached = false → before.issued < target.number ∧
    ∀ image ∈ after.textures.entries ++ after.outputs.entries, image.handle ≠ target

/-- What a finished frame says and did, layer by layer. -/
structure Account (engine : Engine) (request : FrameRequest) (output : FrameOutput)
    (after : Engine) : Prop where
  skipped : output.status.skipped.Perm
    (Layer.tally (fun earlier index layer =>
      ((engine.ready request).layerFate after earlier layer).reason?.map (.of index layer))
      request.layers)
  drawn : ∃ target,
    after.device.draws = engine.device.draws ++
      (Layer.tally (fun earlier _ layer =>
        ((engine.ready request).layerFate after earlier layer).source?) request.layers).map
        (⟨output.status.mode, target, ·⟩) ∧
      DrewInto engine.device after request.target.id output.status.outputCached target
  layersDrawn : output.status.layersDrawn =
    (Layer.tally (fun earlier _ layer =>
      ((engine.ready request).layerFate after earlier layer).source?) request.layers).length
  total : output.status.layersDrawn + output.status.skipped.length = request.layers.length
  /-- Only solid layers are drawn without a source. -/
  textured : ∀ index layer, request.layers[index]? = some layer →
    (engine.ready request).layerFate after (request.layers.take index) layer = .drawn none →
    layer.buffer? = none

/-- The layers that the context refuses to draw, of those that it is asked to. -/
def refusals (ready after : Engine) (layers : List Layer) : List SkippedLayer :=
  (ready.chosen layers).filterMap fun (index, layer) =>
    if after.device.refuses after.contexts.current (layer.buffer?.bind (after.handle? ·.id)) then
      some (.of index layer (.drawRejected (.validation .sourceNotLive)))
    else none

/-- The sources that the context draws. -/
def sources (ready after : Engine) (layers : List Layer) : List (Option ImageHandle) :=
  (ready.chosen layers).filterMap fun (_, layer) =>
    let source := layer.buffer?.bind (after.handle? ·.id)
    if after.device.refuses after.contexts.current source then none else some source

theorem sources_eq (ready after : Engine) (layers : List Layer) :
    ready.sources after layers =
      Layer.tally (fun earlier _ layer => (ready.layerFate after earlier layer).source?) layers := by
  rw [sources, chosen, Layer.tally_filterMap]
  congr 1
  funext earlier index layer
  unfold layerFate
  cases ready.omission? (ready.residents earlier) layer with
  | some reason => rfl
  | none =>
      dsimp only
      rw [if_pos rfl, Option.bind_some]
      split <;> rfl

/-- Together with the omissions, the refusals are all that is skipped. -/
theorem omissions_refusals_perm (ready after : Engine) (layers : List Layer) :
    (ready.omissions layers ++ ready.refusals after layers).Perm
      (Layer.tally (fun earlier index layer =>
        (ready.layerFate after earlier layer).reason?.map (.of index layer)) layers) := by
  rw [omissions, refusals, chosen, Layer.tally_filterMap]
  refine (Layer.tally_perm ?_ layers).trans (.of_eq ?_)
  · intro earlier index layer omitted
    cases reason : ready.omission? (ready.residents earlier) layer with
    | none =>
        rw [reason] at omitted
        exact absurd rfl omitted
    | some _ => rfl
  · congr 1
    funext earlier index layer
    unfold layerFate
    cases ready.omission? (ready.residents earlier) layer with
    | some reason => rfl
    | none =>
        dsimp only
        rw [if_pos rfl, Option.bind_some, Option.map_none, Option.none_or]
        split <;> rfl

theorem refusals_sources_length (ready after : Engine) (layers : List Layer) :
    (ready.refusals after layers).length + (ready.sources after layers).length =
      (ready.chosen layers).length := by
  rw [refusals, sources]
  induction ready.chosen layers with
  | nil => rfl
  | cons entry entries ih =>
      rw [List.filterMap_cons, List.filterMap_cons]
      dsimp only at ih ⊢
      by_cases refused : after.device.refuses after.contexts.current
          (entry.2.buffer?.bind (after.handle? ·.id)) = true
      · rw [if_pos refused, if_pos refused]
        dsimp only
        rw [List.length_cons, List.length_cons]
        omega
      · rw [if_neg refused, if_neg refused]
        dsimp only
        rw [List.length_cons, List.length_cons]
        omega

theorem mem_chosen {ready : Engine} {layers : List Layer} {index : Nat} {layer : Layer}
    (here : layers[index]? = some layer)
    (chosen : ready.omission? (ready.residents (layers.take index)) layer = none) :
    (index, layer) ∈ ready.chosen layers :=
  List.mem_filterMap.mpr
    ⟨(layer, index), List.mk_mem_zipIdx_iff_getElem?.mpr here, if_pos chosen⟩

end Engine

/-! ## Finished frames -/

namespace FramePlan

variable {plan : FramePlan} {ready targeted last : Engine} {layers : List Layer}

/-- What is told of planned draws, by the layers that they draw. -/
theorem Accounts.filter_map {α : Type} (accounts : plan.Accounts ready layers)
    {picks : PlannedDraw → Bool} {pick : PlannedDraw → α} {tell : Nat × Layer → Option α}
    (told : ∀ planned ∈ plan.draws, tell (planned.index, planned.layer) =
      if picks planned then some (pick planned) else none) :
    (plan.draws.filter picks).map pick = (ready.chosen layers).filterMap tell := by
  rw [← accounts.draws, List.filterMap_map]
  generalize plan.draws = draws at told
  induction draws with
  | nil => rfl
  | cons planned draws ih =>
      have first := told planned List.mem_cons_self
      have rest := ih fun other member => told other (List.mem_cons_of_mem _ member)
      rw [List.filterMap_cons, Function.comp_apply, first, ← rest]
      by_cases picked : picks planned = true
      · rw [List.filter_cons_of_pos picked, if_pos picked, List.map_cons]
      · rw [List.filter_cons_of_neg picked, if_neg picked]

variable {start : Device} {mode : Mode} {target : ImageHandle} {recording : Recording}
  (accounts : plan.Accounts ready layers) (orderly : plan.engine.Orderly)
  (leaves : plan.engine.Leaves plan.active targeted start last)

include accounts leaves

/-- Planned draws sample what the cache of textures still holds in the end. -/
theorem Accounts.sources_last {planned : PlannedDraw} (member : planned ∈ plan.draws) :
    planned.source = planned.layer.buffer?.bind (last.handle? ·.id) := by
  rw [accounts.sources planned member]
  cases sampled : planned.layer.buffer? with
  | none => rfl
  | some buffer =>
      obtain ⟨named, resident⟩ := accounts.held planned member buffer sampled
      exact (leaves.sampled buffer.id named resident).symm

include orderly in
/-- What is refused can be told from the images that there are in the end. -/
theorem Accounts.refuses_last {planned : PlannedDraw} (member : planned ∈ plan.draws) :
    targeted.device.refuses targeted.contexts.current planned.source =
      last.device.refuses last.contexts.current
        (planned.layer.buffer?.bind (last.handle? ·.id)) := by
  rw [leaves.contexts, ← accounts.sources_last leaves member]
  refine Device.refuses_congr fun handle sampled => (leaves.live handle ?_).symm
  rw [accounts.sources planned member] at sampled
  obtain ⟨buffer, -, found⟩ := Option.bind_eq_some_iff.mp sampled
  exact orderly.handle?_issued (leaves.targeting.usable leaves.targetUsable) found

include orderly in
theorem Accounts.rejected
    (told : recording.Accounts targeted.device targeted.contexts.current target plan.draws) :
    recording.rejected = ready.refusals last layers := by
  rw [told.rejected]
  refine accounts.filter_map fun planned member => ?_
  rw [accounts.refuses_last orderly leaves member]

include orderly in
theorem Accounts.drawn_sources :
    (plan.draws.filter fun planned =>
        !targeted.device.refuses targeted.contexts.current planned.source).map (·.source) =
      ready.sources last layers := by
  refine accounts.filter_map fun planned member => ?_
  rw [accounts.refuses_last orderly leaves member, accounts.sources_last leaves member]
  dsimp only
  cases last.device.refuses last.contexts.current
      (planned.layer.buffer?.bind (last.handle? ·.id)) <;> rfl

/-- The layers to draw that are not solid have a texture in the end. -/
theorem Accounts.textured {index : Nat} {layer : Layer} (member : (index, layer) ∈ ready.chosen layers)
    {buffer : Buffer} (sampled : layer.buffer? = some buffer) :
    ∃ handle, last.handle? buffer.id = some handle := by
  rw [← accounts.draws] at member
  obtain ⟨planned, inside, same⟩ := List.mem_map.mp member
  cases same
  obtain ⟨named, resident⟩ := accounts.held planned inside buffer sampled
  rw [leaves.sampled buffer.id named resident]
  exact Engine.handle?_of_mem_stock resident

end FramePlan

namespace Engine

theorem targetFor_drewInto {target : Buffer} {usesOutputCache : Bool} {slot : OutputSlot}
    {targeted last : Engine} {start : Device} (orderly : engine.Orderly)
    (given : engine.targetFor target frame usesOutputCache = (.ok slot, targeted))
    (usable : targeted.device.lost = false) (grown : start.issued ≤ engine.device.issued)
    (textures : last.textures.entries.Sublist engine.textures.entries)
    (outputs : last.outputs = targeted.outputs) :
    DrewInto start last target.id slot.isCached slot.handle := by
  have targetedOrderly := orderly.targetFor target frame usesOutputCache
  have calm := engine.targetFor_calm target frame usesOutputCache
  rw [given] at targetedOrderly calm
  have before := orderly (calm.usable usable)
  cases targetFor_aims given with
  | @cached image _ _ member buffer same =>
      refine ⟨fun _ => ?_, fun transient => absurd transient.symm Bool.false_ne_true⟩
      have distinct : (targeted.outputs.entries.map (·.buffer)).Nodup := by
        have targets := (targetedOrderly usable).targets
        rwa [outline, List.map_map] at targets
      refine ⟨image, ?_, same⟩
      rw [outputs, ← buffer]
      exact find?_of_mem distinct member
  | transient handle fewer =>
      refine ⟨fun cached => absurd cached Bool.false_ne_true,
        fun _ => ⟨?_, fun other member same => ?_⟩⟩
      · rw [OutputSlot.handle, handle]
        exact Nat.lt_succ_of_le grown
      · have issued : other.handle.number ≤ engine.device.issued := by
          rcases List.mem_append.mp member with texture | output
          · exact before.textureHandles other.asLive
              (List.mem_map.mpr ⟨other, textures.subset texture, rfl⟩)
          · rw [outputs] at output
            exact before.targetHandles other.asLive
              (List.mem_map.mpr ⟨other, fewer.subset output, rfl⟩)
        rw [same, OutputSlot.handle, handle] at issued
        exact absurd issued (Nat.not_succ_le_self _)

/-- What a finished frame says and did, as its two loops tell it. -/
structure Tells (engine : Engine) (request : FrameRequest) (output : FrameOutput) (after : Engine) :
    Prop where
  skipped : output.status.skipped =
    engine.omissions request.layers ++ engine.refusals after request.layers
  layersDrawn : output.status.layersDrawn = (engine.sources after request.layers).length
  drawn : ∃ target,
    after.device.draws = engine.device.draws ++
      (engine.sources after request.layers).map (⟨output.status.mode, target, ·⟩) ∧
      DrewInto engine.device after request.target.id output.status.outputCached target
  textured : ∀ index layer, (index, layer) ∈ engine.chosen request.layers →
    ∀ buffer, layer.buffer? = some buffer → ∃ handle, after.handle? buffer.id = some handle

theorem Composition.tells {request : FrameRequest} {output : FrameOutput} {after : Engine}
    (orderly : engine.Orderly) (composed : engine.Composition request output after) :
    engine.Tells request output after := by
  cases composed with
  | @staged plan slot targeted submitted recording fence planned given recorded final =>
      have leaves := leaves_of_stages given recorded final
      have begun : engine.begun.Orderly := fun usable =>
        (orderly usable).fewer rfl (.refl _) (.refl _) (Nat.le_refl _)
      have plannedOrderly := begun.lookAll planned
      have plannedUsable := leaves.targeting.usable leaves.targetUsable
      have accounts := FramePlan.lookAll_accounts planned plannedUsable
      have told := Recording.ofDraws_accounts recorded
      have looking := FramePlan.looks_deal engine.begun.progress.lastIssued request.layers.zipIdx
        (.start engine.begun)
      have calm := FramePlan.looks_calm engine.begun.progress.lastIssued request.layers.zipIdx
        (.start engine.begun)
      rw [← FramePlan.lookAll.eq_1, planned] at looking calm
      have mode : targeted.contexts.current = submitted.contexts.active := by
        rw [leaves.contexts, leaves.targeting.contexts, accounts.agrees.contexts]
        exact if_pos (orderly (looking.usable plannedUsable)).active
      have sources := accounts.drawn_sources plannedOrderly leaves
      have rejected := accounts.rejected plannedOrderly leaves told
      refine ⟨?_, ?_, ⟨slot.handle, ?_, ?_⟩, ?_⟩
      · exact congrArg₂ (· ++ ·) accounts.skipped rejected
      · have drawn := told.drawn
        rw [← List.length_map (fun planned : PlannedDraw => planned.source), sources] at drawn
        exact drawn
      · have before : targeted.device.draws = engine.device.draws :=
          leaves.targeting.dealings.draws.trans looking.dealings.draws
        have records := congrArg (List.map (DrawRecord.mk targeted.contexts.current slot.handle)) sources
        rw [List.map_map] at records
        refine (leaves.draws.trans told.draws).trans ?_
        rw [before, ← mode]
        exact congrArg (_ ++ ·) records
      · exact targetFor_drewInto (plannedOrderly.evicted plan.active) given leaves.targetUsable
          (Nat.le_trans calm.issued (plan.engine.evicted_calm plan.active).issued)
          leaves.textures leaves.outputs
      · exact fun _ _ member _ sampled => accounts.textured leaves member sampled

theorem ready_plain (engine : Engine) (request : FrameRequest) :
    Device.Plain engine.device (engine.ready request).device :=
  (engine.awaitAny_plain request.inputFence).trans (switchTo_plain _ request.mode)

/-- A finished frame accounts for each of its layers. -/
theorem draw_account {request : FrameRequest} {output : FrameOutput} {after : Engine}
    (orderly : engine.Orderly) (finished : engine.draw request = (.ok output, after)) :
    engine.Account request output after := by
  obtain ⟨alive, -, -, composed⟩ := draw_composition finished
  have aliveStill : (engine.waited request).lost = false := by
    rw [waited_lost]
    exact alive
  have ready : (engine.ready request).Orderly :=
    (orderly.awaitAny request.inputFence).switchTo aliveStill request.mode
  have tells := composed.tells ready
  have plain := engine.ready_plain request
  have fates := (engine.ready request).sources_eq after request.layers
  refine ⟨?_, ?_, ?_, ?_, ?_⟩
  · rw [tells.skipped]
    exact omissions_refusals_perm _ after request.layers
  · obtain ⟨target, draws, into⟩ := tells.drawn
    refine ⟨target, ?_, into.cached, ?_⟩
    · rw [draws, plain.draws, fates]
    · rw [← plain.issued]
      exact into.fresh
  · rw [tells.layersDrawn, fates]
  · have parts := (engine.ready request).omissions_chosen_length request.layers
    have drawn := (engine.ready request).refusals_sources_length after request.layers
    rw [tells.layersDrawn, tells.skipped, List.length_append]
    omega
  · intro index layer here fate
    unfold layerFate at fate
    split at fate
    · cases fate
    · rename_i chosen
      dsimp only at fate
      split at fate
      · cases fate
      · cases sampled : layer.buffer? with
        | none => rfl
        | some buffer =>
            obtain ⟨handle, found⟩ :=
              tells.textured index layer (mem_chosen here chosen) buffer sampled
            rw [sampled, Option.bind_some, found] at fate
            cases fate

end Engine

namespace Session

/-- Whatever other users of the device did before, a finished frame accounts for each of its layers:
for what became of it, and for what was drawn, from where and into what. -/
theorem layers_accounted (options : DeviceOptions) (capabilities : Capabilities)
    (order : ReleaseOrder) (incidents : List Incident) (request : FrameRequest)
    {engine after : Engine} {output : FrameOutput}
    (reached : ((new (.new options) capabilities order).endure incidents).engine? = some engine)
    (finished : engine.draw request = (.ok output, after)) :
    engine.Account request output after :=
  Engine.draw_account (Engine.orderly_enduring.endure_new incidents reached) finished

/-- The second layer samples a texture that is gone, and the third one a buffer that cannot be
imported. The last two share a buffer, which one of them may not sample yet. -/
private def variedFrame : FrameRequest :=
  let sample := fun id : UInt64 => Layer.ofBuffer (.plain ⟨id⟩ 8 8) (.ofSize 8 8)
  ⟨.ofSize 64 64, [.ofColor .black (.ofSize 8 8), sample 1, sample 2,
    (sample 3).withAcquireFence ⟨0⟩, sample 3], .plain ⟨9⟩ 64 64, true, none⟩

/-- Another user of the device destroys the texture that was bound. -/
private def textureGone : List Incident :=
  [.act (.start ⟨2, false, false, 3000, 3000⟩), .act (.bind (.plain ⟨1⟩ 8 8)),
    .act (.rejectImports ⟨2⟩), .act (.createFence .caller .pending), .meddle .normal ⟨1⟩]

/-- Each of the five layers meets another fate. -/
theorem layers_accounted_of_all_fates :
    ∃ engine after output,
      ((Session.new (.new .standard) DeviceOptions.standard.capabilities .byArrival).endure
        textureGone).engine? = some engine ∧
      engine.draw variedFrame = (.ok output, after) ∧
      output.status.layersDrawn = 2 ∧ output.status.skipped.length = 3 ∧
      engine.Account variedFrame output after := by
  have drawn : ((Session.new (.new .standard) DeviceOptions.standard.capabilities
      .byArrival).endure textureGone).engine?.any (fun engine =>
        (engine.draw variedFrame).1.toOption.any fun output =>
          output.status.layersDrawn = 2 ∧ output.status.skipped.length = 3) = true := by decide
  obtain ⟨engine, reached, facts⟩ := (Option.any_eq_true _ _).mp drawn
  obtain ⟨output, given, counts⟩ := (Option.any_eq_true _ _).mp facts
  simp only [decide_eq_true_eq] at counts
  have finished : engine.draw variedFrame = (.ok output, (engine.draw variedFrame).2) := by
    cases outcome : engine.draw variedFrame with
    | mk result after =>
        rw [outcome] at given
        cases result with
        | error error => cases given
        | ok made =>
            cases given
            rfl
  exact ⟨engine, _, output, reached, finished, counts.1, counts.2,
    layers_accounted .standard DeviceOptions.standard.capabilities .byArrival textureGone
      variedFrame reached finished⟩

end Session

end Compositor
